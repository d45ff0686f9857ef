import ChromiumQnx.Gpu.GpuQnx

/-!
# The GL bindings of the Screen platform beside the GPU probe

`LoadGLES2Bindings` opens libEGL and libGLESv2, hands `eglGetProcAddress` and the two libraries to
the GL implementation, and never closes them.  The probe of `gpu_qnx.cc` opens and closes the same
libraries in the same process, and its `ShutdownGpu` may come at any time.

The loader counts the references of both.  `Held` says that the references of the bindings and the
handles of the probe are among them, so that what the bindings handed out stays live, and that
libGLESv2, which resolves its symbols in libEGL, is never open alone.
-/

namespace ChromiumQnx

namespace QnxScreenGl

open TransitionSystem DynamicLoader

/-! ## The functions -/

/-- What the system answers during one call.  The context of Screen is a pointer that
`screen_create_context` may set, beside its result. -/
structure OzoneWorld where
  dlopen : GpuLibrary → Bool
  screenCreateContextSym : Bool
  screenCreateContext : Bool × ℤ
  eglGetProcAddress : Bool

/-- The process: the probe with the loader, `g_screen_lib` and `g_screen_ctx` of the platform,
`GLGetProcAddressProc`, the native libraries of the GL implementation, and for bookkeeping how often
the bindings opened each library. -/
structure State where
  gpu : GpuState
  screenLib : Bool
  screenCtx : Bool
  getProc : Option (Symbol GpuLibrary)
  nativeLibraries : List GpuLibrary
  opens : GpuLibrary → ℕ

/-- A successful `dlopen` of the platform. -/
def openLib (lib : GpuLibrary) (s : State) : State :=
  { s with
    gpu := { s.gpu with loader := s.gpu.loader.openLib lib }
    opens := Function.update s.opens lib (s.opens lib + 1) }

/-- `EnsureScreenContext`: the library is opened once, and there is no result. -/
def ensureScreenContext (w : OzoneWorld) (s : State) : State :=
  if s.screenCtx then s else
  let s := if s.screenLib || !w.dlopen .screen then s
    else { openLib .screen s with screenLib := true }
  if !s.screenLib then s else
  if !w.screenCreateContextSym then s else
  { s with screenCtx := w.screenCreateContext.1 }

/-- `GetNativeDisplay`. -/
def getNativeDisplay (w : OzoneWorld) (s : State) : State := ensureScreenContext w s

/-- `LoadGLES2Bindings`. -/
def loadGLES2Bindings (w : OzoneWorld) (s : State) : Bool × State :=
  let s := ensureScreenContext w s
  if !w.dlopen .egl then (false, s) else
  let s := openLib .egl s
  if !w.dlopen .gles2 then (false, s) else
  let s := openLib .gles2 s
  if !w.eglGetProcAddress then (false, s) else
  (true,
    { s with
      getProc := some (s.gpu.loader.resolve .egl)
      nativeLibraries := s.nativeLibraries ++ [.egl, .gles2] })

/-- A call of the probe or of the platform. -/
inductive Op
  | probe (op : GpuState.Op)
  | getNativeDisplay (w : OzoneWorld)
  | loadGLES2Bindings (w : OzoneWorld)

/-- One call. -/
def step (s : State) : Op → Option State
  | .probe op => (GpuState.step s.gpu op).map fun gpu => { s with gpu := gpu }
  | .getNativeDisplay w => some (getNativeDisplay w s)
  | .loadGLES2Bindings w => some (loadGLES2Bindings w s).2

/-- The program's start. -/
def start : State where
  gpu := GpuState.start
  screenLib := false
  screenCtx := false
  getProc := none
  nativeLibraries := []
  opens := fun _ => 0

/-! ## The libraries of the probe -/

/-- The loader and the handles of the probe. -/
def librariesOf (g : GpuState) : DynamicLoader GpuLibrary × (GpuLibrary → Bool) :=
  (g.loader, g.handle)

/-- A property of the libraries that the functions of the probe that open and close libraries
keep. -/
structure LibraryRule (P : GpuState → Prop) : Prop where
  congr : ∀ g g', librariesOf g' = librariesOf g → P g → P g'
  screen : ∀ g w, P g → P (GpuState.ensureScreenContext w g).2
  init : ∀ g w, P g → P (GpuState.initializeGpuLibraries w g).2
  shutdown : ∀ g, P g → P (GpuState.shutdownGpu g)

section

variable {g g' : GpuState} {P : GpuState → Prop}

@[simp] lemma librariesOf_call (g : GpuState) (e : EntryPoint) :
    librariesOf (g.call e) = librariesOf g := rfl

@[simp] lemma librariesOf_callIfSet (g : GpuState) (e : EntryPoint) :
    librariesOf (g.callIfSet e) = librariesOf g := by
  unfold GpuState.callIfSet
  split <;> rfl

@[simp] lemma librariesOf_printGpuInfo (g : GpuState) :
    librariesOf g.printGpuInfo = librariesOf g := by
  unfold GpuState.printGpuInfo
  split
  · rfl
  · rw [librariesOf_callIfSet]
    rfl

/-- `InitializeEglDisplay` ends with the libraries as they are before or after the context. -/
lemma LibraryRule.initializeEglDisplay (h : LibraryRule P) (w : GpuWorld) (hg : P g) :
    P (g.initializeEglDisplay w).2 := by
  have hguard : P (if g.missingCritical then g.initializeGpuLibraries w else (true, g)).2 := by
    split
    · exact h.init g w hg
    · exact hg
  unfold GpuState.initializeEglDisplay
  generalize (if g.missingCritical then g.initializeGpuLibraries w else (true, g)) = r at hguard ⊢
  obtain ⟨ok, g₁⟩ := r
  have hscreen := h.screen g₁ w hguard
  dsimp only
  split
  · exact hguard
  · split
    · exact hscreen
    · refine h.congr _ _ ?_ hscreen
      split
      · rw [librariesOf_callIfSet, librariesOf_call]
      · split
        · rw [librariesOf_callIfSet, librariesOf_call, librariesOf_call]
        · split <;> simp only [librariesOf_call]

/-- So does `ProbeGpuContext`. -/
lemma LibraryRule.probeGpuContext (h : LibraryRule P) (w : GpuWorld) (hg : P g) :
    P (g.probeGpuContext w).2 := by
  have hscreen := h.screen g w hg
  unfold GpuState.probeGpuContext
  dsimp only
  split
  · exact hg
  · split
    · exact hscreen
    · refine h.congr _ _ ?_ hscreen
      repeat' split
      all_goals
        simp only [librariesOf_call, librariesOf_callIfSet, librariesOf_printGpuInfo]

/-- Every function of the probe keeps the property. -/
lemma LibraryRule.step (h : LibraryRule P) {op : GpuState.Op} (hs : GpuState.step g op = some g')
    (hg : P g) : P g' := by
  rcases op with w | w | w | w | _ | _
  · rw [← Option.some.inj hs]
    exact h.init g w hg
  · rw [← Option.some.inj hs]
    exact h.initializeEglDisplay w hg
  · rw [← Option.some.inj hs]
    exact h.initializeEglDisplay w hg
  · rw [← Option.some.inj hs]
    exact h.probeGpuContext w hg
  · rw [← Option.some.inj hs]
    exact h.congr _ _ (librariesOf_printGpuInfo g) hg
  · rw [← Option.some.inj hs]
    exact h.shutdown g hg

end

/-! ## The references -/

/-- The loader counts the references of the bindings and the handle of the probe. -/
def Counted (opens : GpuLibrary → ℕ) (g : GpuState) : Prop :=
  ∀ lib, opens lib + (g.handle lib).toNat ≤ g.loader.refs lib

/-- The references are counted, libGLESv2 has no more of them than libEGL, and `eglGetProcAddress`
is live once it was handed out. -/
structure Held (opens : GpuLibrary → ℕ) (getProc : Option (Symbol GpuLibrary)) (g : GpuState) :
    Prop where
  counted : Counted opens g
  handle_gles2 : g.handle .egl = true → g.handle .gles2 = true
  gles2_le : g.loader.refs .gles2 ≤ g.loader.refs .egl
  egl_of_getProc : ∀ sym, getProc = some sym → sym.library = .egl ∧ 0 < opens .egl
  live : ∀ sym, getProc = some sym → g.loader.Live sym

section

variable {opens : GpuLibrary → ℕ} {getProc : Option (Symbol GpuLibrary)} {g : GpuState}
  {w : GpuWorld}

lemma refs_openLibrary (g : GpuState) (w : GpuWorld) (lib l : GpuLibrary) :
    (g.openLibrary w lib).loader.refs l =
      g.loader.refs l + if l = lib ∧ w.dlopen lib = true then 1 else 0 := by
  change (if w.dlopen lib then g.loader.openLib lib else g.loader).refs l = _
  split
  · rename_i hopen
    rw [refs_openLib]
    split
    · rename_i hl
      rw [hl, if_pos ⟨rfl, hopen⟩]
    · rename_i hl
      rw [if_neg fun h => hl h.1, Nat.add_zero]
  · rename_i hopen
    rw [if_neg fun h => hopen h.2, Nat.add_zero]

lemma refs_closeLibrary (g : GpuState) (lib l : GpuLibrary) :
    (g.closeLibrary lib).loader.refs l = g.loader.refs l - if l = lib then 1 else 0 := by
  apply (Function.update_apply g.loader.refs lib _ l).trans
  split
  · rename_i hl
    rw [hl]
  · rw [Nat.sub_zero]

/-- Opening a library keeps every live symbol live. -/
lemma live_openLibrary {sym : Symbol GpuLibrary} (h : g.loader.Live sym) (w : GpuWorld)
    (lib : GpuLibrary) : (g.openLibrary w lib).loader.Live sym := by
  change (if w.dlopen lib then g.loader.openLib lib else g.loader).Live sym
  split
  · exact h.openLib lib
  · exact h

/-- A handle that is set has a reference more. -/
lemma Counted.openLibrary (h : Counted opens g) (w : GpuWorld) (lib : GpuLibrary) :
    Counted opens (g.openLibrary w lib) := by
  intro l
  have hl := h l
  rw [refs_openLibrary, GpuState.handle_openLibrary]
  by_cases heq : l = lib
  · rcases hopen : w.dlopen lib with _ | _
    · rw [if_pos heq, Bool.toNat_false]
      omega
    · rw [if_pos heq, if_pos ⟨heq, rfl⟩, Bool.toNat_true]
      omega
  · rw [if_neg heq]
    exact hl.trans (Nat.le_add_right _ _)

/-- A handle that was set gives its reference back. -/
lemma Counted.closeLibrary (h : Counted opens g) {lib : GpuLibrary} (hset : g.handle lib = true) :
    Counted opens (g.closeLibrary lib) := by
  intro l
  have hl := h l
  rw [refs_closeLibrary, GpuState.handle_closeLibrary]
  by_cases heq : l = lib
  · rw [heq, hset, Bool.toNat_true] at hl
    rw [heq, if_pos rfl, if_pos rfl, Bool.toNat_false]
    omega
  · rwa [if_neg heq, if_neg heq]

/-- A symbol in libEGL stays live as long as the bindings have it open. -/
lemma Counted.live_closeLibrary {lib : GpuLibrary} (h : Counted opens (g.closeLibrary lib))
    {sym : Symbol GpuLibrary} (hegl : sym.library = .egl ∧ 0 < opens .egl)
    (hlive : g.loader.Live sym) : (g.closeLibrary lib).loader.Live sym := by
  refine DynamicLoader.Live.closeLib hlive ?_
  rw [hegl.1]
  exact hegl.2.trans_le ((Nat.le_add_right _ _).trans (h .egl))

lemma Held.congr {g' : GpuState} (h : Held opens getProc g)
    (heq : librariesOf g' = librariesOf g) : Held opens getProc g' := by
  obtain ⟨hloader, hhandle⟩ := Prod.mk.inj heq
  refine ⟨?_, ?_, ?_, h.egl_of_getProc, ?_⟩
  · intro lib
    rw [hloader, hhandle]
    exact h.counted lib
  · rw [hhandle]
    exact h.handle_gles2
  · rw [hloader]
    exact h.gles2_le
  · rw [hloader]
    exact h.live

lemma Held.openScreen (h : Held opens getProc g) (w : GpuWorld) :
    Held opens getProc (g.openLibrary w .screen) where
  counted := h.counted.openLibrary w .screen
  handle_gles2 := h.handle_gles2
  gles2_le := by
    rw [refs_openLibrary, refs_openLibrary]
    exact h.gles2_le
  egl_of_getProc := h.egl_of_getProc
  live sym hsym := live_openLibrary (h.live sym hsym) w .screen

lemma Held.ensureScreenContext (h : Held opens getProc g) (w : GpuWorld) :
    Held opens getProc (g.ensureScreenContext w).2 := by
  have hopen := h.openScreen w
  unfold GpuState.ensureScreenContext
  dsimp only
  split
  · exact h
  · split
    · exact hopen
    · split
      · exact hopen
      · split <;> exact hopen.congr rfl

/-- `ShutdownGpu` closes libGLESv2 first. -/
lemma Held.shutdownGpu (h : Held opens getProc g) : Held opens getProc g.shutdownGpu := by
  have hcleared : Held opens getProc
      { g with pfn := fun e => if e.clearedByShutdown then none else g.pfn e } := h.congr rfl
  unfold GpuState.shutdownGpu
  generalize { g with pfn := fun e => if e.clearedByShutdown then none else g.pfn e } = g₀
    at hcleared ⊢
  dsimp only
  split
  · rename_i hgles2
    have hcounted := hcleared.counted.closeLibrary hgles2
    have hlive : ∀ sym, getProc = some sym → (g₀.closeLibrary .gles2).loader.Live sym :=
      fun sym hsym =>
        hcounted.live_closeLibrary (h.egl_of_getProc sym hsym) (hcleared.live sym hsym)
    split
    · rename_i hegl
      have hcounted' := hcounted.closeLibrary hegl
      refine ⟨hcounted', fun hset => ?_, ?_, h.egl_of_getProc, fun sym hsym =>
        hcounted'.live_closeLibrary (h.egl_of_getProc sym hsym) (hlive sym hsym)⟩
      · exact absurd hset Bool.false_ne_true
      · simp only [refs_closeLibrary, reduceCtorEq, if_false, if_true]
        have hle := hcleared.gles2_le
        omega
    · rename_i hegl
      refine ⟨hcounted, fun hset => absurd hset hegl, ?_, h.egl_of_getProc, hlive⟩
      simp only [refs_closeLibrary, reduceCtorEq, if_false, if_true]
      have hle := hcleared.gles2_le
      omega
  · rename_i hgles2
    rw [if_neg fun hegl => hgles2 (hcleared.handle_gles2 hegl)]
    exact hcleared

/-- `InitializeGpuLibraries` opens both libraries or keeps none of them open. -/
lemma Held.initializeGpuLibraries (h : Held opens getProc g) (w : GpuWorld) :
    Held opens getProc (g.initializeGpuLibraries w).2 := by
  have hcounted := h.counted.openLibrary w .egl
  have hlive : ∀ sym, getProc = some sym → (g.openLibrary w .egl).loader.Live sym :=
    fun sym hsym => live_openLibrary (h.live sym hsym) w .egl
  have hle := h.gles2_le
  unfold GpuState.initializeGpuLibraries
  dsimp only
  split
  · rename_i hegl
    refine ⟨hcounted, fun hset => ?_, ?_, h.egl_of_getProc, hlive⟩
    · rw [hset] at hegl
      exact absurd hegl Bool.false_ne_true
    · simp only [refs_openLibrary, reduceCtorEq, false_and, if_false, true_and]
      omega
  · rename_i hegl
    have hegl : w.dlopen .egl = true := by simpa [GpuState.handle_openLibrary] using hegl
    have hcounted' := hcounted.openLibrary w .gles2
    have hlive' : ∀ sym, getProc = some sym →
        ((g.openLibrary w .egl).openLibrary w .gles2).loader.Live sym :=
      fun sym hsym => live_openLibrary (hlive sym hsym) w .gles2
    split
    · rename_i hgles2
      have hgles2 : w.dlopen .gles2 = false := by
        simpa [GpuState.handle_openLibrary] using hgles2
      have hset : ((g.openLibrary w .egl).openLibrary w .gles2).handle .egl = true := by
        simpa [GpuState.handle_openLibrary] using hegl
      have hclosed := hcounted'.closeLibrary hset
      refine ⟨hclosed, fun hset => absurd hset Bool.false_ne_true, ?_, h.egl_of_getProc,
        fun sym hsym => hclosed.live_closeLibrary (h.egl_of_getProc sym hsym) (hlive' sym hsym)⟩
      simp [refs_closeLibrary, refs_openLibrary, hegl, hgles2, hle]
    · rename_i hgles2
      have hgles2 : w.dlopen .gles2 = true := by
        simpa [GpuState.handle_openLibrary] using hgles2
      have hboth : Held opens getProc ((g.openLibrary w .egl).openLibrary w .gles2) := by
        refine ⟨hcounted', fun _ => ?_, ?_, h.egl_of_getProc, hlive'⟩
        · simpa [GpuState.handle_openLibrary] using hgles2
        · simp [refs_openLibrary, hegl, hgles2, hle]
      have hloaded : Held opens getProc
          (((g.openLibrary w .egl).openLibrary w .gles2).loadEntryPoints w) := hboth.congr rfl
      split
      · exact hloaded.shutdownGpu
      · exact hloaded

lemma held_libraryRule (opens : GpuLibrary → ℕ) (getProc : Option (Symbol GpuLibrary)) :
    LibraryRule (Held opens getProc) where
  congr _ _ heq h := h.congr heq
  screen _ w h := h.ensureScreenContext w
  init _ w h := h.initializeGpuLibraries w
  shutdown _ h := h.shutdownGpu

end

/-! ## Any number of calls -/

/-- What holds of the process: the invariants of the probe, the references, and the native libraries
are open by the bindings. -/
structure Inv (s : State) : Prop where
  gpu : s.gpu.Inv
  held : Held s.opens s.getProc s.gpu
  native : ∀ lib ∈ s.nativeLibraries, 0 < s.opens lib

section

variable {s : State}

lemma start_inv : Inv start where
  gpu := GpuState.start_inv
  held :=
    { counted := fun _ => Nat.le_refl _
      handle_gles2 := fun h => h
      gles2_le := Nat.le_refl _
      egl_of_getProc := fun _ h => nomatch h
      live := fun _ h => nomatch h }
  native := List.forall_mem_nil _

/-- A library that the platform opens is counted, and nothing is closed.  libGLESv2 has to have
fewer references than libEGL. -/
lemma Inv.openLib (h : Inv s) {lib : GpuLibrary}
    (hgles2 : lib = .gles2 → s.gpu.loader.refs .gles2 < s.gpu.loader.refs .egl) :
    Inv (openLib lib s) := by
  have hopens : ∀ l, s.opens l ≤ (QnxScreenGl.openLib lib s).opens l := by
    intro l
    change s.opens l ≤ Function.update s.opens lib (s.opens lib + 1) l
    rw [Function.update_apply]
    split
    · rename_i hl
      rw [hl]
      exact Nat.le_succ _
    · exact Nat.le_refl _
  refine ⟨?_, ⟨fun l => ?_, h.held.handle_gles2, ?_, fun sym hsym => ?_, fun sym hsym => ?_⟩,
    fun l hl => (h.native l hl).trans_le (hopens l)⟩
  · refine h.gpu.of_live (fun l hl => ?_) rfl rfl fun sym hsym => hsym.openLib lib
    exact (h.gpu.handle l hl).trans_le (refs_le_refs_openLib _ lib l)
  · have hl := h.held.counted l
    change Function.update s.opens lib (s.opens lib + 1) l + (s.gpu.handle l).toNat ≤
      (s.gpu.loader.openLib lib).refs l
    rw [Function.update_apply, refs_openLib]
    split
    · rename_i heq
      rw [← heq]
      omega
    · exact hl
  · have hle := h.held.gles2_le
    change (s.gpu.loader.openLib lib).refs .gles2 ≤ (s.gpu.loader.openLib lib).refs .egl
    rw [refs_openLib, refs_openLib]
    rcases lib with _ | _ | _
    · exact hle.trans (Nat.le_succ _)
    · exact hgles2 rfl
    · exact hle
  · obtain ⟨hegl, hpos⟩ := h.held.egl_of_getProc sym hsym
    exact ⟨hegl, hpos.trans_le (hopens .egl)⟩
  · exact (h.held.live sym hsym).openLib lib

/-- The other globals of the platform are free. -/
lemma Inv.of_eq {s' : State} (h : Inv s) (hgpu : s'.gpu = s.gpu) (hopens : s'.opens = s.opens)
    (hgetProc : s'.getProc = s.getProc) (hnative : s'.nativeLibraries = s.nativeLibraries) :
    Inv s' where
  gpu := hgpu ▸ h.gpu
  held := by
    rw [hgpu, hopens, hgetProc]
    exact h.held
  native := by
    rw [hopens, hnative]
    exact h.native

lemma Inv.ensureScreenContext (h : Inv s) (w : OzoneWorld) : Inv (ensureScreenContext w s) := by
  unfold QnxScreenGl.ensureScreenContext
  split
  · exact h
  · have hopened : Inv (if s.screenLib || !w.dlopen .screen then s
        else { QnxScreenGl.openLib .screen s with screenLib := true }) := by
      split
      · exact h
      · have hscreen : Inv (QnxScreenGl.openLib .screen s) := h.openLib fun heq => nomatch heq
        exact hscreen.of_eq rfl rfl rfl rfl
    generalize (if s.screenLib || !w.dlopen .screen then s
      else { QnxScreenGl.openLib .screen s with screenLib := true }) = s₁ at hopened ⊢
    dsimp only
    split
    · exact hopened
    · split
      · exact hopened
      · exact hopened.of_eq rfl rfl rfl rfl

lemma Inv.loadGLES2Bindings (h : Inv s) (w : OzoneWorld) : Inv (loadGLES2Bindings w s).2 := by
  have hscreen := h.ensureScreenContext w
  unfold QnxScreenGl.loadGLES2Bindings
  generalize QnxScreenGl.ensureScreenContext w s = s₁ at hscreen ⊢
  have hegl : Inv (QnxScreenGl.openLib .egl s₁) := hscreen.openLib fun heq => nomatch heq
  dsimp only
  split
  · exact hscreen
  · split
    · exact hegl
    · have hgles2 : Inv (QnxScreenGl.openLib .gles2 (QnxScreenGl.openLib .egl s₁)) := by
        refine hegl.openLib fun _ => ?_
        change (s₁.gpu.loader.openLib .egl).refs .gles2 < (s₁.gpu.loader.openLib .egl).refs .egl
        rw [refs_openLib, refs_openLib]
        exact Nat.lt_succ_of_le hscreen.held.gles2_le
      split
      · exact hgles2
      · -- both libraries were just opened
        have hopened : ∀ lib, lib = .egl ∨ lib = .gles2 →
            0 < (QnxScreenGl.openLib .gles2 (QnxScreenGl.openLib .egl s₁)).opens lib := by
          rintro lib (rfl | rfl)
          · exact Nat.succ_pos _
          · exact Nat.succ_pos _
        refine ⟨hgles2.gpu, ⟨hgles2.held.counted, hgles2.held.handle_gles2, hgles2.held.gles2_le,
          fun sym hsym => ?_, fun sym hsym => ?_⟩, fun lib hlib => ?_⟩
        · rw [← Option.some.inj hsym]
          exact ⟨rfl, hopened .egl (Or.inl rfl)⟩
        · rw [← Option.some.inj hsym]
          refine live_resolve ((hopened .egl (Or.inl rfl)).trans_le ?_)
          exact (Nat.le_add_right _ _).trans (hgles2.held.counted .egl)
        · rcases List.mem_append.mp hlib with hlib | hlib
          · exact hgles2.native lib hlib
          · refine hopened lib ?_
            simpa using hlib

/-- Every call keeps the invariant. -/
lemma Inv.step {s' : State} {op : Op} (h : Inv s) (hs : QnxScreenGl.step s op = some s') :
    Inv s' := by
  rcases op with op | w | w
  · obtain ⟨g, hg, rfl⟩ := Option.map_eq_some_iff.mp hs
    exact ⟨h.gpu.step hg, (held_libraryRule s.opens s.getProc).step hg h.held, h.native⟩
  · rw [← Option.some.inj hs]
    exact h.ensureScreenContext w
  · rw [← Option.some.inj hs]
    exact h.loadGLES2Bindings w

/-- **The bindings stay live.**  Whatever the probe and the platform do in one process, in any order
and whatever fails: `eglGetProcAddress` and the native libraries that were handed out are of open
libraries, the probe calls live entry points only, and libGLESv2 is never open without libEGL. -/
theorem glBindings_live {ops : List Op} (hrun : runFrom step start ops = some s) :
    (∀ sym, s.getProc = some sym → s.gpu.loader.Live sym) ∧
      (∀ lib ∈ s.nativeLibraries, 0 < s.gpu.loader.refs lib) ∧
      (∀ c ∈ s.gpu.calls, c.Safe) ∧
      s.gpu.loader.refs .gles2 ≤ s.gpu.loader.refs .egl := by
  have h : Inv s := (Reachable.refl.runFrom hrun).invariant start_inv fun _ _ _ h hs => h.step hs
  refine ⟨h.held.live, fun lib hlib => ?_, h.gpu.safe, h.held.gles2_le⟩
  exact (h.native lib hlib).trans_le ((Nat.le_add_right _ _).trans (h.held.counted lib))

end

/-- A system on which the platform finds everything. -/
def workingOzone : OzoneWorld where
  dlopen := fun _ => true
  screenCreateContextSym := true
  screenCreateContext := (true, 0)
  eglGetProcAddress := true

/-- The bindings are loaded between a probe and its shutdown. -/
def sampleOps : List Op :=
  [.probe (.initializeGpuLibraries GpuState.workingWorld),
    .probe (.probeGpuContext GpuState.workingWorld), .loadGLES2Bindings workingOzone,
    .probe .shutdownGpu]

/-- After the shutdown of the probe, the bindings have libEGL open. -/
theorem glBindings_live_shutdown :
    ∃ s, runFrom step start sampleOps = some s ∧ s.getProc = some ⟨.egl, 1⟩ ∧
      s.gpu.loader.Live ⟨.egl, 1⟩ := by
  obtain ⟨s, hrun⟩ : ∃ s, runFrom step start sampleOps = some s := ⟨_, rfl⟩
  have hproc : (runFrom step start sampleOps).map State.getProc = some (some ⟨.egl, 1⟩) := rfl
  rw [hrun] at hproc
  have hsym : s.getProc = some ⟨.egl, 1⟩ := Option.some.inj hproc
  exact ⟨s, hrun, hsym, (glBindings_live hrun).1 _ hsym⟩

end QnxScreenGl

end ChromiumQnx
