import ChromiumQnx.Foundation.DynamicLoader
import ChromiumQnx.Foundation.TransitionSystem

/-!
# GPU initialisation through dynamically loaded libraries

`gpu_qnx.cc` loads `libEGL`, `libGLESv2` and `libscreen` at run time and keeps eleven entry points
in global pointers.  `InitializeGpuLibraries` may be called again, may fail half way, and gives up
what it loaded when a critical entry point is missing; `ShutdownGpu` clears six of the pointers and
keeps the others.

Every call of a stored pointer is recorded with the pointer and the loader at that moment.  The
invariant (`GpuState.Inv`) is that the six pointers cleared by `ShutdownGpu` are live whenever they
are set, and that all eleven are live while `eglGetDisplay` is set, which every guard before a call
of an EGL entry point tests.  Hence each recorded call used a live pointer.
-/

namespace ChromiumQnx

open TransitionSystem DynamicLoader

/-! ## Libraries and entry points -/

/-- The libraries that are opened. -/
inductive GpuLibrary
  | egl
  | gles2
  | screen
  deriving DecidableEq, Repr

/-- The stored entry points. -/
inductive EntryPoint
  | eglGetDisplay
  | eglInitialize
  | eglChooseConfig
  | eglTerminate
  | eglBindAPI
  | eglCreatePbufferSurface
  | eglCreateContext
  | eglMakeCurrent
  | eglGetError
  | glGetString
  | glGetIntegerv
  deriving DecidableEq, Repr

/-- The library an entry point is looked up in. -/
def EntryPoint.library : EntryPoint → GpuLibrary
  | .glGetString | .glGetIntegerv => .gles2
  | _ => .egl

/-- The pointers `ShutdownGpu` clears. -/
def EntryPoint.clearedByShutdown : EntryPoint → Bool
  | .eglGetDisplay | .eglInitialize | .eglChooseConfig | .eglTerminate => true
  | .glGetString | .glGetIntegerv => true
  | _ => false

/-- A call of a stored entry point: the pointer that was called and the loader at that moment. -/
structure EntryCall where
  pointer : Option (Symbol GpuLibrary)
  loader : DynamicLoader GpuLibrary

/-- The pointer is not null, and its library still has an open reference to the load it was resolved
from. -/
def EntryCall.Safe (c : EntryCall) : Prop := ∃ s, c.pointer = some s ∧ c.loader.Live s

/-- The globals of `gpu_qnx.cc`, the loader, and the calls of stored entry points made so far.  A
handle is kept as whether it is non-null. -/
structure GpuState where
  loader : DynamicLoader GpuLibrary
  handle : GpuLibrary → Bool
  screenCtx : Bool
  pfn : EntryPoint → Option (Symbol GpuLibrary)
  calls : List EntryCall

/-- What the system and the driver answer during one call of the interface.  Addresses are numbers,
0 for null. -/
structure GpuWorld where
  dlopen : GpuLibrary → Bool
  dlsym : EntryPoint → Bool
  /-- Whether `screen_create_context` resolves. -/
  screenCreateContextSym : Bool
  /-- Whether the context is set afterwards, and the result of `screen_create_context`. -/
  screenCreateContext : Bool × ℤ
  eglGetDisplay : ℕ
  eglInitialize : Bool
  /-- Result, chosen config and number of configs of `eglChooseConfig`. -/
  eglChooseConfig : Bool × ℕ × ℤ
  eglCreatePbufferSurface : ℕ
  eglCreateContext : ℕ
  eglMakeCurrent : Bool

namespace GpuState

/-! ## The functions -/

/-- A `dlopen` whose result is stored as the library's handle. -/
def openLibrary (w : GpuWorld) (lib : GpuLibrary) (s : GpuState) : GpuState :=
  { s with
    loader := if w.dlopen lib then s.loader.openLib lib else s.loader
    handle := Function.update s.handle lib (w.dlopen lib) }

/-- A `dlclose` of the library's handle, which is set to null. -/
def closeLibrary (lib : GpuLibrary) (s : GpuState) : GpuState :=
  { s with
    loader := s.loader.closeLib lib
    handle := Function.update s.handle lib false }

/-- `LoadSym` for all the entry points. -/
def loadEntryPoints (w : GpuWorld) (s : GpuState) : GpuState :=
  { s with pfn := fun e => if w.dlsym e then some (s.loader.resolve e.library) else none }

/-- A call of a stored entry point. -/
def call (e : EntryPoint) (s : GpuState) : GpuState :=
  { s with calls := s.calls ++ [⟨s.pfn e, s.loader⟩] }

/-- A call made only when the pointer is not null. -/
def callIfSet (e : EntryPoint) (s : GpuState) : GpuState :=
  if (s.pfn e).isSome then s.call e else s

/-- Some of the three critical EGL pointers is null. -/
def missingCritical (s : GpuState) : Bool :=
  (s.pfn .eglGetDisplay).isNone || (s.pfn .eglInitialize).isNone ||
    (s.pfn .eglChooseConfig).isNone

/-- `ShutdownGpu`. -/
def shutdownGpu (s : GpuState) : GpuState :=
  let s := { s with pfn := fun e => if e.clearedByShutdown then none else s.pfn e }
  let s := if s.handle .gles2 then s.closeLibrary .gles2 else s
  if s.handle .egl then s.closeLibrary .egl else s

/-- `EnsureScreenContext`. -/
def ensureScreenContext (w : GpuWorld) (s : GpuState) : Bool × GpuState :=
  if s.screenCtx then (true, s) else
  let s := s.openLibrary w .screen
  if !s.handle .screen then (false, s) else
  if !w.screenCreateContextSym then (false, s) else
  let s := { s with screenCtx := w.screenCreateContext.1 }
  if w.screenCreateContext.2 ≠ 0 then (false, s) else (true, s)

/-- `InitializeGpuLibraries`. -/
def initializeGpuLibraries (w : GpuWorld) (s : GpuState) : Bool × GpuState :=
  let s := s.openLibrary w .egl
  if !s.handle .egl then (false, s) else
  let s := s.openLibrary w .gles2
  if !s.handle .gles2 then (false, s.closeLibrary .egl) else
  let s := s.loadEntryPoints w
  if s.missingCritical then (false, s.shutdownGpu) else (true, s)

/-- `InitializeEglDisplay`: the display and the config it stores, if it succeeds. -/
def initializeEglDisplay (w : GpuWorld) (s : GpuState) : Option (ℕ × ℕ) × GpuState :=
  let (ok, s) := if s.missingCritical then s.initializeGpuLibraries w else (true, s)
  if !ok then (none, s) else
  let (ok, s) := s.ensureScreenContext w
  if !ok then (none, s) else
  let s := s.call .eglGetDisplay
  if w.eglGetDisplay = 0 then (none, s.callIfSet .eglGetError) else
  let s := s.call .eglInitialize
  if !w.eglInitialize then (none, s.callIfSet .eglGetError) else
  let s := s.call .eglChooseConfig
  if !w.eglChooseConfig.1 || w.eglChooseConfig.2.2 = 0 then (none, s) else
  (some (w.eglGetDisplay, w.eglChooseConfig.2.1), s)

/-- `WarmUpEglEarly`. -/
def warmUpEglEarly (w : GpuWorld) (s : GpuState) : Bool × GpuState :=
  let (out, s) := s.initializeEglDisplay w
  (out.isSome, s)

/-- `PrintGpuInfo`. -/
def printGpuInfo (s : GpuState) : GpuState :=
  if (s.pfn .glGetString).isNone then s else
  (((s.call .glGetString).call .glGetString).call .glGetString).callIfSet .glGetIntegerv

/-- `ProbeGpuContext`. -/
def probeGpuContext (w : GpuWorld) (s : GpuState) : Bool × GpuState :=
  if s.missingCritical || (s.pfn .eglCreatePbufferSurface).isNone ||
    (s.pfn .eglCreateContext).isNone || (s.pfn .eglMakeCurrent).isNone then (false, s) else
  let (ok, s) := s.ensureScreenContext w
  if !ok then (false, s) else
  let s := s.call .eglGetDisplay
  if w.eglGetDisplay = 0 then (false, s.callIfSet .eglGetError) else
  let s := s.call .eglInitialize
  if !w.eglInitialize then (false, s) else
  let s := (s.callIfSet .eglBindAPI).call .eglChooseConfig
  if !w.eglChooseConfig.1 || w.eglChooseConfig.2.2 = 0 then (false, s) else
  let s := s.call .eglCreatePbufferSurface
  if w.eglCreatePbufferSurface = 0 then (false, s.callIfSet .eglGetError) else
  let s := s.call .eglCreateContext
  if w.eglCreateContext = 0 then (false, s.callIfSet .eglGetError) else
  let s := s.call .eglMakeCurrent
  if !w.eglMakeCurrent then (false, s.callIfSet .eglGetError) else
  (true, s.printGpuInfo)

/-! ## The invariant -/

/-- Handles that are set are of open libraries.  The pointers `ShutdownGpu` clears are live when
they are set, and all pointers are when `eglGetDisplay` is set.  All calls so far were safe. -/
structure Inv (s : GpuState) : Prop where
  handle : ∀ lib, s.handle lib = true → 0 < s.loader.refs lib
  cleared : ∀ e sym, e.clearedByShutdown = true → s.pfn e = some sym → s.loader.Live sym
  all : (s.pfn .eglGetDisplay).isSome → ∀ e sym, s.pfn e = some sym → s.loader.Live sym
  safe : ∀ c ∈ s.calls, c.Safe

/-- The invariant holds and the critical pointers are set. -/
structure Ready (s : GpuState) : Prop where
  inv : s.Inv
  critical : s.missingCritical = false

variable {s : GpuState} {w : GpuWorld}

lemma missingCritical_eq_false :
    s.missingCritical = false ↔ (s.pfn .eglGetDisplay).isSome = true ∧
      (s.pfn .eglInitialize).isSome = true ∧ (s.pfn .eglChooseConfig).isSome = true := by
  unfold missingCritical
  simp only [Bool.or_eq_false_iff, Option.isNone_eq_false_iff, and_assoc]

/-- The three critical pointers may be called. -/
lemma Ready.critical_isSome (hs : s.Ready) : (s.pfn .eglGetDisplay).isSome = true ∧
    (s.pfn .eglInitialize).isSome = true ∧ (s.pfn .eglChooseConfig).isSome = true :=
  missingCritical_eq_false.mp hs.critical

/-! ### Calls of entry points -/

/-- A call of a live pointer keeps the invariant. -/
lemma Inv.call {e : EntryPoint} {sym : Symbol GpuLibrary} (hs : s.Inv) (he : s.pfn e = some sym)
    (hlive : s.loader.Live sym) : (s.call e).Inv where
  handle := hs.handle
  cleared := hs.cleared
  all := hs.all
  safe c hc := by
    rcases List.mem_append.mp hc with hc | hc
    · exact hs.safe c hc
    · rw [List.mem_singleton.mp hc]
      exact ⟨sym, he, hlive⟩

/-- With the critical pointers set, every entry point that is set may be called. -/
lemma Ready.call {e : EntryPoint} (hs : s.Ready) (he : (s.pfn e).isSome = true) :
    (s.call e).Ready := by
  obtain ⟨sym, hsym⟩ := Option.isSome_iff_exists.mp he
  exact ⟨hs.inv.call hsym (hs.inv.all hs.critical_isSome.1 e sym hsym), hs.critical⟩

lemma Ready.callIfSet (hs : s.Ready) (e : EntryPoint) : (s.callIfSet e).Ready := by
  unfold GpuState.callIfSet
  split
  · rename_i he
    exact hs.call he
  · exact hs

@[simp] lemma call_pfn (s : GpuState) (e : EntryPoint) : (s.call e).pfn = s.pfn := rfl

@[simp] lemma callIfSet_pfn (s : GpuState) (e : EntryPoint) : (s.callIfSet e).pfn = s.pfn := by
  unfold callIfSet
  split <;> rfl

/-- A pointer that `ShutdownGpu` clears may be called when it is set. -/
lemma Inv.callIfSet {e : EntryPoint} (hs : s.Inv) (he : e.clearedByShutdown = true) :
    (s.callIfSet e).Inv := by
  unfold GpuState.callIfSet
  split
  · rename_i hset
    obtain ⟨sym, hsym⟩ := Option.isSome_iff_exists.mp hset
    exact hs.call hsym (hs.cleared e sym he hsym)
  · exact hs

/-! ### Opening and closing -/

lemma handle_openLibrary (s : GpuState) (w : GpuWorld) (lib l : GpuLibrary) :
    (s.openLibrary w lib).handle l = if l = lib then w.dlopen lib else s.handle l :=
  Function.update_apply s.handle lib _ l

lemma handle_closeLibrary (s : GpuState) (lib l : GpuLibrary) :
    (s.closeLibrary lib).handle l = if l = lib then false else s.handle l :=
  Function.update_apply s.handle lib _ l

/-- The handles that are set are of open libraries. -/
def HandlesOpen (s : GpuState) : Prop := ∀ lib, s.handle lib = true → 0 < s.loader.refs lib

lemma HandlesOpen.openLibrary (hs : s.HandlesOpen) (w : GpuWorld) (lib : GpuLibrary) :
    (s.openLibrary w lib).HandlesOpen := by
  intro l hl
  rw [handle_openLibrary] at hl
  change 0 < DynamicLoader.refs (if w.dlopen lib then _ else _) l
  split at hl
  · rename_i heq
    rw [if_pos hl, heq]
    exact refs_openLib_pos s.loader lib
  · split
    · exact Nat.lt_of_lt_of_le (hs l hl) (refs_le_refs_openLib s.loader lib l)
    · exact hs l hl

lemma HandlesOpen.closeLibrary (hs : s.HandlesOpen) (lib : GpuLibrary) :
    (s.closeLibrary lib).HandlesOpen := by
  intro l hl
  rw [handle_closeLibrary] at hl
  split at hl
  · cases hl
  · rename_i hne
    exact lt_of_lt_of_eq (hs l hl) (refs_closeLib_of_ne s.loader hne).symm

/-- A change of the loader that keeps what is live keeps the invariant. -/
lemma Inv.of_live {s' : GpuState} (hs : s.Inv) (hhandle : s'.HandlesOpen) (hpfn : s'.pfn = s.pfn)
    (hcalls : s'.calls = s.calls) (hlive : ∀ sym, s.loader.Live sym → s'.loader.Live sym) :
    s'.Inv where
  handle := hhandle
  cleared e sym he hsym := hlive sym (hs.cleared e sym he (hpfn ▸ hsym))
  all hdisplay e sym hsym := hlive sym (hs.all (hpfn ▸ hdisplay) e sym (hpfn ▸ hsym))
  safe := hcalls ▸ hs.safe

/-- Opening a library keeps the invariant. -/
lemma Inv.openLibrary (hs : s.Inv) (w : GpuWorld) (lib : GpuLibrary) :
    (s.openLibrary w lib).Inv := by
  refine hs.of_live (HandlesOpen.openLibrary hs.handle w lib) rfl rfl fun sym hsym => ?_
  change DynamicLoader.Live (if w.dlopen lib then _ else _) sym
  split
  · exact hsym.openLib lib
  · exact hsym

/-- A failing `dlopen` of another library may as well come first. -/
lemma openLibrary_comm {lib l : GpuLibrary} (s : GpuState) (hne : l ≠ lib)
    (hfail : w.dlopen l = false) :
    (s.openLibrary w lib).openLibrary w l = (s.openLibrary w l).openLibrary w lib := by
  unfold GpuState.openLibrary
  simp only [hfail, Bool.false_eq_true, if_false, GpuState.mk.injEq, and_true, true_and]
  exact Function.update_comm hne.symm _ _ _

/-- A library that is opened and closed again leaves the invariant intact. -/
lemma Inv.openLibrary_closeLibrary (hs : s.Inv) (lib : GpuLibrary) (hopen : w.dlopen lib = true) :
    ((s.openLibrary w lib).closeLibrary lib).Inv := by
  have hhandle := (HandlesOpen.openLibrary hs.handle w lib).closeLibrary lib
  refine hs.of_live hhandle rfl rfl fun sym hsym => ?_
  change DynamicLoader.Live (DynamicLoader.closeLib (if w.dlopen lib then _ else _) lib) sym
  rw [if_pos hopen]
  exact hsym.closeLib_openLib lib

/-- `ShutdownGpu` clears its six pointers, leaves the others and calls none. -/
lemma shutdownGpu_frame (s : GpuState) :
    s.shutdownGpu.pfn = (fun e => if e.clearedByShutdown then none else s.pfn e) ∧
      s.shutdownGpu.calls = s.calls := by
  unfold shutdownGpu
  dsimp only
  split <;> split <;> exact ⟨rfl, rfl⟩

/-- The libraries that `ShutdownGpu` closes have their handles cleared. -/
lemma HandlesOpen.shutdownGpu (hs : s.HandlesOpen) : s.shutdownGpu.HandlesOpen := by
  have hcleared : HandlesOpen
      { s with pfn := fun e => if e.clearedByShutdown then none else s.pfn e } := hs
  unfold GpuState.shutdownGpu
  dsimp only
  split
  · split
    · exact (hcleared.closeLibrary .gles2).closeLibrary .egl
    · exact hcleared.closeLibrary .gles2
  · split
    · exact hcleared.closeLibrary .egl
    · exact hcleared

/-- `ShutdownGpu` keeps the invariant: the pointers it leaves are no longer called. -/
lemma Inv.shutdownGpu (hs : s.Inv) : s.shutdownGpu.Inv := by
  obtain ⟨hpfn, hcalls⟩ := shutdownGpu_frame s
  constructor
  · exact HandlesOpen.shutdownGpu hs.handle
  · intro e sym he hsym
    simp [hpfn, he] at hsym
  · intro hdisplay
    simp [hpfn, EntryPoint.clearedByShutdown] at hdisplay
  · rw [hcalls]
    exact hs.safe

/-- Resolving the entry points in open libraries makes all of them live. -/
lemma Inv.loadEntryPoints (hs : s.Inv) (w : GpuWorld) (hegl : s.handle .egl = true)
    (hgles2 : s.handle .gles2 = true) : (s.loadEntryPoints w).Inv := by
  have hlive : ∀ e sym, (s.loadEntryPoints w).pfn e = some sym → s.loader.Live sym := by
    intro e sym hsym
    obtain ⟨-, rfl⟩ := Option.ite_some_none_eq_some.mp hsym
    apply live_resolve
    apply hs.handle
    cases e with
    | glGetString => exact hgles2
    | glGetIntegerv => exact hgles2
    | _ => exact hegl
  constructor
  · exact hs.handle
  · intro e sym _ hsym
    exact hlive e sym hsym
  · intro _ e sym hsym
    exact hlive e sym hsym
  · exact hs.safe

/-! ### The functions keep the invariant -/

lemma Inv.ensureScreenContext (hs : s.Inv) (w : GpuWorld) : (s.ensureScreenContext w).2.Inv := by
  have hopen := hs.openLibrary w .screen
  unfold GpuState.ensureScreenContext
  dsimp only
  split
  · exact hs
  · split
    · exact hopen
    · split
      · exact hopen
      · have hctx : GpuState.Inv
            { s.openLibrary w .screen with screenCtx := w.screenCreateContext.1 } :=
          ⟨hopen.handle, hopen.cleared, hopen.all, hopen.safe⟩
        split <;> exact hctx

@[simp] lemma ensureScreenContext_pfn (s : GpuState) (w : GpuWorld) :
    (s.ensureScreenContext w).2.pfn = s.pfn := by
  unfold ensureScreenContext
  dsimp only
  split
  · rfl
  · split
    · rfl
    · split
      · rfl
      · split <;> rfl

/-- `InitializeGpuLibraries` keeps the invariant, and when it succeeds the critical pointers are
set. -/
lemma Inv.initializeGpuLibraries (hs : s.Inv) (w : GpuWorld) :
    (s.initializeGpuLibraries w).2.Inv ∧
      ((s.initializeGpuLibraries w).1 = true →
        (s.initializeGpuLibraries w).2.missingCritical = false) := by
  unfold GpuState.initializeGpuLibraries
  dsimp only
  split
  · exact ⟨hs.openLibrary w .egl, fun h => nomatch h⟩
  · rename_i hegl
    have hegl : w.dlopen .egl = true := by simpa [handle_openLibrary] using hegl
    split
    · rename_i hgles2
      have hgles2 : w.dlopen .gles2 = false := by simpa [handle_openLibrary] using hgles2
      rw [openLibrary_comm s (by decide) hgles2]
      have hclosed := (hs.openLibrary w .gles2).openLibrary_closeLibrary .egl hegl
      exact ⟨hclosed, fun h => nomatch h⟩
    · rename_i hgles2
      have hgles2 : w.dlopen .gles2 = true := by simpa [handle_openLibrary] using hgles2
      have hload := ((hs.openLibrary w .egl).openLibrary w .gles2).loadEntryPoints w
        (by simpa [handle_openLibrary] using hegl) (by simpa [handle_openLibrary] using hgles2)
      split
      · exact ⟨hload.shutdownGpu, fun h => nomatch h⟩
      · rename_i hcritical
        exact ⟨hload, fun _ => Bool.eq_false_iff.mpr hcritical⟩

lemma Ready.ensureScreenContext (hs : s.Ready) (w : GpuWorld) :
    (s.ensureScreenContext w).2.Ready := by
  refine ⟨hs.inv.ensureScreenContext w, ?_⟩
  have hcritical := hs.critical
  unfold missingCritical at hcritical ⊢
  rwa [ensureScreenContext_pfn]

lemma Inv.initializeEglDisplay (hs : s.Inv) (w : GpuWorld) :
    (s.initializeEglDisplay w).2.Inv := by
  -- past the guard the critical pointers are set
  have hguard : (if s.missingCritical then s.initializeGpuLibraries w else (true, s)).2.Inv ∧
      ((if s.missingCritical then s.initializeGpuLibraries w else (true, s)).1 = true →
        (if s.missingCritical then s.initializeGpuLibraries w else (true, s)).2.Ready) := by
    split
    · have hinit := hs.initializeGpuLibraries w
      exact ⟨hinit.1, fun h => ⟨hinit.1, hinit.2 h⟩⟩
    · rename_i hcritical
      exact ⟨hs, fun _ => ⟨hs, Bool.eq_false_iff.mpr hcritical⟩⟩
  unfold GpuState.initializeEglDisplay
  generalize (if s.missingCritical then s.initializeGpuLibraries w else (true, s)) = r at hguard ⊢
  obtain ⟨ok, s₁⟩ := r
  dsimp only
  split
  · exact hguard.1
  · rename_i hok
    have hready := (hguard.2 (by simpa using hok)).ensureScreenContext w
    split
    · exact hready.inv
    · obtain ⟨hget, hinit, hchoose⟩ := hready.critical_isSome
      have h₁ := hready.call hget
      split
      · exact (h₁.callIfSet .eglGetError).inv
      · have h₂ := h₁.call (e := .eglInitialize) hinit
        split
        · exact (h₂.callIfSet .eglGetError).inv
        · have h₃ := h₂.call (e := .eglChooseConfig) hchoose
          split
          · exact h₃.inv
          · exact h₃.inv

lemma Inv.printGpuInfo (hs : s.Inv) : s.printGpuInfo.Inv := by
  unfold GpuState.printGpuInfo
  split
  · exact hs
  · rename_i hset
    obtain ⟨sym, hsym⟩ := Option.ne_none_iff_exists'.mp (by simpa using hset)
    have hlive := hs.cleared _ sym rfl hsym
    have h₁ := hs.call hsym hlive
    have h₂ := h₁.call (e := .glGetString) hsym hlive
    have h₃ := h₂.call (e := .glGetString) hsym hlive
    exact h₃.callIfSet rfl

lemma Inv.probeGpuContext (hs : s.Inv) (w : GpuWorld) : (s.probeGpuContext w).2.Inv := by
  unfold GpuState.probeGpuContext
  dsimp only
  split
  · exact hs
  · rename_i hset
    simp only [Bool.or_eq_true, not_or, Bool.not_eq_true, Option.isNone_eq_false_iff] at hset
    obtain ⟨⟨⟨hcritical, hsurface⟩, hcontext⟩, hcurrent⟩ := hset
    have hready : s.Ready := ⟨hs, hcritical⟩
    have h₀ := hready.ensureScreenContext w
    split
    · exact h₀.inv
    · obtain ⟨hget, hinit, hchoose⟩ := h₀.critical_isSome
      have h₁ := h₀.call hget
      split
      · exact (h₁.callIfSet .eglGetError).inv
      · have h₂ := h₁.call (e := .eglInitialize) hinit
        split
        · exact h₂.inv
        · have h₃ := (h₂.callIfSet .eglBindAPI).call (e := .eglChooseConfig)
            (by simpa using hchoose)
          split
          · exact h₃.inv
          · have h₄ := h₃.call (e := .eglCreatePbufferSurface) (by simpa using hsurface)
            split
            · exact (h₄.callIfSet .eglGetError).inv
            · have h₅ := h₄.call (e := .eglCreateContext) (by simpa using hcontext)
              split
              · exact (h₅.callIfSet .eglGetError).inv
              · have h₆ := h₅.call (e := .eglMakeCurrent) (by simpa using hcurrent)
                split
                · exact (h₆.callIfSet .eglGetError).inv
                · exact h₆.inv.printGpuInfo

/-! ## Any number of calls -/

/-- The calls of the interface, each with the answers it gets. -/
inductive Op
  | initializeGpuLibraries (w : GpuWorld)
  | initializeEglDisplay (w : GpuWorld)
  | warmUpEglEarly (w : GpuWorld)
  | probeGpuContext (w : GpuWorld)
  | printGpuInfo
  | shutdownGpu

/-- One call. -/
def step (s : GpuState) : Op → Option GpuState
  | .initializeGpuLibraries w => some (s.initializeGpuLibraries w).2
  | .initializeEglDisplay w => some (s.initializeEglDisplay w).2
  | .warmUpEglEarly w => some (s.warmUpEglEarly w).2
  | .probeGpuContext w => some (s.probeGpuContext w).2
  | .printGpuInfo => some s.printGpuInfo
  | .shutdownGpu => some s.shutdownGpu

/-- The program's start: nothing is loaded. -/
def start : GpuState where
  loader := empty GpuLibrary
  handle := fun _ => false
  screenCtx := false
  pfn := fun _ => none
  calls := []

lemma start_inv : start.Inv where
  handle _ h := nomatch h
  cleared _ _ _ h := nomatch h
  all h := nomatch h
  safe _ h := nomatch h

/-- Every call of the interface keeps the invariant. -/
lemma Inv.step {s' : GpuState} {op : Op} (hs : s.Inv) (hstep : GpuState.step s op = some s') :
    s'.Inv := by
  cases op with
  | initializeGpuLibraries w =>
    cases hstep
    exact (hs.initializeGpuLibraries w).1
  | initializeEglDisplay w =>
    cases hstep
    exact hs.initializeEglDisplay w
  | warmUpEglEarly w =>
    cases hstep
    exact hs.initializeEglDisplay w
  | probeGpuContext w =>
    cases hstep
    exact hs.probeGpuContext w
  | printGpuInfo =>
    cases hstep
    exact hs.printGpuInfo
  | shutdownGpu =>
    cases hstep
    exact hs.shutdownGpu

/-- **Entry points are live when called.**  In every sequence of calls and for all answers, each
call of a stored entry point goes through a pointer that is not null, into a library that still has
an open reference. -/
theorem entryCalls_safe (ops : List Op) :
    Always step (fun s => ∀ c ∈ s.calls, c.Safe) start ops := by
  apply always_of_forall_reachable
  intro s hs
  have hinv : s.Inv := hs.invariant start_inv fun s op s' hs hstep => hs.step hstep
  exact hinv.safe

/-- A system on which everything works. -/
def workingWorld : GpuWorld where
  dlopen := fun _ => true
  dlsym := fun _ => true
  screenCreateContextSym := true
  screenCreateContext := (true, 0)
  eglGetDisplay := 1
  eglInitialize := true
  eglChooseConfig := (true, 1, 1)
  eglCreatePbufferSurface := 1
  eglCreateContext := 1
  eglMakeCurrent := true

/-- A probe on a working system makes eleven calls. -/
example : (runFrom step start
    [.initializeGpuLibraries workingWorld, .probeGpuContext workingWorld]).map
      (fun s => s.calls.length) = some 11 := rfl

end GpuState

end ChromiumQnx
