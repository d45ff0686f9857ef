import ChromiumQnx.Ui.QnxScreenWindow

/-!
# The properties of the Screen windows

The calls that set the visibility, the sizes, the usage and the rotation of a Screen window may
fail, as may the one that destroys it, and nothing looks at their results.  `ScreenRight` says that
the Screen windows are those of the windows that exist, each as its window has it.  The main result
says in exactly which runs they are: in those where every call that fails makes no difference.
-/

namespace ChromiumQnx

namespace QnxScreenWindows

open KeyedList TransitionSystem
open StringSearch (CString)

/-! ## As the windows have them -/

/-- A Screen window is as its window has it. -/
structure Mirrors (environ : List CString) (gl : Bool) (w : Window) (p : ScreenProperties) :
    Prop where
  gl_eq : p.gl = some gl
  size_eq : p.size = some (displaySize environ)
  sourceSize_eq : p.sourceSize = some (displaySize environ)
  bufferSize_eq : p.bufferSize = some (displaySize environ)
  rotation_eq : p.rotation = some (rotation environ)
  visible_eq : p.visible = some w.visible

/-- The Screen service knows the windows with a Screen window, in the order of their creation and
nothing else, each as it is. -/
structure ScreenRight (environ : List CString) (gl : Bool) (s : State) : Prop where
  screen_eq : s.screen.map Prod.fst = s.onScreen.map Prod.fst
  mirrors : ∀ id w p, (id, w) ∈ s.windows → (id, p) ∈ s.screen → Mirrors environ gl w p

/-- All properties are set. -/
structure Calls.SetsAll (calls : Calls) : Prop where
  usage : calls.setUsage = true
  size : calls.setSize = true
  sourceSize : calls.setSourceSize = true
  bufferSize : calls.setBufferSize = true
  rotation : calls.setRotation = true
  visible : calls.setVisible = true

/-- The calls of a step that fail make no difference: a constructor sets all properties of a Screen
window, a destructor destroys it, and when the visibility is not set, the window has it already. -/
def CallsTakeEffect (s : State) : Op → Prop
  | .create calls => calls.createWindow = true → calls.SetsAll
  | .delete id destroyWindow =>
    ∀ w, s.window id = some w → w.screenWindow = true → destroyWindow = true
  | .setBounds _ _ _ _ => True
  | .show id _ setVisible _ =>
    ∀ w, s.window id = some w → w.screenWindow = true → setVisible = true ∨ w.visible = true
  | .hide id setVisible =>
    ∀ w, s.window id = some w → w.screenWindow = true → setVisible = true ∨ w.visible = false

section

variable {environ : List CString} {gl eventSource : Bool} {s : State}

lemma setProperty_eq_some_iff {α : Type*} {succeeds : Bool} {value old : α} :
    setProperty succeeds value (some old) = some value ↔ succeeds = true ∨ old = value := by
  unfold setProperty
  split
  · rename_i hset
    exact iff_of_true rfl (Or.inl hset)
  · rename_i hset
    exact ⟨fun h => Or.inr (Option.some.inj h), fun h => congrArg some (h.resolve_left hset)⟩

lemma setProperty_none_eq_some_iff {α : Type*} {succeeds : Bool} {value : α} :
    setProperty succeeds value none = some value ↔ succeeds = true := by
  unfold setProperty
  split
  · rename_i hset
    exact iff_of_true rfl hset
  · rename_i hset
    exact iff_of_false nofun hset

lemma mirrors_claimKeyboardFocus_iff {w : Window} {p : ScreenProperties} (calls : FocusCalls) :
    Mirrors environ gl w (claimKeyboardFocus calls p) ↔ Mirrors environ gl w p := by
  unfold QnxScreenWindows.claimKeyboardFocus
  split
  · exact Iff.rfl
  · split
    · exact Iff.rfl
    · exact ⟨fun h => { h with }, fun h => { h with }⟩

/-- A new Screen window is as its window has it exactly when all its properties were set. -/
lemma mirrors_newProperties_iff (environ : List CString) (gl : Bool) (calls : Calls) (widget : ℕ) :
    Mirrors environ gl ⟨widget, true, displaySize environ, true⟩
      (newProperties environ gl calls (displaySize environ)) ↔ calls.SetsAll := by
  rw [newProperties_eq, mirrors_claimKeyboardFocus_iff]
  constructor
  · intro h
    exact
      { usage := setProperty_none_eq_some_iff.mp h.gl_eq
        size := setProperty_none_eq_some_iff.mp h.size_eq
        sourceSize := setProperty_none_eq_some_iff.mp h.sourceSize_eq
        bufferSize := setProperty_none_eq_some_iff.mp h.bufferSize_eq
        rotation := setProperty_none_eq_some_iff.mp h.rotation_eq
        visible := setProperty_none_eq_some_iff.mp h.visible_eq }
  · intro h
    exact
      { gl_eq := setProperty_none_eq_some_iff.mpr h.usage
        size_eq := setProperty_none_eq_some_iff.mpr h.size
        sourceSize_eq := setProperty_none_eq_some_iff.mpr h.sourceSize
        bufferSize_eq := setProperty_none_eq_some_iff.mpr h.bufferSize
        rotation_eq := setProperty_none_eq_some_iff.mpr h.rotation
        visible_eq := setProperty_none_eq_some_iff.mpr h.visible }

/-! ## When the Screen windows are right -/

lemma start_screenRight : ScreenRight environ gl start where
  screen_eq := rfl
  mirrors := fun _ _ _ h => absurd h List.not_mem_nil

/-- A Screen window belongs to a window that has one. -/
lemma ScreenRight.exists_window (h : ScreenRight environ gl s) {id : ℕ} {p : ScreenProperties}
    (hp : (id, p) ∈ s.screen) :
    ∃ w, (id, w) ∈ s.windows ∧ w.screenWindow = true ∧ Mirrors environ gl w p := by
  have hmem := h.screen_eq ▸ List.mem_map_of_mem (f := Prod.fst) hp
  obtain ⟨⟨id', w⟩, he, rfl⟩ := List.mem_map.mp hmem
  obtain ⟨hw, hshown⟩ := List.mem_filter.mp he
  exact ⟨w, hw, hshown, h.mirrors _ w p hw hp⟩

lemma ScreenRight.createHidden (h : WindowsRight environ gl eventSource s)
    (hs : ScreenRight environ gl s) : ScreenRight environ gl (createHidden environ s) := by
  refine ⟨by rw [onScreen_createHidden]; exact hs.screen_eq, fun id w p hw hp => ?_⟩
  rcases List.mem_append.mp hw with hw | hw
  · exact hs.mirrors id w p hw hp
  · obtain ⟨rfl, -⟩ := Prod.mk.inj (List.mem_singleton.mp hw)
    exact absurd (h.screen_lt _ hp) (lt_irrefl _)

lemma ScreenRight.createShown_iff (h : WindowsRight environ gl eventSource s)
    (hs : ScreenRight environ gl s) (calls : Calls) :
    ScreenRight environ gl (createShown environ gl eventSource s calls) ↔ calls.SetsAll := by
  have hnew : Mirrors environ gl (s.newShown environ)
      (newProperties environ gl calls (displaySize environ)) ↔ calls.SetsAll :=
    mirrors_newProperties_iff environ gl calls s.nextWidget
  constructor
  · intro hright
    exact hnew.mp (hright.mirrors s.created _ _ (List.mem_append_right _ List.mem_cons_self)
      (List.mem_append_right _ List.mem_cons_self))
  · intro hcalls
    refine ⟨?_, fun id w p hw hp => ?_⟩
    · rw [onScreen_createShown, List.map_append, ← hs.screen_eq]
      exact List.map_append
    · rcases List.mem_append.mp hw with hw | hw <;> rcases List.mem_append.mp hp with hp | hp
      · exact hs.mirrors id w p hw hp
      · obtain ⟨rfl, -⟩ := Prod.mk.inj (List.mem_singleton.mp hp)
        exact absurd (h.id_lt _ hw) (lt_irrefl _)
      · obtain ⟨rfl, -⟩ := Prod.mk.inj (List.mem_singleton.mp hw)
        exact absurd (h.screen_lt _ hp) (lt_irrefl _)
      · obtain ⟨-, rfl⟩ := Prod.mk.inj (List.mem_singleton.mp hw)
        obtain ⟨-, rfl⟩ := Prod.mk.inj (List.mem_singleton.mp hp)
        exact hnew.mpr hcalls

lemma ScreenRight.create_iff (h : WindowsRight environ gl eventSource s)
    (hs : ScreenRight environ gl s) (calls : Calls) :
    ScreenRight environ gl (create environ gl eventSource s calls) ↔
      (calls.createWindow = true → calls.SetsAll) := by
  unfold QnxScreenWindows.create
  rcases calls.createWindow with _ | _
  · exact iff_of_true (hs.createHidden h) nofun
  · exact (hs.createShown_iff h calls).trans ⟨fun hset _ => hset, fun hset => hset rfl⟩

lemma ScreenRight.delete_iff (h : WindowsRight environ gl eventSource s)
    (hs : ScreenRight environ gl s) {id : ℕ} {w : Window} (hw : (id, w) ∈ s.windows)
    (destroyWindow : Bool) :
    ScreenRight environ gl (delete eventSource s id w destroyWindow) ↔
      (w.screenWindow = true → destroyWindow = true) := by
  have hscreen : (delete eventSource s id w destroyWindow).screen =
      if w.screenWindow && destroyWindow then erase id s.screen else s.screen := rfl
  constructor
  · intro hright hshown
    by_contra hleft
    obtain ⟨p, hp⟩ := h.exists_screen hw hshown
    rw [if_neg (by rw [hshown, Bool.true_and]; exact hleft)] at hscreen
    -- the Screen window is left without its window
    obtain ⟨w', hw', -⟩ := hright.exists_window (hscreen ▸ hp)
    exact (mem_erase.mp hw').2 rfl
  · intro hdestroyed
    have herased : (delete eventSource s id w destroyWindow).screen = erase id s.screen := by
      rw [hscreen]
      rcases hshown : w.screenWindow with _ | _
      · rw [Bool.false_and, if_neg Bool.false_ne_true, erase_of_notMem]
        rw [hs.screen_eq]
        exact h.notMem_onScreen hw hshown
      · rw [hdestroyed hshown, Bool.true_and, if_pos rfl]
    refine ⟨?_, fun id' w' p hw' hp => ?_⟩
    · rw [herased, onScreen_delete, map_fst_erase, map_fst_erase, hs.screen_eq]
    · rw [herased] at hp
      exact hs.mirrors id' w' p (mem_erase.mp hw').1 (mem_erase.mp hp).1

/-- A window and its Screen window are changed together. -/
lemma ScreenRight.modify (h : WindowsRight environ gl eventSource s)
    (hs : ScreenRight environ gl s) {id : ℕ} {w : Window} (hw : (id, w) ∈ s.windows)
    {f : Window → Window} {g : ScreenProperties → ScreenProperties}
    (hf : ∀ w, (f w).screenWindow = w.screenWindow)
    (hmirrors : ∀ p, (id, p) ∈ s.screen → Mirrors environ gl w p →
      Mirrors environ gl (f w) (g p)) :
    ScreenRight environ gl
      { s with
        windows := KeyedList.modify id f s.windows
        screen := KeyedList.modify id g s.screen } := by
  have hon : (KeyedList.modify id f s.windows).filter (fun e => e.2.screenWindow) =
      KeyedList.modify id f s.onScreen :=
    filter_modify (fun _ w => hf w) s.windows
  refine ⟨?_, fun id' w' p' hw' hp' => ?_⟩
  · change (KeyedList.modify id g s.screen).map _ =
      ((KeyedList.modify id f s.windows).filter _).map _
    rw [hon, map_fst_modify, map_fst_modify]
    exact hs.screen_eq
  · obtain ⟨⟨j, v⟩, hv, hjv⟩ := mem_modify.mp hw'
    obtain ⟨⟨k, p⟩, hp, hkp⟩ := mem_modify.mp hp'
    by_cases hj : j = id
    · rw [if_pos hj] at hjv
      obtain ⟨rfl, rfl⟩ := Prod.mk.inj hjv
      obtain rfl : id' = id := hj
      obtain rfl := eq_of_mem h.nodup hw hv
      by_cases hk : k = id'
      · rw [if_pos hk] at hkp
        obtain ⟨rfl, rfl⟩ := Prod.mk.inj hkp
        exact hmirrors p hp (hs.mirrors _ w p hw hp)
      · rw [if_neg hk] at hkp
        exact absurd (congrArg Prod.fst hkp).symm hk
    · rw [if_neg hj] at hjv
      obtain ⟨rfl, rfl⟩ := Prod.mk.inj hjv
      by_cases hk : k = id
      · rw [if_pos hk] at hkp
        exact absurd ((congrArg Prod.fst hkp).trans hk) hj
      · rw [if_neg hk] at hkp
        obtain ⟨rfl, rfl⟩ := Prod.mk.inj hkp
        exact hs.mirrors _ _ _ hv hp

/-- The change of a window that has a Screen window. -/
lemma ScreenRight.modify_iff (h : WindowsRight environ gl eventSource s)
    (hs : ScreenRight environ gl s) {id : ℕ} {w : Window} (hw : (id, w) ∈ s.windows)
    (hshown : w.screenWindow = true) {f : Window → Window}
    {g : ScreenProperties → ScreenProperties} {C : Prop}
    (hf : ∀ w, (f w).screenWindow = w.screenWindow)
    (hC : ∀ p, Mirrors environ gl w p → (Mirrors environ gl (f w) (g p) ↔ C)) :
    ScreenRight environ gl
      { s with
        windows := KeyedList.modify id f s.windows
        screen := KeyedList.modify id g s.screen } ↔ C := by
  constructor
  · intro hright
    obtain ⟨p, hp⟩ := h.exists_screen hw hshown
    refine (hC p (hs.mirrors id w p hw hp)).mp (hright.mirrors id _ _ ?_ ?_)
    · exact mem_modify.mpr ⟨(id, w), hw, (if_pos rfl).symm⟩
    · exact mem_modify.mpr ⟨(id, p), hp, (if_pos rfl).symm⟩
  · intro hc
    exact hs.modify h hw hf fun p _ hmirrors => (hC p hmirrors).mpr hc

/-- The change of a window that has none. -/
lemma ScreenRight.modify_hidden (h : WindowsRight environ gl eventSource s)
    (hs : ScreenRight environ gl s) {id : ℕ} {w : Window} (hw : (id, w) ∈ s.windows)
    (hhidden : ¬ w.screenWindow = true) {f : Window → Window}
    (hf : ∀ w, (f w).screenWindow = w.screenWindow) :
    ScreenRight environ gl { s with windows := KeyedList.modify id f s.windows } := by
  have hkept := hs.modify h hw (g := fun props => props) hf fun p hp _ => by
    have hmem := hs.screen_eq ▸ List.mem_map_of_mem (f := Prod.fst) hp
    exact absurd hmem (h.notMem_onScreen hw (Bool.eq_false_of_not_eq_true hhidden))
  rwa [modify_id] at hkept

lemma ScreenRight.setBounds (h : WindowsRight environ gl eventSource s)
    (hs : ScreenRight environ gl s) {id : ℕ} {w : Window} (hw : (id, w) ∈ s.windows)
    (bounds : Size) (setSize setSourceSize : Bool) :
    ScreenRight environ gl (setBounds s id w bounds setSize setSourceSize) := by
  unfold QnxScreenWindows.setBounds
  split
  · have hkept := hs.modify h hw (f := fun w => w)
      (g := fun props =>
        { props with
          size := setProperty setSize w.bounds props.size
          sourceSize := setProperty setSourceSize w.bounds props.sourceSize })
      (fun _ => rfl) fun p _ hp =>
        { hp with
          size_eq := by
            rw [hp.size_eq, h.bounds_eq _ hw]
            exact setProperty_eq_some_iff.mpr (Or.inr rfl)
          sourceSize_eq := by
            rw [hp.sourceSize_eq, h.bounds_eq _ hw]
            exact setProperty_eq_some_iff.mpr (Or.inr rfl) }
    rwa [modify_id] at hkept
  · exact hs

/-- A Screen window is as its window after a change of the visibility if the property was set or had
the value. -/
lemma mirrors_setVisible_iff {w : Window} {p : ScreenProperties} (hp : Mirrors environ gl w p)
    (visible setVisible : Bool) :
    Mirrors environ gl { w with visible := visible }
        { p with visible := setProperty setVisible visible p.visible } ↔
      setVisible = true ∨ w.visible = visible := by
  rw [hp.visible_eq]
  exact ⟨fun h => setProperty_eq_some_iff.mp h.visible_eq,
    fun h => { hp with visible_eq := setProperty_eq_some_iff.mpr h }⟩

lemma ScreenRight.showWindow_iff (h : WindowsRight environ gl eventSource s)
    (hs : ScreenRight environ gl s) {id : ℕ} {w : Window} (hw : (id, w) ∈ s.windows)
    (inactive setVisible : Bool) (focus : FocusCalls) :
    ScreenRight environ gl (showWindow s id w inactive setVisible focus) ↔
      (w.screenWindow = true → setVisible = true ∨ w.visible = true) := by
  unfold QnxScreenWindows.showWindow
  dsimp only
  split
  · rename_i hshown
    refine (hs.modify_iff h hw hshown (f := fun w => { w with visible := true })
      (fun _ => rfl) fun p hp => ?_).trans (forall_prop_of_true hshown).symm
    split
    · exact mirrors_setVisible_iff hp true setVisible
    · exact (mirrors_claimKeyboardFocus_iff focus).trans (mirrors_setVisible_iff hp true setVisible)
  · rename_i hhidden
    exact iff_of_true (hs.modify_hidden h hw hhidden fun _ => rfl) fun hshown =>
      absurd hshown hhidden

lemma ScreenRight.hideWindow_iff (h : WindowsRight environ gl eventSource s)
    (hs : ScreenRight environ gl s) {id : ℕ} {w : Window} (hw : (id, w) ∈ s.windows)
    (setVisible : Bool) :
    ScreenRight environ gl (hideWindow s id w setVisible) ↔
      (w.screenWindow = true → setVisible = true ∨ w.visible = false) := by
  unfold QnxScreenWindows.hideWindow
  dsimp only
  split
  · rename_i hshown
    refine (hs.modify_iff h hw hshown (f := fun w => { w with visible := false })
      (fun _ => rfl) fun p hp => ?_).trans (forall_prop_of_true hshown).symm
    exact mirrors_setVisible_iff hp false setVisible
  · rename_i hhidden
    exact iff_of_true (hs.modify_hidden h hw hhidden fun _ => rfl) fun hshown =>
      absurd hshown hhidden

lemma forall_window_iff {C : Window → Prop} {id : ℕ} {w : Window} (hw : s.window id = some w) :
    (∀ v, s.window id = some v → C v) ↔ C w := by
  rw [hw]
  exact ⟨fun h => h w rfl, fun h v hv => Option.some.inj hv ▸ h⟩

/-- **Step lemma.**  A step keeps the Screen windows right exactly when those of its calls that fail
make no difference. -/
lemma ScreenRight.step_iff {s' : State} {op : Op} (h : WindowsRight environ gl eventSource s)
    (hs : ScreenRight environ gl s) (hstep : step environ gl eventSource s op = some s') :
    ScreenRight environ gl s' ↔ CallsTakeEffect s op := by
  cases op with
  | create calls =>
    rw [← Option.some.inj hstep]
    exact hs.create_iff h calls
  | delete id destroyWindow =>
    obtain ⟨w, hw, rfl⟩ := Option.map_eq_some_iff.mp hstep
    rw [CallsTakeEffect, forall_window_iff hw]
    exact hs.delete_iff h (mem_windows_of_window hw) destroyWindow
  | setBounds id bounds setSize setSourceSize =>
    obtain ⟨w, hw, rfl⟩ := Option.map_eq_some_iff.mp hstep
    exact iff_of_true (hs.setBounds h (mem_windows_of_window hw) bounds setSize setSourceSize)
      trivial
  | «show» id inactive setVisible focus =>
    obtain ⟨w, hw, rfl⟩ := Option.map_eq_some_iff.mp hstep
    rw [CallsTakeEffect, forall_window_iff hw]
    exact hs.showWindow_iff h (mem_windows_of_window hw) inactive setVisible focus
  | hide id setVisible =>
    obtain ⟨w, hw, rfl⟩ := Option.map_eq_some_iff.mp hstep
    rw [CallsTakeEffect, forall_window_iff hw]
    exact hs.hideWindow_iff h (mem_windows_of_window hw) setVisible

/-- From the start, the Screen windows are right in the runs whose failing calls make no
difference. -/
lemma always_screenRight_iff (ops : List Op) :
    Always (step environ gl eventSource) (ScreenRight environ gl) start ops ↔
      StepsMeet (step environ gl eventSource) CallsTakeEffect start ops := by
  apply always_iff_stepsMeet
    (I := fun s => WindowsRight environ gl eventSource s ∧ ScreenRight environ gl s)
    ⟨start_windowsRight, start_screenRight⟩
  · exact fun s hs => hs.2
  · intro s op s' hs hop hstep
    exact ⟨hs.1.of_step hstep, (hs.2.step_iff hs.1 hstep).mpr hop⟩
  · intro s op s' hs hop hstep hright
    exact hop ((hs.2.step_iff hs.1 hstep).mp hright)

/-- **The surroundings.**  However windows are created, shown, hidden, moved and deleted, and
however the calls of the Screen service go: the window manager and the dispatchers always know
exactly the windows that have a Screen window, and no size but that of the display is ever set; and
the Screen windows are those of the windows, each as it is, throughout a run, exactly if its failing
calls make no difference. -/
theorem windows_right (environ : List CString) (gl eventSource : Bool) (ops : List Op) :
    Always (step environ gl eventSource) (WindowsRight environ gl eventSource) start ops ∧
      (Always (step environ gl eventSource) (ScreenRight environ gl) start ops ↔
        StepsMeet (step environ gl eventSource) CallsTakeEffect start ops) :=
  ⟨always_of_forall_reachable ops fun _ hs =>
    hs.invariant start_windowsRight fun _ _ _ h hstep => h.of_step hstep,
    always_screenRight_iff ops⟩

/-- A window is hidden, but its visibility is not set. -/
example : ¬ Always (step [] false true) (ScreenRight [] false) start
    [.create sampleCalls, .hide 0 false] := by
  rw [always_screenRight_iff]
  intro h
  have hhide := ((h _ rfl).2 _ rfl).1 _ rfl rfl
  exact absurd hhide (by decide)

end

end QnxScreenWindows

end ChromiumQnx
