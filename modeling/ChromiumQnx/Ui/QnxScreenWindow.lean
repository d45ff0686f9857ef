import ChromiumQnx.Content.ProcessEnvironment
import ChromiumQnx.Foundation.KeyedList
import ChromiumQnx.Foundation.TransitionSystem
import ChromiumQnx.Ui.QnxScreenSurface

/-!
# Windows of the Screen platform

A `QnxScreenWindow` makes a window of the Screen service, enters itself into the window manager and
the list of event dispatchers, and leaves both when it is deleted.  When the Screen window cannot be
made, it exists without one and enters nothing.  Its size is that of the display, whatever the
content shell asks for.

The calls that set the properties of a Screen window and destroy it are not looked at, and may fail.
`WindowsRight` is what every call on a window keeps, whatever fails: what the window manager and the
dispatchers hold, given by the windows that exist, and which values were ever set of a Screen
window.
-/

namespace ChromiumQnx

namespace QnxScreenWindows

open KeyedList Snprintf TransitionSystem
open StringSearch (CString)

/-! ## Windows and their properties -/

/-- A `QnxScreenWindow`: `widget_`, whether `window_` is set, the size of `bounds_`, whose origin is
always `(0, 0)`, and `visible_`. -/
structure Window where
  widget : ℕ
  screenWindow : Bool
  bounds : Size
  visible : Bool

/-- A window of the Screen service: whether it was made the focus of its group, whether it is for
OpenGL, its sizes, its rotation and its visibility, each as it was last set, if it ever was, and the
size of its buffers, if they were made. -/
structure ScreenProperties where
  focus : Bool
  gl : Option Bool
  size : Option Size
  sourceSize : Option Size
  bufferSize : Option Size
  rotation : Option ℤ
  visible : Option Bool
  buffers : Option Size

def keyScreenWidth : EnvKey := envKey "QNX_SCREEN_WIDTH" (by decide)

def keyScreenHeight : EnvKey := envKey "QNX_SCREEN_HEIGHT" (by decide)

/-- A dimension of the display: 1440, or the positive value of a variable. -/
def displayDimension (environ : List CString) (k : EnvKey) : ℤ :=
  match getenv environ k with
  | some e => if 0 < atoi e then atoi e else 1440
  | none => 1440

/-- The size of the display. -/
def displaySize (environ : List CString) : Size where
  width := displayDimension environ keyScreenWidth
  height := displayDimension environ keyScreenHeight

/-- `rotation`. -/
def rotation (environ : List CString) : ℤ :=
  match getenv environ keyScreenRotation with
  | some e => atoi e
  | none => 0

/-! ## The steps -/

/-- The windows that exist, in the order of their creation; how many were created, the next widget,
the map of the window manager, the event dispatchers, and the Screen windows that were made and not
destroyed.  A window is named by its number, and its Screen window by the same. -/
structure State where
  created : ℕ
  nextWidget : ℕ
  windows : List (ℕ × Window)
  manager : OrderedMap ℕ ℕ
  dispatchers : List ℕ
  screen : List (ℕ × ScreenProperties)

/-- How the calls of `ClaimKeyboardFocus` go: whether the group of the window is got, and whether
its focus is set. -/
structure FocusCalls where
  getGroup : Bool
  setFocus : Bool

/-- How the calls of a constructor go: whether the Screen window is made, the focus, which of the
properties are set, and the size in which the buffers are made, if they are. -/
structure Calls where
  createWindow : Bool
  focus : FocusCalls
  setUsage : Bool
  setSize : Bool
  setSourceSize : Bool
  setBufferSize : Bool
  setRotation : Bool
  setVisible : Bool
  createBuffers : Option Size

/-- The calls on windows, with the results of what they call in turn. -/
inductive Op
  | create (calls : Calls)
  | delete (id : ℕ) (destroyWindow : Bool)
  | setBounds (id : ℕ) (bounds : Size) (setSize setSourceSize : Bool)
  | show (id : ℕ) (inactive setVisible : Bool) (focus : FocusCalls)
  | hide (id : ℕ) (setVisible : Bool)

/-- `screen_set_window_property_iv`: when it fails, the property is as it was. -/
def setProperty {α : Type*} (succeeds : Bool) (value : α) (property : Option α) : Option α :=
  if succeeds then some value else property

/-- `ClaimKeyboardFocus`. -/
def claimKeyboardFocus (calls : FocusCalls) (props : ScreenProperties) : ScreenProperties :=
  if !calls.getGroup then props else
  if !calls.setFocus then props else { props with focus := true }

section

variable (environ : List CString) (gl eventSource : Bool)

/-- The Screen window as the constructor leaves it. -/
def newProperties (calls : Calls) (bounds : Size) : ScreenProperties :=
  let size : Size :=
    { width := if bounds.width ≤ 0 then 1440 else bounds.width
      height := if bounds.height ≤ 0 then 1440 else bounds.height }
  claimKeyboardFocus calls.focus
    { focus := false
      gl := setProperty calls.setUsage gl none
      size := setProperty calls.setSize size none
      sourceSize := setProperty calls.setSourceSize size none
      bufferSize := setProperty calls.setBufferSize size none
      rotation := setProperty calls.setRotation (rotation environ) none
      visible := setProperty calls.setVisible true none
      buffers := calls.createBuffers }

/-- The window that is created without a Screen window. -/
def State.newHidden (s : State) : Window := ⟨s.nextWidget, false, displaySize environ, false⟩

/-- The window that is created with a Screen window. -/
def State.newShown (s : State) : Window := ⟨s.nextWidget, true, displaySize environ, true⟩

/-- The constructor when the Screen window cannot be made. -/
def createHidden (s : State) : State :=
  { s with
    created := s.created + 1
    nextWidget := s.nextWidget + 1
    windows := s.windows ++ [(s.created, s.newHidden environ)] }

/-- The constructor when the Screen window is made. -/
def createShown (s : State) (calls : Calls) : State :=
  { s with
    created := s.created + 1
    nextWidget := s.nextWidget + 1
    windows := s.windows ++ [(s.created, s.newShown environ)]
    manager := s.manager.set s.nextWidget s.created
    dispatchers := if eventSource then s.dispatchers ++ [s.created] else s.dispatchers
    screen := s.screen ++ [(s.created, newProperties environ gl calls (displaySize environ))] }

/-- The constructor. -/
def create (s : State) (calls : Calls) : State :=
  if !calls.createWindow then createHidden environ s
  else createShown environ gl eventSource s calls

/-- The destructor. -/
def delete (s : State) (id : ℕ) (window : Window) (destroyWindow : Bool) : State :=
  { s with
    windows := erase id s.windows
    manager := s.manager.eraseIf fun e => e.1 = window.widget
    dispatchers := if eventSource then s.dispatchers.filter (· ≠ id) else s.dispatchers
    screen := if window.screenWindow && destroyWindow then erase id s.screen else s.screen }

/-- `visible_` of a window is set. -/
def State.setVisible (s : State) (id : ℕ) (visible : Bool) : State :=
  { s with windows := modify id (fun w => { w with visible := visible }) s.windows }

/-- A Screen window is changed. -/
def State.modifyScreen (s : State) (id : ℕ) (f : ScreenProperties → ScreenProperties) : State :=
  { s with screen := modify id f s.screen }

/-- `SetBoundsInPixels`, which does not look at the bounds it is given. -/
def setBounds (s : State) (id : ℕ) (window : Window) (_bounds : Size)
    (setSize setSourceSize : Bool) : State :=
  if window.screenWindow then
    s.modifyScreen id fun props =>
      { props with
        size := setProperty setSize window.bounds props.size
        sourceSize := setProperty setSourceSize window.bounds props.sourceSize }
  else s

/-- `Show`. -/
def showWindow (s : State) (id : ℕ) (window : Window) (inactive setVisible : Bool)
    (focus : FocusCalls) : State :=
  let s := s.setVisible id true
  if window.screenWindow then
    s.modifyScreen id fun props =>
      let props := { props with visible := setProperty setVisible true props.visible }
      if inactive then props else claimKeyboardFocus focus props
  else s

/-- `Hide`. -/
def hideWindow (s : State) (id : ℕ) (window : Window) (setVisible : Bool) : State :=
  let s := s.setVisible id false
  if window.screenWindow then
    s.modifyScreen id fun props =>
      { props with visible := setProperty setVisible false props.visible }
  else s

/-- The window with a number. -/
def State.window (s : State) (id : ℕ) : Option Window :=
  (s.windows.find? fun e => e.1 = id).map Prod.snd

/-- One call. -/
def step (s : State) : Op → Option State
  | .create calls => some (create environ gl eventSource s calls)
  | .delete id destroyWindow =>
    (s.window id).map fun window => delete eventSource s id window destroyWindow
  | .setBounds id bounds setSize setSourceSize =>
    (s.window id).map fun window => setBounds s id window bounds setSize setSourceSize
  | .show id inactive setVisible focus =>
    (s.window id).map fun window => showWindow s id window inactive setVisible focus
  | .hide id setVisible => (s.window id).map fun window => hideWindow s id window setVisible

end

/-- No window was created. -/
def start : State where
  created := 0
  nextWidget := 1
  windows := []
  manager := ⟨[], List.Pairwise.nil⟩
  dispatchers := []
  screen := []

/-- Calls of a constructor that all go well. -/
def sampleCalls : Calls where
  createWindow := true
  focus := ⟨true, true⟩
  setUsage := true
  setSize := true
  setSourceSize := true
  setBufferSize := true
  setRotation := true
  setVisible := true
  createBuffers := some ⟨1440, 1440⟩

/-! ## What the surroundings hold -/

/-- The windows that have a Screen window. -/
def State.onScreen (s : State) : List (ℕ × Window) := s.windows.filter fun e => e.2.screenWindow

/-- What was set of a Screen window is what the command line and the environment say. -/
structure SetRight (environ : List CString) (gl : Bool) (p : ScreenProperties) : Prop where
  gl_eq : ∀ g ∈ p.gl, g = gl
  size_eq : ∀ size ∈ p.size, size = displaySize environ
  sourceSize_eq : ∀ size ∈ p.sourceSize, size = displaySize environ
  bufferSize_eq : ∀ size ∈ p.bufferSize, size = displaySize environ
  rotation_eq : ∀ r ∈ p.rotation, r = rotation environ

/-- What holds of the windows and their surroundings: the widgets are given out in ascending order,
every window has the size of the display, the window manager and the dispatchers know the windows
with a Screen window, in the order of their creation and nothing else, and of the Screen windows
only what is right was set. -/
structure WindowsRight (environ : List CString) (gl eventSource : Bool) (s : State) : Prop where
  nextWidget_eq : s.nextWidget = s.created + 1
  ids_sorted : (s.windows.map Prod.fst).Pairwise (· < ·)
  id_lt : ∀ e ∈ s.windows, e.1 < s.created
  widget_eq : ∀ e ∈ s.windows, e.2.widget = e.1 + 1
  bounds_eq : ∀ e ∈ s.windows, e.2.bounds = displaySize environ
  manager_eq : s.manager.entries = s.onScreen.map fun e => (e.2.widget, e.1)
  dispatchers_eq : s.dispatchers = if eventSource then s.onScreen.map Prod.fst else []
  screen_lt : ∀ e ∈ s.screen, e.1 < s.created
  onScreen_mem : ∀ e ∈ s.onScreen, e.1 ∈ s.screen.map Prod.fst
  setRight : ∀ e ∈ s.screen, SetRight environ gl e.2

section

variable {environ : List CString} {gl eventSource : Bool} {s : State}

lemma displayDimension_pos (environ : List CString) (k : EnvKey) :
    0 < displayDimension environ k := by
  unfold displayDimension
  split
  · split
    · assumption
    · decide
  · decide

/-- What is set is set, or what it was. -/
lemma forall_mem_setProperty {α : Type*} {P : α → Prop} {succeeds : Bool} {value : α}
    {property : Option α} (hvalue : P value) (hproperty : ∀ v ∈ property, P v) :
    ∀ v ∈ setProperty succeeds value property, P v := by
  unfold setProperty
  split
  · rintro v ⟨⟩
    exact hvalue
  · exact hproperty

/-- The constructor's sizes are those of the display. -/
lemma newProperties_eq (environ : List CString) (gl : Bool) (calls : Calls) :
    newProperties environ gl calls (displaySize environ) =
      claimKeyboardFocus calls.focus
        { focus := false
          gl := setProperty calls.setUsage gl none
          size := setProperty calls.setSize (displaySize environ) none
          sourceSize := setProperty calls.setSourceSize (displaySize environ) none
          bufferSize := setProperty calls.setBufferSize (displaySize environ) none
          rotation := setProperty calls.setRotation (rotation environ) none
          visible := setProperty calls.setVisible true none
          buffers := calls.createBuffers } := by
  have hwidth : 0 < (displaySize environ).width := displayDimension_pos environ keyScreenWidth
  have hheight : 0 < (displaySize environ).height := displayDimension_pos environ keyScreenHeight
  unfold newProperties
  rw [if_neg (not_le.mpr hwidth), if_neg (not_le.mpr hheight)]

/-- Claiming the focus changes nothing but the focus. -/
lemma SetRight.claimKeyboardFocus {p : ScreenProperties} (h : SetRight environ gl p)
    (calls : FocusCalls) : SetRight environ gl (claimKeyboardFocus calls p) := by
  unfold QnxScreenWindows.claimKeyboardFocus
  split
  · exact h
  · split
    · exact h
    · exact { h with }

lemma setRight_newProperties (environ : List CString) (gl : Bool) (calls : Calls) :
    SetRight environ gl (newProperties environ gl calls (displaySize environ)) := by
  rw [newProperties_eq]
  refine SetRight.claimKeyboardFocus ?_ calls.focus
  exact
    { gl_eq := forall_mem_setProperty rfl nofun
      size_eq := forall_mem_setProperty rfl nofun
      sourceSize_eq := forall_mem_setProperty rfl nofun
      bufferSize_eq := forall_mem_setProperty rfl nofun
      rotation_eq := forall_mem_setProperty rfl nofun }

/-! ## What every call keeps -/

lemma start_windowsRight : WindowsRight environ gl eventSource start where
  nextWidget_eq := rfl
  ids_sorted := List.Pairwise.nil
  id_lt := List.forall_mem_nil _
  widget_eq := List.forall_mem_nil _
  bounds_eq := List.forall_mem_nil _
  manager_eq := rfl
  dispatchers_eq := (ite_self _).symm
  screen_lt := List.forall_mem_nil _
  onScreen_mem := List.forall_mem_nil _
  setRight := List.forall_mem_nil _

lemma WindowsRight.nodup (h : WindowsRight environ gl eventSource s) :
    (s.windows.map Prod.fst).Nodup := h.ids_sorted.imp ne_of_lt

lemma mem_windows_of_window {id : ℕ} {w : Window} (h : s.window id = some w) :
    (id, w) ∈ s.windows := by
  obtain ⟨e, he, rfl⟩ := Option.map_eq_some_iff.mp h
  have hfound := List.find?_some he
  obtain rfl : e.1 = id := of_decide_eq_true hfound
  exact List.mem_of_find?_eq_some he

/-- The window with its number. -/
lemma WindowsRight.window_eq (h : WindowsRight environ gl eventSource s) {id : ℕ} {w : Window}
    (hw : (id, w) ∈ s.windows) : s.window id = some w := by
  have hfound : (s.windows.find? fun e => e.1 = id).isSome :=
    List.find?_isSome.mpr ⟨(id, w), hw, decide_eq_true rfl⟩
  obtain ⟨e, he⟩ := Option.isSome_iff_exists.mp hfound
  have hkey := List.find?_some he
  obtain rfl : e.1 = id := of_decide_eq_true hkey
  rw [State.window, he]
  exact congrArg some (eq_of_mem h.nodup (List.mem_of_find?_eq_some he) hw)

/-- The windows after one more was created. -/
lemma WindowsRight.windows_append (h : WindowsRight environ gl eventSource s) (w : Window) :
    ((s.windows ++ [(s.created, w)]).map Prod.fst).Pairwise (· < ·) ∧
      ∀ e ∈ s.windows ++ [(s.created, w)], e.1 < s.created + 1 := by
  refine ⟨?_, fun e he => ?_⟩
  · rw [List.map_append, List.pairwise_append]
    refine ⟨h.ids_sorted, List.pairwise_singleton _ _, fun a ha b hb => ?_⟩
    obtain ⟨e, he, rfl⟩ := List.mem_map.mp ha
    rw [List.mem_singleton.mp hb]
    exact h.id_lt e he
  · rcases List.mem_append.mp he with he | he
    · exact Nat.lt_succ_of_lt (h.id_lt e he)
    · rw [List.mem_singleton.mp he]
      exact Nat.lt_succ_self _

/-- What holds of the old windows and of the new one. -/
lemma forall_windows_append {P : ℕ × Window → Prop} {w : Window} (hold : ∀ e ∈ s.windows, P e)
    (hw : P (s.created, w)) : ∀ e ∈ s.windows ++ [(s.created, w)], P e :=
  List.forall_mem_append.mpr ⟨hold, List.forall_mem_singleton.mpr hw⟩

lemma onScreen_createHidden : (createHidden environ s).onScreen = s.onScreen := by
  change (s.windows ++ [(s.created, s.newHidden environ)]).filter _ = _
  rw [List.filter_append, List.filter_singleton]
  exact List.append_nil _

lemma onScreen_createShown (calls : Calls) :
    (createShown environ gl eventSource s calls).onScreen =
      s.onScreen ++ [(s.created, s.newShown environ)] := by
  change (s.windows ++ [(s.created, s.newShown environ)]).filter _ = _
  rw [List.filter_append, List.filter_singleton]
  rfl

/-- The widgets in the manager were given out before. -/
lemma WindowsRight.manager_lt (h : WindowsRight environ gl eventSource s) :
    ∀ e ∈ s.manager.entries, e.1 < s.nextWidget := by
  intro e he
  rw [h.manager_eq] at he
  obtain ⟨d, hd, rfl⟩ := List.mem_map.mp he
  have hmem := (List.mem_filter.mp hd).1
  rw [h.widget_eq d hmem, h.nextWidget_eq]
  exact Nat.succ_lt_succ (h.id_lt d hmem)

lemma WindowsRight.createHidden (h : WindowsRight environ gl eventSource s) :
    WindowsRight environ gl eventSource (createHidden environ s) := by
  obtain ⟨hsorted, hids⟩ := h.windows_append (s.newHidden environ)
  exact
    { nextWidget_eq := congrArg (· + 1) h.nextWidget_eq
      ids_sorted := hsorted
      id_lt := hids
      widget_eq := forall_windows_append h.widget_eq h.nextWidget_eq
      bounds_eq := forall_windows_append h.bounds_eq rfl
      manager_eq := by rw [onScreen_createHidden]; exact h.manager_eq
      dispatchers_eq := by rw [onScreen_createHidden]; exact h.dispatchers_eq
      screen_lt := fun e he => Nat.lt_succ_of_lt (h.screen_lt e he)
      onScreen_mem := by rw [onScreen_createHidden]; exact h.onScreen_mem
      setRight := h.setRight }

lemma WindowsRight.createShown (h : WindowsRight environ gl eventSource s) (calls : Calls) :
    WindowsRight environ gl eventSource (createShown environ gl eventSource s calls) := by
  obtain ⟨hsorted, hids⟩ := h.windows_append (s.newShown environ)
  refine
    { nextWidget_eq := congrArg (· + 1) h.nextWidget_eq
      ids_sorted := hsorted
      id_lt := hids
      widget_eq := forall_windows_append h.widget_eq h.nextWidget_eq
      bounds_eq := forall_windows_append h.bounds_eq rfl
      manager_eq := ?_
      dispatchers_eq := ?_
      screen_lt := ?_
      onScreen_mem := ?_
      setRight := List.forall_mem_append.mpr ⟨h.setRight,
        List.forall_mem_singleton.mpr (setRight_newProperties environ gl calls)⟩ }
  · rw [onScreen_createShown, List.map_append, ← h.manager_eq]
    exact OrderedMap.entries_set_of_forall_lt h.manager_lt s.created
  · rw [onScreen_createShown, List.map_append]
    change (if eventSource then s.dispatchers ++ [s.created] else s.dispatchers) = _
    rw [h.dispatchers_eq]
    split <;> rfl
  · exact List.forall_mem_append.mpr ⟨fun e he => Nat.lt_succ_of_lt (h.screen_lt e he),
      List.forall_mem_singleton.mpr (Nat.lt_succ_self _)⟩
  · intro e he
    change e.1 ∈ (s.screen ++ [(s.created, _)]).map Prod.fst
    rw [onScreen_createShown] at he
    rw [List.map_append, List.mem_append]
    rcases List.mem_append.mp he with he | he
    · exact Or.inl (h.onScreen_mem e he)
    · rw [List.mem_singleton.mp he]
      exact Or.inr List.mem_cons_self

lemma WindowsRight.create (h : WindowsRight environ gl eventSource s) (calls : Calls) :
    WindowsRight environ gl eventSource (create environ gl eventSource s calls) := by
  unfold QnxScreenWindows.create
  split
  · exact h.createHidden
  · exact h.createShown calls

lemma onScreen_delete (id : ℕ) (w : Window) (destroyWindow : Bool) :
    (delete eventSource s id w destroyWindow).onScreen = erase id s.onScreen :=
  filter_erase id _ s.windows

/-- A window without a Screen window is not among those that have one. -/
lemma WindowsRight.notMem_onScreen (h : WindowsRight environ gl eventSource s) {id : ℕ}
    {w : Window} (hw : (id, w) ∈ s.windows) (hhidden : w.screenWindow = false) :
    id ∉ s.onScreen.map Prod.fst := by
  intro hmem
  obtain ⟨⟨id', w'⟩, he, rfl⟩ := List.mem_map.mp hmem
  obtain ⟨hw', hshown⟩ := List.mem_filter.mp he
  obtain rfl := eq_of_mem h.nodup hw hw'
  exact Bool.noConfusion (hhidden.symm.trans hshown)

lemma WindowsRight.delete (h : WindowsRight environ gl eventSource s) {id : ℕ} {w : Window}
    (hw : (id, w) ∈ s.windows) (destroyWindow : Bool) :
    WindowsRight environ gl eventSource (delete eventSource s id w destroyWindow) := by
  have hkeep : ∀ {P : ℕ × Window → Prop}, (∀ e ∈ s.windows, P e) → ∀ e ∈ erase id s.windows, P e :=
    fun hall e he => hall e (mem_erase.mp he).1
  have hscreen : ∀ e ∈ (QnxScreenWindows.delete eventSource s id w destroyWindow).screen,
      e ∈ s.screen := by
    intro e he
    change e ∈ (if w.screenWindow && destroyWindow then erase id s.screen else s.screen) at he
    split at he
    · exact (mem_erase.mp he).1
    · exact he
  refine
    { nextWidget_eq := h.nextWidget_eq
      ids_sorted := by
        change ((erase id s.windows).map Prod.fst).Pairwise (· < ·)
        rw [map_fst_erase]
        exact h.ids_sorted.filter _
      id_lt := hkeep h.id_lt
      widget_eq := hkeep h.widget_eq
      bounds_eq := hkeep h.bounds_eq
      manager_eq := ?_
      dispatchers_eq := ?_
      screen_lt := fun e he => h.screen_lt e (hscreen e he)
      onScreen_mem := ?_
      setRight := fun e he => h.setRight e (hscreen e he) }
  · rw [onScreen_delete]
    change s.manager.entries.filter (fun e => !decide (e.1 = w.widget)) = _
    rw [h.manager_eq, List.filter_map, erase]
    refine congrArg _ (List.filter_congr fun e he => ?_)
    -- the widget tells the window
    have hmem := (List.mem_filter.mp he).1
    have hwidget : e.2.widget = w.widget ↔ e.1 = id := by
      rw [h.widget_eq e hmem, h.widget_eq _ hw]
      exact Nat.succ_inj
    simp [hwidget]
  · rw [onScreen_delete, map_fst_erase]
    change (if eventSource then s.dispatchers.filter (· ≠ id) else s.dispatchers) = _
    rw [h.dispatchers_eq]
    split <;> rfl
  · intro e he
    rw [onScreen_delete] at he
    obtain ⟨he, hne⟩ := mem_erase.mp he
    obtain ⟨d, hd, hkey⟩ := List.mem_map.mp (h.onScreen_mem e he)
    change e.1 ∈ (if w.screenWindow && destroyWindow then erase id s.screen else s.screen).map _
    refine List.mem_map.mpr ⟨d, ?_, hkey⟩
    split
    · exact mem_erase.mpr ⟨hd, hkey ▸ hne⟩
    · exact hd

/-- What holds of the values of entries holds after a change that keeps it. -/
lemma forall_modify {ν : Type*} {l : List (ℕ × ν)} {P : ℕ × ν → Prop} (hall : ∀ e ∈ l, P e)
    {id : ℕ} {f : ν → ν} (hf : ∀ j v, P (j, v) → P (j, f v)) : ∀ e ∈ modify id f l, P e := by
  intro e he
  obtain ⟨d, hd, rfl⟩ := mem_modify.mp he
  split
  · exact hf d.1 d.2 (hall d hd)
  · exact hall d hd

lemma onScreen_setVisible (id : ℕ) (visible : Bool) :
    (s.setVisible id visible).onScreen =
      modify id (fun w => { w with visible := visible }) s.onScreen :=
  filter_modify (f := fun w : Window => { w with visible := visible })
    (p := fun e => e.2.screenWindow) (fun _ _ => rfl) s.windows

/-- What does not look at the visibility stays. -/
lemma forall_setVisible {P : ℕ × Window → Prop} (hall : ∀ e ∈ s.windows, P e) {id : ℕ}
    {visible : Bool} (hP : ∀ j w, P (j, w) → P (j, { w with visible := visible })) :
    ∀ e ∈ (s.setVisible id visible).windows, P e := forall_modify hall hP

lemma WindowsRight.setVisible (h : WindowsRight environ gl eventSource s) (id : ℕ)
    (visible : Bool) : WindowsRight environ gl eventSource (s.setVisible id visible) := by
  refine
    { nextWidget_eq := h.nextWidget_eq
      ids_sorted := ?_
      id_lt := forall_setVisible h.id_lt fun _ _ hlt => hlt
      widget_eq := forall_setVisible h.widget_eq fun _ _ heq => heq
      bounds_eq := forall_setVisible h.bounds_eq fun _ _ heq => heq
      manager_eq := ?_
      dispatchers_eq := ?_
      screen_lt := h.screen_lt
      onScreen_mem := fun e he => ?_
      setRight := h.setRight }
  · unfold State.setVisible
    rw [map_fst_modify]
    exact h.ids_sorted
  · rw [onScreen_setVisible, KeyedList.modify, List.map_map]
    refine h.manager_eq.trans (List.map_congr_left fun e _ => ?_)
    dsimp only [Function.comp_apply]
    split <;> rfl
  · rw [onScreen_setVisible, map_fst_modify]
    exact h.dispatchers_eq
  · have hkey := List.mem_map_of_mem (f := Prod.fst) (onScreen_setVisible id visible ▸ he)
    rw [map_fst_modify] at hkey
    obtain ⟨d, hd, heq⟩ := List.mem_map.mp hkey
    exact heq ▸ h.onScreen_mem d hd

lemma WindowsRight.modifyScreen (h : WindowsRight environ gl eventSource s) (id : ℕ)
    {f : ScreenProperties → ScreenProperties}
    (hf : ∀ p, SetRight environ gl p → SetRight environ gl (f p)) :
    WindowsRight environ gl eventSource (s.modifyScreen id f) :=
  { h with
    screen_lt := forall_modify h.screen_lt fun _ _ hlt => hlt
    onScreen_mem := fun e he => by
      change e.1 ∈ (KeyedList.modify id f s.screen).map Prod.fst
      rw [map_fst_modify]
      exact h.onScreen_mem e he
    setRight := forall_modify h.setRight fun _ p hp => hf p hp }

lemma WindowsRight.setBounds (h : WindowsRight environ gl eventSource s) {id : ℕ} {w : Window}
    (hw : (id, w) ∈ s.windows) (bounds : Size) (setSize setSourceSize : Bool) :
    WindowsRight environ gl eventSource (setBounds s id w bounds setSize setSourceSize) := by
  unfold QnxScreenWindows.setBounds
  split
  · exact h.modifyScreen id fun p hp =>
      { hp with
        size_eq := forall_mem_setProperty (h.bounds_eq _ hw) hp.size_eq
        sourceSize_eq := forall_mem_setProperty (h.bounds_eq _ hw) hp.sourceSize_eq }
  · exact h

lemma WindowsRight.showWindow (h : WindowsRight environ gl eventSource s) (id : ℕ) (w : Window)
    (inactive setVisible : Bool) (focus : FocusCalls) :
    WindowsRight environ gl eventSource (showWindow s id w inactive setVisible focus) := by
  unfold QnxScreenWindows.showWindow
  dsimp only
  split
  · refine (h.setVisible id true).modifyScreen id fun p hp => ?_
    have hshown : SetRight environ gl
        { p with visible := setProperty setVisible true p.visible } := { hp with }
    split
    · exact hshown
    · exact hshown.claimKeyboardFocus focus
  · exact h.setVisible id true

lemma WindowsRight.hideWindow (h : WindowsRight environ gl eventSource s) (id : ℕ) (w : Window)
    (setVisible : Bool) :
    WindowsRight environ gl eventSource (hideWindow s id w setVisible) := by
  unfold QnxScreenWindows.hideWindow
  dsimp only
  split
  · exact (h.setVisible id false).modifyScreen id fun _ hp => { hp with }
  · exact h.setVisible id false

/-- Every call keeps the windows and their surroundings right. -/
lemma WindowsRight.of_step {s' : State} {op : Op} (h : WindowsRight environ gl eventSource s)
    (hs : step environ gl eventSource s op = some s') : WindowsRight environ gl eventSource s' := by
  cases op with
  | create calls =>
    rw [← Option.some.inj hs]
    exact h.create calls
  | delete id destroyWindow =>
    obtain ⟨w, hw, rfl⟩ := Option.map_eq_some_iff.mp hs
    exact h.delete (mem_windows_of_window hw) destroyWindow
  | setBounds id bounds setSize setSourceSize =>
    obtain ⟨w, hw, rfl⟩ := Option.map_eq_some_iff.mp hs
    exact h.setBounds (mem_windows_of_window hw) bounds setSize setSourceSize
  | «show» id inactive setVisible focus =>
    obtain ⟨w, -, rfl⟩ := Option.map_eq_some_iff.mp hs
    exact h.showWindow id w inactive setVisible focus
  | hide id setVisible =>
    obtain ⟨w, -, rfl⟩ := Option.map_eq_some_iff.mp hs
    exact h.hideWindow id w setVisible

lemma windowsRight_of_run {ops : List Op}
    (hrun : runFrom (step environ gl eventSource) start ops = some s) :
    WindowsRight environ gl eventSource s :=
  (Reachable.refl.runFrom hrun).invariant start_windowsRight fun _ _ _ h hs => h.of_step hs

/-- A window that has one finds its Screen window. -/
lemma WindowsRight.exists_screen (h : WindowsRight environ gl eventSource s) {id : ℕ} {w : Window}
    (hw : (id, w) ∈ s.windows) (hshown : w.screenWindow = true) : ∃ p, (id, p) ∈ s.screen := by
  obtain ⟨⟨j, p⟩, hp, rfl⟩ :=
    List.mem_map.mp (h.onScreen_mem (id, w) (List.mem_filter.mpr ⟨hw, hshown⟩))
  exact ⟨p, hp⟩

end

end QnxScreenWindows

end ChromiumQnx
