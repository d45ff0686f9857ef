import ChromiumQnx.Ui.QnxScreenPolling
import ChromiumQnx.Ui.QnxScreenWindow

/-!
# The users of the windows

The event source offers its events to the windows, and the surface factory and the toolbar find the
windows through the window manager.  The main results follow them, from any reachable state: an
event goes to the oldest visible window only; a widget has a Screen window and a canvas as long as
its window exists; and the toolbar is painted into the oldest window that has a Screen window.

Which buffers a Screen window has is up to the Screen service, as are the answers that
`RepaintToolbar` gets.  Canvas and toolbar are inside the buffers exactly if these are high enough.
-/

namespace ChromiumQnx

namespace QnxScreenWindows

open TransitionSystem
open QnxScreenPolling (RepaintWorld)
open StringSearch (CString)

section

variable {environ : List CString} {gl eventSource : Bool} {s : State}

/-! ## Events -/

/-- `PlatformEventSource`: which of the registered dispatchers are called for an event, in order,
given by what their `CanDispatchEvent` says and whether their `DispatchEvent` stops the
propagation. -/
structure PlatformEventSource (δ : Type*) where
  dispatchEvent : (dispatchers : List δ) → (canDispatchEvent stopsPropagation : δ → Bool) → List δ

/-- What is relied on: the dispatchers that can dispatch the event are called one after the other,
in the order of their registration, up to the first one that stops the propagation. -/
structure PlatformEventSource.CallsInOrder {δ : Type*} (source : PlatformEventSource δ) : Prop where
  isPrefix : ∀ dispatchers can stops,
    source.dispatchEvent dispatchers can stops <+: dispatchers.filter can
  stops_eq : ∀ dispatchers can stops, ∀ d ∈ (source.dispatchEvent dispatchers can stops).dropLast,
    stops d = false
  goesOn : ∀ dispatchers can stops,
    (∀ d ∈ source.dispatchEvent dispatchers can stops, stops d = false) →
      source.dispatchEvent dispatchers can stops = dispatchers.filter can

/-- If all dispatchers stop the propagation, the first one that can dispatch the event is called. -/
lemma PlatformEventSource.CallsInOrder.dispatchEvent_eq {δ : Type*}
    {source : PlatformEventSource δ} (h : source.CallsInOrder) (dispatchers : List δ)
    (can : δ → Bool) :
    source.dispatchEvent dispatchers can (fun _ => true) =
      (dispatchers.filter can).head?.toList := by
  have hstops := h.stops_eq dispatchers can fun _ => true
  have hgoesOn := h.goesOn dispatchers can fun _ => true
  have hprefix := h.isPrefix dispatchers can fun _ => true
  rcases hcalled : source.dispatchEvent dispatchers can (fun _ => true) with _ | ⟨d, rest⟩
  · rw [hcalled] at hgoesOn
    rw [← hgoesOn (List.forall_mem_nil _)]
    rfl
  · rw [hcalled] at hstops hprefix
    rcases rest with _ | ⟨d', rest⟩
    · obtain ⟨t, ht⟩ := hprefix
      rw [← ht]
      rfl
    · exact absurd (hstops d List.mem_cons_self) Bool.noConfusion

/-- The first element of an ascending list is its least. -/
lemma head?_eq_some_iff_isLeast {l : List ℕ} (hsorted : l.Pairwise (· < ·)) {id : ℕ} :
    l.head? = some id ↔ IsLeast {j | j ∈ l} id := by
  rcases l with _ | ⟨j, l⟩
  · exact ⟨nofun, fun h => absurd h.1 List.not_mem_nil⟩
  · obtain ⟨hlt, -⟩ := List.pairwise_cons.mp hsorted
    have hleast : IsLeast {k | k ∈ j :: l} j := by
      refine ⟨List.mem_cons_self, fun k hk => ?_⟩
      rcases List.mem_cons.mp hk with rfl | hk
      · exact le_refl _
      · exact le_of_lt (hlt k hk)
    constructor
    · rintro ⟨⟩
      exact hleast
    · intro h
      exact congrArg some (hleast.unique h)

/-- `CanDispatchEvent`. -/
def State.canDispatchEvent (s : State) (id : ℕ) : Bool := (s.window id).any Window.visible

/-- The windows whose delegates get an event of the event source: `DispatchEvent` of a window hands
the event to its delegate and stops the propagation. -/
def dispatchEvent (source : PlatformEventSource ℕ) (s : State) : List ℕ :=
  source.dispatchEvent s.dispatchers s.canDispatchEvent fun _ => true

/-- The windows that have a Screen window and whose `visible_` is set. -/
def State.visible (s : State) : Set ℕ :=
  {id | ∃ w, s.window id = some w ∧ w.screenWindow = true ∧ w.visible = true}

lemma WindowsRight.onScreen_sorted (h : WindowsRight environ gl eventSource s) :
    (s.onScreen.map Prod.fst).Pairwise (· < ·) :=
  h.ids_sorted.sublist (List.filter_sublist.map _)

lemma WindowsRight.mem_onScreen_iff (h : WindowsRight environ gl eventSource s) {id : ℕ} :
    id ∈ s.onScreen.map Prod.fst ↔ ∃ w, s.window id = some w ∧ w.screenWindow = true := by
  constructor
  · intro hid
    obtain ⟨⟨id, w⟩, he, rfl⟩ := List.mem_map.mp hid
    obtain ⟨hw, hshown⟩ := List.mem_filter.mp he
    exact ⟨w, h.window_eq hw, hshown⟩
  · rintro ⟨w, hw, hshown⟩
    exact List.mem_map.mpr ⟨(id, w), List.mem_filter.mpr ⟨mem_windows_of_window hw, hshown⟩, rfl⟩

/-- The dispatchers that take an event are the visible windows. -/
lemma WindowsRight.mem_filter_dispatchers (h : WindowsRight environ gl eventSource s) {id : ℕ} :
    id ∈ s.dispatchers.filter s.canDispatchEvent ↔ eventSource = true ∧ id ∈ s.visible := by
  rw [List.mem_filter, h.dispatchers_eq]
  rcases eventSource with _ | _
  · exact ⟨fun hid => absurd hid.1 List.not_mem_nil, fun hid => Bool.noConfusion hid.1⟩
  · rw [if_pos rfl, h.mem_onScreen_iff, State.canDispatchEvent]
    constructor
    · rintro ⟨⟨w, hw, hshown⟩, hcan⟩
      rw [hw] at hcan
      exact ⟨rfl, w, hw, hshown, hcan⟩
    · rintro ⟨-, w, hw, hshown, hvisible⟩
      rw [hw]
      exact ⟨⟨w, rfl, hshown⟩, hvisible⟩

/-- The event source hands an event to the oldest visible window. -/
lemma WindowsRight.mem_dispatchEvent {source : PlatformEventSource ℕ}
    (hsource : source.CallsInOrder) (h : WindowsRight environ gl eventSource s) {id : ℕ} :
    id ∈ dispatchEvent source s ↔ eventSource = true ∧ IsLeast s.visible id := by
  have hsorted : s.dispatchers.Pairwise (· < ·) := by
    rw [h.dispatchers_eq]
    split
    · exact h.onScreen_sorted
    · exact List.Pairwise.nil
  have hset : {j | j ∈ s.dispatchers.filter s.canDispatchEvent} =
      {j | eventSource = true ∧ j ∈ s.visible} := Set.ext fun _ => h.mem_filter_dispatchers
  rw [dispatchEvent, hsource.dispatchEvent_eq, Option.mem_toList,
    head?_eq_some_iff_isLeast (hsorted.sublist List.filter_sublist), hset]
  constructor
  · rintro ⟨⟨heventSource, hid⟩, hle⟩
    exact ⟨heventSource, hid, fun j hj => hle ⟨heventSource, hj⟩⟩
  · rintro ⟨heventSource, hid, hle⟩
    exact ⟨⟨heventSource, hid⟩, fun j hj => hle hj.2⟩

lemma length_dispatchEvent_le {source : PlatformEventSource ℕ} (hsource : source.CallsInOrder)
    (s : State) : (dispatchEvent source s).length ≤ 1 := by
  rw [dispatchEvent, hsource.dispatchEvent_eq, Option.length_toList]
  split <;> decide

/-- **Events.**  In every reachable state an event goes to one window at most: to the oldest one
that has a Screen window and whose `visible_` is set, if there is an event source, which calls its
dispatchers in order. -/
theorem event_oldestVisible {source : PlatformEventSource ℕ} (hsource : source.CallsInOrder)
    {ops : List Op} (hrun : runFrom (step environ gl eventSource) start ops = some s) :
    (dispatchEvent source s).length ≤ 1 ∧
      ∀ id, id ∈ dispatchEvent source s ↔ eventSource = true ∧ IsLeast s.visible id :=
  ⟨length_dispatchEvent_le hsource s, fun _ => (windowsRight_of_run hrun).mem_dispatchEvent hsource⟩

/-- A loop over the dispatchers. -/
def dispatchLoop {δ : Type*} (can stops : δ → Bool) : List δ → List δ
  | [] => []
  | d :: rest =>
    if can d then if stops d then [d] else d :: dispatchLoop can stops rest
    else dispatchLoop can stops rest

/-- An event source with that loop. -/
def loopSource (δ : Type*) : PlatformEventSource δ where
  dispatchEvent dispatchers can stops := dispatchLoop can stops dispatchers

lemma loopSource_callsInOrder (δ : Type*) : (loopSource δ).CallsInOrder where
  isPrefix dispatchers can stops := by
    change dispatchLoop can stops dispatchers <+: _
    induction dispatchers with
    | nil => exact List.prefix_rfl
    | cons d rest ih =>
      unfold dispatchLoop
      split
      · rename_i hcan
        rw [List.filter_cons_of_pos hcan]
        split
        · exact ⟨rest.filter can, rfl⟩
        · exact List.cons_prefix_cons.mpr ⟨rfl, ih⟩
      · rename_i hcan
        rwa [List.filter_cons_of_neg hcan]
  stops_eq dispatchers can stops := by
    change ∀ d ∈ (dispatchLoop can stops dispatchers).dropLast, stops d = false
    induction dispatchers with
    | nil => exact List.forall_mem_nil _
    | cons d rest ih =>
      unfold dispatchLoop
      split
      · split
        · exact List.forall_mem_nil _
        · rename_i hstops
          rcases hrest : dispatchLoop can stops rest with _ | ⟨d', called⟩
          · exact List.forall_mem_nil _
          · rw [hrest] at ih
            exact List.forall_mem_cons.mpr ⟨Bool.eq_false_of_not_eq_true hstops, ih⟩
      · exact ih
  goesOn dispatchers can stops := by
    change (∀ d ∈ dispatchLoop can stops dispatchers, stops d = false) →
      dispatchLoop can stops dispatchers = _
    induction dispatchers with
    | nil => exact fun _ => rfl
    | cons d rest ih =>
      unfold dispatchLoop
      split
      · rename_i hcan
        rw [List.filter_cons_of_pos hcan]
        split
        · rename_i hstops
          exact fun h => absurd (h d List.mem_cons_self) (by rw [hstops]; exact Bool.noConfusion)
        · exact fun h => congrArg (d :: ·) (ih fun e he => h e (List.mem_cons_of_mem d he))
      · rename_i hcan
        rwa [List.filter_cons_of_neg hcan]

/-- Two windows are created, and the first one is hidden, although its Screen window stays as it
was. -/
def sampleHidden : List Op := [.create sampleCalls, .create sampleCalls, .hide 0 false]

/-- The state with the first window hidden. -/
def sampleHiddenState : State :=
  (runFrom (step [] false true) start sampleHidden).getD start

/-- With the first window hidden, the second one gets the events. -/
theorem event_oldestVisible_hidden :
    dispatchEvent (loopSource ℕ) sampleHiddenState = [1] ∧ IsLeast sampleHiddenState.visible 1 := by
  have hrun : runFrom (step [] false true) start sampleHidden = some sampleHiddenState := rfl
  have hevent : dispatchEvent (loopSource ℕ) sampleHiddenState = [1] := rfl
  have hmem : 1 ∈ dispatchEvent (loopSource ℕ) sampleHiddenState :=
    hevent ▸ List.mem_singleton.mpr rfl
  exact ⟨hevent,
    (((event_oldestVisible (loopSource_callsInOrder ℕ) hrun).2 1).mp hmem).2⟩

/-! ## Canvases -/

/-- `GetWindow`. -/
def getWindow (s : State) (widget : ℕ) : Option ℕ := s.manager.find widget

/-- `GetFirstWindow`. -/
def getFirstWindow (s : State) : Option ℕ := s.manager.entries.head?.map Prod.snd

/-- `screen_window()` of a window, if it is not null. -/
def State.screenWindow (s : State) (id : ℕ) : Option ℕ :=
  (s.window id).bind fun window => if window.screenWindow then some id else none

/-- `CreateCanvasForWidget`. -/
def createCanvasForWidget (skia : SkSurfaces) (s : State) (widget : ℕ) : Option QnxScreenCanvas :=
  ((getWindow s widget).bind s.window).map fun window => resizeCanvas skia window.bounds

/-- `CreateViewGLSurface`, up to the call of `InitializeGLSurface`: the Screen window it is for. -/
def createViewGLSurface (s : State) (widget : ℕ) : Option ℕ :=
  (getWindow s widget).bind s.screenWindow

/-- An entry of the manager is a window with a Screen window. -/
lemma WindowsRight.of_mem_manager (h : WindowsRight environ gl eventSource s) {widget id : ℕ}
    (hmem : (widget, id) ∈ s.manager.entries) :
    ∃ w p, s.window id = some w ∧ s.screenWindow id = some id ∧ w.bounds = displaySize environ ∧
      (id, p) ∈ s.screen ∧ SetRight environ gl p := by
  rw [h.manager_eq] at hmem
  obtain ⟨⟨id', w⟩, he, heq⟩ := List.mem_map.mp hmem
  obtain ⟨-, rfl⟩ := Prod.mk.inj heq
  obtain ⟨hw, hshown⟩ := List.mem_filter.mp he
  obtain ⟨p, hp⟩ := h.exists_screen hw hshown
  refine ⟨w, p, h.window_eq hw, ?_, h.bounds_eq _ hw, hp, h.setRight _ hp⟩
  rw [State.screenWindow, h.window_eq hw, Option.bind_some, if_pos hshown]

/-- **Canvases.**  In every reachable state, a widget that the window manager knows has a Screen
window, which `CreateViewGLSurface` gets, and a canvas of the size of the display.  In whatever size
the buffers of the Screen window were made, the canvas is presented inside them exactly if they are
as high as the display whenever there is something to copy, and so it is if they have the size that
was set.  For other widgets there is neither. -/
theorem buffers_right {ops : List Op}
    (hrun : runFrom (step environ gl eventSource) start ops = some s) (skia : SkSurfaces)
    (widget : ℕ) :
    (getWindow s widget = none ∧ createViewGLSurface s widget = none ∧
        createCanvasForWidget skia s widget = none) ∨
      ∃ id p canvas, (id, p) ∈ s.screen ∧ getWindow s widget = some id ∧
        createViewGLSurface s widget = some id ∧
        createCanvasForWidget skia s widget = some canvas ∧
        canvas = resizeCanvas skia (displaySize environ) ∧
        ∀ buffers ∈ p.buffers, ∀ w memory,
          (PresentsInside w buffers.height.toNat (presentCanvas w canvas memory) ↔
            (w.Copies → ∀ surface ∈ canvas.surface,
              (displaySize environ).height ≤ buffers.height ∨ surface.rowBytes = 0 ∨
                w.stride = 0)) ∧
          (p.bufferSize = some buffers →
            PresentsInside w buffers.height.toNat (presentCanvas w canvas memory)) := by
  have h : WindowsRight environ gl eventSource s := windowsRight_of_run hrun
  unfold createViewGLSurface createCanvasForWidget
  rcases hget : getWindow s widget with _ | id
  · exact Or.inl ⟨rfl, rfl, rfl⟩
  · obtain ⟨w, p, hw, hscreen, hbounds, hp, hset⟩ :=
      h.of_mem_manager (OrderedMap.find_eq_some_iff.mp hget)
    refine Or.inr ⟨id, p, resizeCanvas skia (displaySize environ), hp, rfl, hscreen, ?_, rfl, ?_⟩
    · rw [Option.bind_some, hw, Option.map_some, hbounds]
    · intro buffers _ world memory
      have hpos : 0 < (displaySize environ).height := displayDimension_pos environ keyScreenHeight
      have hheight : (displaySize environ).height ≤ buffers.height.toNat ↔
          (displaySize environ).height ≤ buffers.height := by omega
      have hinside := presentsInside_resizeCanvas_iff skia (displaySize environ) world
        buffers.height.toNat memory
      unfold SurfaceFits at hinside
      rw [hheight] at hinside
      refine ⟨hinside, fun hasked => hinside.mpr fun _ _ _ => Or.inl ?_⟩
      rw [hset.bufferSize_eq buffers hasked]

/-- The second window of the sample. -/
theorem buffers_right_second :
    createCanvasForWidget sampleSkia sampleHiddenState 2 =
      some (resizeCanvas sampleSkia ⟨1440, 1440⟩) := by
  have hrun : runFrom (step [] false true) start sampleHidden = some sampleHiddenState := rfl
  rcases buffers_right hrun sampleSkia 2 with ⟨hnone, -⟩ | ⟨id, p, canvas, -, -, -, hcanvas, rfl, -⟩
  · exact absurd hnone (Option.some_ne_none 1)
  · exact hcanvas

/-! ## The toolbar -/

/-- `kToolbarHeight`. -/
def kToolbarHeight : ℤ := 56

/-- The surface that `RepaintToolbar` hands to the callback: the window whose buffer it wraps, its
width, and the distance of its rows. -/
structure ToolbarSurface where
  window : ℕ
  width : ℤ
  rowBytes : ℤ

/-- `RepaintToolbar`, up to the call of the callback.  It asks Screen for the size of the buffer,
and wraps the first rows of it. -/
def repaintToolbar (s : State) (w : RepaintWorld) : Option ToolbarSurface :=
  if !w.overlayCb then none else
  ((getFirstWindow s).bind s.screenWindow).bind fun id =>
    if w.renderBuffersRc ≠ 0 then none else
    if !w.pointer then none else
    if w.bufSize.1 ≤ 0 ∨ w.bufSize.2 ≤ 0 then none else
    if !w.wraps then none else some ⟨id, w.bufSize.1, w.stride⟩

/-- What is relied on: `WrapPixels` wraps no rows that are shorter than their pixels, of four bytes
each. -/
def WrapsWholeRows (w : RepaintWorld) : Prop := w.wraps = true → 4 * w.bufSize.1 ≤ w.stride

/-- The bytes of the rows lie inside a buffer whose rows have the same distance. -/
def ToolbarSurface.Inside (t : ToolbarSurface) (buffer : Size) : Prop :=
  ∀ y, 0 ≤ y → y < kToolbarHeight → ∀ x, 0 ≤ x → x < 4 * t.width →
    0 ≤ y * t.rowBytes + x ∧ y * t.rowBytes + x < buffer.height * t.rowBytes

/-- Whole rows lie inside a buffer exactly if it has as many. -/
lemma ToolbarSurface.inside_iff {t : ToolbarSurface} (hwidth : 0 < t.width)
    (hrow : 4 * t.width ≤ t.rowBytes) (buffer : Size) :
    t.Inside buffer ↔ kToolbarHeight ≤ buffer.height := by
  have hpos : 0 < t.rowBytes := by omega
  constructor
  · intro hinside
    -- the first byte of the last row
    have hlast := (hinside 55 (by decide) (by decide) 0 le_rfl (by omega)).2
    rw [add_zero] at hlast
    have hrows : 55 < buffer.height := lt_of_mul_lt_mul_right hlast hpos.le
    unfold kToolbarHeight
    omega
  · intro hheight y hy hlt x hx hxlt
    have hrows : (y + 1) * t.rowBytes ≤ buffer.height * t.rowBytes :=
      mul_le_mul_of_nonneg_right (by omega) hpos.le
    rw [add_mul, one_mul] at hrows
    have hstart : 0 ≤ y * t.rowBytes := mul_nonneg hy hpos.le
    constructor <;> omega

/-- The manager's first window is the oldest one with a Screen window. -/
lemma WindowsRight.getFirstWindow_eq (h : WindowsRight environ gl eventSource s) :
    getFirstWindow s = (s.onScreen.map Prod.fst).head? := by
  rw [getFirstWindow, h.manager_eq]
  rcases s.onScreen with _ | ⟨e, rest⟩ <;> rfl

lemma WindowsRight.firstScreenWindow_eq (h : WindowsRight environ gl eventSource s) :
    (getFirstWindow s).bind s.screenWindow = getFirstWindow s := by
  rcases hfirst : getFirstWindow s with _ | id
  · rfl
  · obtain ⟨⟨widget, id'⟩, he, rfl⟩ := Option.map_eq_some_iff.mp hfirst
    obtain ⟨-, -, -, hscreen, -⟩ := h.of_mem_manager (List.mem_of_mem_head? he)
    exact hscreen

/-- The windows that have a Screen window. -/
def State.withScreenWindow (s : State) : Set ℕ :=
  {id | ∃ w, s.window id = some w ∧ w.screenWindow = true}

lemma WindowsRight.getFirstWindow_eq_some_iff (h : WindowsRight environ gl eventSource s)
    {id : ℕ} : getFirstWindow s = some id ↔ IsLeast s.withScreenWindow id := by
  rw [h.getFirstWindow_eq, head?_eq_some_iff_isLeast h.onScreen_sorted]
  have hset : {j | j ∈ s.onScreen.map Prod.fst} = s.withScreenWindow :=
    Set.ext fun _ => h.mem_onScreen_iff
  rw [hset]

/-- `RepaintToolbar` reaches the callback if all that it finds lets it paint, and some window has a
Screen window. -/
lemma WindowsRight.repaintToolbar_eq_some_iff (h : WindowsRight environ gl eventSource s)
    {w : RepaintWorld} {t : ToolbarSurface} :
    repaintToolbar s w = some t ↔
      ({ w with screenWindow := true } : RepaintWorld).paints = true ∧
        IsLeast s.withScreenWindow t.window ∧ t.width = w.bufSize.1 ∧ t.rowBytes = w.stride := by
  have hpaints : ({ w with screenWindow := true } : RepaintWorld).paints = true ↔
      w.overlayCb = true ∧ w.renderBuffersRc = 0 ∧ w.pointer = true ∧
        ¬ (w.bufSize.1 ≤ 0 ∨ w.bufSize.2 ≤ 0) ∧ w.wraps = true := by
    simp [RepaintWorld.paints, and_assoc]
  rw [hpaints, repaintToolbar, h.firstScreenWindow_eq]
  constructor
  · intro hpaint
    obtain ⟨hcb, hpaint⟩ := Option.ite_none_left_eq_some.mp hpaint
    obtain ⟨id, hfirst, hpaint⟩ := Option.bind_eq_some_iff.mp hpaint
    obtain ⟨hrc, hpaint⟩ := Option.ite_none_left_eq_some.mp hpaint
    obtain ⟨hpointer, hpaint⟩ := Option.ite_none_left_eq_some.mp hpaint
    obtain ⟨hsize, hpaint⟩ := Option.ite_none_left_eq_some.mp hpaint
    obtain ⟨hwraps, hpaint⟩ := Option.ite_none_left_eq_some.mp hpaint
    obtain rfl := Option.some.inj hpaint
    rw [Bool.not_eq_true', Bool.not_eq_false] at hcb hpointer hwraps
    exact ⟨⟨hcb, not_not.mp hrc, hpointer, hsize, hwraps⟩,
      h.getFirstWindow_eq_some_iff.mp hfirst, rfl, rfl⟩
  · rintro ⟨⟨hcb, hrc, hpointer, hsize, hwraps⟩, hleast, hwidth, hrowBytes⟩
    rw [h.getFirstWindow_eq_some_iff.mpr hleast, Option.bind_some, hcb, hrc, hpointer, hwraps,
      if_neg hsize, ← hwidth, ← hrowBytes]
    rfl

/-- **The toolbar.**  In every reachable state and for all that `RepaintToolbar` finds, it paints
the oldest window that has a Screen window, if there is one and all it finds lets it paint, in the
width it was told; and the rows that it wraps lie inside the buffers of the window, in whatever size
these were made, exactly if they are at least as high as the toolbar.  If they have the size that
was set, this is the display's height. -/
theorem toolbar_inside_iff {ops : List Op}
    (hrun : runFrom (step environ gl eventSource) start ops = some s) {w : RepaintWorld}
    (hwraps : WrapsWholeRows w) :
    (∀ t, repaintToolbar s w = some t ↔
        ({ w with screenWindow := true } : RepaintWorld).paints = true ∧
          IsLeast s.withScreenWindow t.window ∧ t.width = w.bufSize.1 ∧ t.rowBytes = w.stride) ∧
      ∀ t, repaintToolbar s w = some t → ∃ p, (t.window, p) ∈ s.screen ∧
        ∀ buffers ∈ p.buffers, (t.Inside buffers ↔ kToolbarHeight ≤ buffers.height) ∧
          (p.bufferSize = some buffers →
            (t.Inside buffers ↔ kToolbarHeight ≤ displayDimension environ keyScreenHeight)) := by
  have h : WindowsRight environ gl eventSource s := windowsRight_of_run hrun
  refine ⟨fun _ => h.repaintToolbar_eq_some_iff, fun t ht => ?_⟩
  obtain ⟨hpaints, hleast, hwidth, hrowBytes⟩ := h.repaintToolbar_eq_some_iff.mp ht
  obtain ⟨v, hv, hshown⟩ := hleast.1
  obtain ⟨p, hp⟩ := h.exists_screen (mem_windows_of_window hv) hshown
  have hinside : ∀ buffers, t.Inside buffers ↔ kToolbarHeight ≤ buffers.height := by
    simp only [RepaintWorld.paints, Bool.and_eq_true, Bool.not_eq_true', Bool.or_eq_false_iff,
      decide_eq_false_iff_not, not_le] at hpaints
    obtain ⟨⟨-, hpos, -⟩, hwrapped⟩ := hpaints
    refine ToolbarSurface.inside_iff (hwidth ▸ hpos) ?_
    rw [hwidth, hrowBytes]
    exact hwraps hwrapped
  refine ⟨p, hp, fun buffers _ => ⟨hinside buffers, fun hasked => ?_⟩⟩
  rw [hinside, (h.setRight _ hp).bufferSize_eq buffers hasked]
  rfl

/-- What `RepaintToolbar` finds when all goes well. -/
def sampleRepaint : RepaintWorld where
  overlayCb := true
  screenWindow := true
  renderBuffersRc := 0
  pointer := true
  stride := 5760
  bufSize := (1440, 1440)
  wraps := true

/-- It paints the first window of the sample, inside the buffers. -/
theorem toolbar_inside_iff_sample :
    repaintToolbar sampleHiddenState sampleRepaint = some ⟨0, 1440, 5760⟩ ∧
      ToolbarSurface.Inside ⟨0, 1440, 5760⟩ ⟨1440, 1440⟩ := by
  have hrun : runFrom (step [] false true) start sampleHidden = some sampleHiddenState := rfl
  have hpaint : repaintToolbar sampleHiddenState sampleRepaint = some ⟨0, 1440, 5760⟩ := rfl
  have hwraps : WrapsWholeRows sampleRepaint := fun _ => by decide
  refine ⟨hpaint, ?_⟩
  obtain ⟨p, hp, hinside⟩ := (toolbar_inside_iff hrun hwraps).2 _ hpaint
  have hbuffers : ∀ e ∈ sampleHiddenState.screen, e.2.buffers = some ⟨1440, 1440⟩ := by decide
  exact (hinside _ (hbuffers _ hp)).1.mpr (by decide)

end

end QnxScreenWindows

end ChromiumQnx
