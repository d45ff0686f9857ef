import ChromiumQnx.Foundation.PressRelease
import ChromiumQnx.Foundation.TransitionSystem
import Mathlib.Logic.Function.Basic

/-!
# Touch events of the Screen event source

`ProcessTouchEvent` first offers each Screen touch event to the touch callback of the toolbar, and
dispatches it to Chromium unless the callback consumes it.  The callback is asked for every event
anew and is not told the touch id.

`TouchRun` runs it over a stream that is well formed per touch id: it remembers for every finger
that is down whether its press was dispatched.  The dispatched events are well formed per touch id,
at all times, exactly when the callback answers the later events of a gesture as it answered the
press.
-/

namespace ChromiumQnx

open PressRelease TransitionSystem

/-! ## One event -/

/-- The Screen event types that reach `ProcessTouchEvent`: `SCREEN_EVENT_MTOUCH_TOUCH`,
`SCREEN_EVENT_MTOUCH_MOVE` and `SCREEN_EVENT_MTOUCH_RELEASE`. -/
inductive MtouchType
  | touch
  | move
  | release
  deriving DecidableEq, Repr

/-- The properties of a Screen touch event that are read. -/
structure ScreenTouch where
  type : MtouchType
  pos : ℤ × ℤ
  touchId : ℤ
  deriving DecidableEq, Repr

/-- `ET_TOUCH_PRESSED`, `ET_TOUCH_MOVED` and `ET_TOUCH_RELEASED`. -/
inductive TouchEventType
  | pressed
  | moved
  | released
  deriving DecidableEq, Repr

/-- A `TouchEvent`, without its time stamp and its constant contact details. -/
structure TouchEvent where
  type : TouchEventType
  location : ℤ × ℤ
  id : ℤ
  deriving DecidableEq, Repr

/-- `QnxScreenTouchCallback`: type and position of an event; true when it is consumed. -/
abbrev QnxScreenTouchCallback := ℤ → ℤ → ℤ → Bool

/-- The type number the callback is given. -/
def MtouchType.cbType : MtouchType → ℤ
  | .touch => 0
  | .move => 1
  | .release => 2

/-- The Chromium type of an event. -/
def MtouchType.eventType : MtouchType → TouchEventType
  | .touch => .pressed
  | .move => .moved
  | .release => .released

/-- Whether the installed callback, if there is one, consumes the event. -/
def touchConsumed (touchCb : Option QnxScreenTouchCallback) (ev : ScreenTouch) : Bool :=
  touchCb.any fun cb => cb ev.type.cbType ev.pos.1 ev.pos.2

/-- `ProcessTouchEvent`: the dispatched event, if there is one. -/
def processTouchEvent (touchCb : Option QnxScreenTouchCallback) (ev : ScreenTouch) :
    Option TouchEvent :=
  if touchConsumed touchCb ev then none
  else some { type := ev.type.eventType, location := ev.pos, id := ev.touchId }

/-- What a touch event does to its finger. -/
def TouchEventType.phase : TouchEventType → Phase
  | .pressed => .press
  | .moved => .hold
  | .released => .release

/-- A touch event as an entry of a log of fingers. -/
def TouchEvent.entry (e : TouchEvent) : ℤ × Phase := (e.id, e.type.phase)

/-! ## Streams of events -/

/-- A Screen event together with the callback installed when it is processed.  The callbacks of two
events may differ, which gives every sequence of answers. -/
structure TouchInput where
  touchCb : Option QnxScreenTouchCallback
  event : ScreenTouch

/-- The callback lets the event pass. -/
def TouchInput.declined (i : TouchInput) : Bool := !touchConsumed i.touchCb i.event

/-- For each touch id nothing while its finger is up, and while it is down whether the callback
declined its press; and all events dispatched so far. -/
structure TouchRun where
  gesture : ℤ → Option Bool
  dispatched : List TouchEvent

namespace TouchRun

/-- Next state: the finger's gesture is set and the dispatched event, if any, is added. -/
def next (s : TouchRun) (i : TouchInput) (gesture : Option Bool) : TouchRun where
  gesture := Function.update s.gesture i.event.touchId gesture
  dispatched := s.dispatched ++ (processTouchEvent i.touchCb i.event).toList

/-- One event.  A finger that is up can only be pressed, one that is down can only move or be
released. -/
def step (s : TouchRun) (i : TouchInput) : Option TouchRun :=
  match i.event.type, s.gesture i.event.touchId with
  | .touch, none => some (s.next i (some i.declined))
  | .move, some declined => some (s.next i (some declined))
  | .release, some _ => some (s.next i none)
  | _, _ => none

/-- No finger is down and nothing was dispatched. -/
def start : TouchRun where
  gesture := fun _ => none
  dispatched := []

/-- The dispatched events as a log of fingers. -/
def log (s : TouchRun) : List (ℤ × Phase) := s.dispatched.map TouchEvent.entry

/-- The dispatched events are well formed per touch id, and no press of a finger that has been
released is left without a release. -/
structure WellFormedPerId (s : TouchRun) : Prop where
  wellFormed : WellFormed s.log
  released : ∀ id, s.gesture id = none → ¬ HeldAfter id s.log

/-- The callback answers as it did at the press of the gesture: it declines a move only if it
declined the press, and a release if and only if it declined the press. -/
def AnswersAsPress (s : TouchRun) (i : TouchInput) : Prop :=
  match i.event.type with
  | .touch => True
  | .move => i.declined = true → s.gesture i.event.touchId = some true
  | .release => i.declined = true ↔ s.gesture i.event.touchId = some true

instance (s : TouchRun) (i : TouchInput) : Decidable (s.AnswersAsPress i) := by
  unfold AnswersAsPress
  cases i.event.type <;> infer_instance

/-- The dispatched events are well formed, and a finger is down in their log exactly when it is
down and its press was declined. -/
structure Inv (s : TouchRun) : Prop where
  wellFormed : WellFormed s.log
  held : ∀ id, HeldAfter id s.log ↔ s.gesture id = some true

lemma start_inv : start.Inv where
  wellFormed := wellFormed_nil
  held id := iff_of_false (not_heldAfter_nil id) (by simp [start])

lemma Inv.wellFormedPerId {s : TouchRun} (hs : s.Inv) : s.WellFormedPerId where
  wellFormed := hs.wellFormed
  released id hid hheld := by
    rw [(hs.held id).mp hheld] at hid
    cases hid

/-- A consumed event leaves the log as it is. -/
lemma log_next_of_not_declined {i : TouchInput} (s : TouchRun) (g : Option Bool)
    (hi : i.declined = false) : (s.next i g).log = s.log := by
  have hconsumed : touchConsumed i.touchCb i.event = true := by simpa [TouchInput.declined] using hi
  simp [log, next, processTouchEvent, hconsumed]

/-- A declined event is added to the log. -/
lemma log_next_of_declined {i : TouchInput} (s : TouchRun) (g : Option Bool)
    (hi : i.declined = true) :
    (s.next i g).log = s.log ++ [(i.event.touchId, i.event.type.eventType.phase)] := by
  have hconsumed : touchConsumed i.touchCb i.event = false := by
    simpa [TouchInput.declined] using hi
  simp [log, next, processTouchEvent, hconsumed, TouchEvent.entry]

/-- What an enabled step is: a press of a finger that is up, or a move or release of one that is
down. -/
lemma step_cases {s s' : TouchRun} {i : TouchInput} (hstep : step s i = some s') :
    (i.event.type = .touch ∧ s.gesture i.event.touchId = none ∧
        s' = s.next i (some i.declined)) ∨
      (i.event.type = .move ∧ ∃ d, s.gesture i.event.touchId = some d ∧
        s' = s.next i (some d)) ∨
      (i.event.type = .release ∧ ∃ d, s.gesture i.event.touchId = some d ∧
        s' = s.next i none) := by
  unfold step at hstep
  split at hstep
  · rename_i htype hgesture
    cases hstep
    exact Or.inl ⟨htype, hgesture, rfl⟩
  · rename_i d htype hgesture
    cases hstep
    exact Or.inr (Or.inl ⟨htype, d, hgesture, rfl⟩)
  · rename_i d htype hgesture
    cases hstep
    exact Or.inr (Or.inr ⟨htype, d, hgesture, rfl⟩)
  · cases hstep

/-- The invariant after one event: the other fingers are untouched, so the event's own finger
decides. -/
lemma Inv.next {s : TouchRun} {i : TouchInput} {g : Option Bool} (hs : s.Inv)
    (hwf : i.declined = true → i.event.type ≠ .touch → s.gesture i.event.touchId = some true)
    (hheld : HeldAfter i.event.touchId (s.next i g).log ↔ g = some true) : (s.next i g).Inv := by
  constructor
  · cases hi : i.declined with
    | false =>
      rw [log_next_of_not_declined s g hi]
      exact hs.wellFormed
    | true =>
      rw [log_next_of_declined s g hi]
      refine wellFormed_concat.mpr ⟨hs.wellFormed, fun hphase => (hs.held _).mpr (hwf hi ?_)⟩
      intro htype
      rw [htype] at hphase
      exact hphase rfl
  · intro id
    by_cases hid : id = i.event.touchId
    · rw [hid]
      exact hheld.trans (by simp [TouchRun.next])
    · have hgesture : (s.next i g).gesture id = s.gesture id := Function.update_of_ne hid _ _
      rw [hgesture]
      refine Iff.trans ?_ (hs.held id)
      cases hi : i.declined with
      | false => rw [log_next_of_not_declined s g hi]
      | true =>
        rw [log_next_of_declined s g hi]
        exact heldAfter_concat_of_ne (Ne.symm hid)

/-- Steps answered as their gesture's press keep the invariant. -/
lemma Inv.step {s s' : TouchRun} {i : TouchInput} (hs : s.Inv) (hi : s.AnswersAsPress i)
    (hstep : TouchRun.step s i = some s') : s'.Inv := by
  unfold AnswersAsPress at hi
  rcases step_cases hstep with ⟨htype, hgesture, rfl⟩ | ⟨htype, d, hgesture, rfl⟩ |
    ⟨htype, d, hgesture, rfl⟩
  · apply hs.next
    · intro _ hne
      exact absurd htype hne
    · have hup : ¬ HeldAfter i.event.touchId s.log := by
        rw [hs.held, hgesture]
        simp
      cases hdecl : i.declined with
      | false =>
        rw [log_next_of_not_declined s _ hdecl]
        exact iff_of_false hup (by simp)
      | true =>
        rw [log_next_of_declined s _ hdecl, htype]
        exact iff_of_true (heldAfter_concat.mpr (Or.inl rfl)) rfl
  · simp only [htype] at hi
    apply hs.next
    · intro hdecl _
      exact hi hdecl
    · rw [← hgesture, ← hs.held]
      cases hdecl : i.declined with
      | false => rw [log_next_of_not_declined s _ hdecl]
      | true =>
        rw [log_next_of_declined s _ hdecl, htype, heldAfter_concat]
        simp [MtouchType.eventType, TouchEventType.phase]
  · simp only [htype] at hi
    apply hs.next
    · intro hdecl _
      exact hi.mp hdecl
    · refine iff_of_false ?_ (by simp)
      cases hdecl : i.declined with
      | false =>
        rw [log_next_of_not_declined s _ hdecl, hs.held, ← hi, hdecl]
        simp
      | true =>
        rw [log_next_of_declined s _ hdecl, htype, heldAfter_concat]
        simp [MtouchType.eventType, TouchEventType.phase]

/-- A step answered differently from its gesture's press leaves the dispatched events malformed. -/
lemma Inv.not_wellFormedPerId {s s' : TouchRun} {i : TouchInput} (hs : s.Inv)
    (hi : ¬ s.AnswersAsPress i) (hstep : TouchRun.step s i = some s') : ¬ s'.WellFormedPerId := by
  unfold AnswersAsPress at hi
  intro hs'
  -- a declined move or release of a finger that is not down in the log
  have hmalformed : ∀ g, i.declined = true → i.event.type ≠ .touch →
      s.gesture i.event.touchId ≠ some true → ¬ WellFormed (s.next i g).log := by
    intro g hdecl htype hgesture hwf
    rw [log_next_of_declined s g hdecl, wellFormed_concat] at hwf
    refine hgesture ((hs.held _).mp (hwf.2 ?_))
    cases htouch : i.event.type with
    | touch => exact absurd htouch htype
    | move => exact Phase.noConfusion
    | release => exact Phase.noConfusion
  rcases step_cases hstep with ⟨htype, hgesture, rfl⟩ | ⟨htype, d, hgesture, rfl⟩ |
    ⟨htype, d, hgesture, rfl⟩
  · simp [htype] at hi
  · simp only [htype, Classical.not_imp] at hi
    exact hmalformed _ hi.1 (by simp [htype]) hi.2 hs'.wellFormed
  · simp only [htype] at hi
    cases hdecl : i.declined with
    | true =>
      rw [hdecl] at hi
      exact hmalformed _ hdecl (by simp [htype]) (by simpa using hi) hs'.wellFormed
    | false =>
      have hpress : s.gesture i.event.touchId = some true := by simpa [hdecl] using hi
      apply hs'.released i.event.touchId (Function.update_self ..)
      rw [log_next_of_not_declined s _ hdecl]
      exact (hs.held _).mpr hpress

/-- From every state of the invariant, the runs that stay well formed are those whose answers follow
the presses. -/
lemma Inv.always_iff {s : TouchRun} (hs : s.Inv) (inputs : List TouchInput) :
    Always TouchRun.step WellFormedPerId s inputs ↔
      StepsMeet TouchRun.step AnswersAsPress s inputs := by
  apply always_iff_stepsMeet (I := Inv) hs
  · intro s hs
    exact hs.wellFormedPerId
  · intro s i s' hs hi hstep
    exact hs.step hi hstep
  · intro s i s' hs hi hstep
    exact hs.not_wellFormedPerId hi hstep

/-- **Exactness of the touch events.**  For every well formed stream of Screen touch events and
every sequence of answers, the dispatched events are well formed per touch id at all times if and
only if the callback declines only moves of gestures whose press it declined, and answers every
release as it answered the press. -/
theorem wellFormedPerId_always_iff (inputs : List TouchInput) :
    Always step WellFormedPerId start inputs ↔ StepsMeet step AnswersAsPress start inputs :=
  start_inv.always_iff inputs

/-- A callback that consumes what happens on the toolbar. -/
def toolbarCb : QnxScreenTouchCallback := fun _ _ y => decide (y < 56)

/-- A finger is pressed on the toolbar and moves down into the page: Chromium is told of a move
without a press. -/
theorem moveOffToolbar_not_wellFormedPerId :
    ¬ Always step WellFormedPerId start
      [⟨some toolbarCb, ⟨.touch, (100, 20), 0⟩⟩, ⟨some toolbarCb, ⟨.move, (100, 80), 0⟩⟩] := by
  rw [start_inv.always_iff]
  decide

end TouchRun

end ChromiumQnx
