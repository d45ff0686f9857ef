import ChromiumQnx.Foundation.Watermarks
import ChromiumQnx.Ui.QnxScreenKeyboard
import ChromiumQnx.Ui.QnxScreenTouch

/-!
# Polling the event channel

A timer calls `PollEvents`.  It takes all events out of the channel of the BlackBerry platform
services: input is offered to the callbacks of the toolbar and dispatched, and the Navigator, which
keeps the window blocked until it has an answer, is answered at once.  In the end it looks at the
request flag of `qnx_screen_repaint`, which any thread may raise at any time, and repaints the
toolbar.

The steps of the poll are interleaved here with the posting of events and with requests.  The main
results say that every question of the Navigator is answered once, in order and no later than by the
end of the next complete poll, that requests are collapsed but none made before a poll is missed by
it, and when a request is lost.
-/

namespace ChromiumQnx

namespace QnxScreenPolling

open TransitionSystem

/-! ## Events -/

/-- A Screen event, by its type. -/
inductive ScreenEvent
  | touch (ev : ScreenTouch)
  | keyboard (ev : ScreenKey)
  | other

/-- An event of the channel, by its domain and, for the Navigator, its code.  The questions of the
Navigator are numbered. -/
inductive BpsEvent
  | screen (ev : ScreenEvent)
  | orientationCheck (id : ℕ)
  | orientation (id : ℕ)
  | navigatorOther
  | otherDomain

/-- What is done about an event. -/
inductive Outcome
  | touch (e : TouchEvent)
  | key (e : KeyEvent)
  | checkResponse (id : ℕ) (willRotate : Bool)
  | doneOrientation (id : ℕ)

/-- The callbacks that are installed. -/
structure Callbacks where
  touchCb : Option QnxScreenTouchCallback
  keyCb : Option QnxScreenKeyCallback

variable (keycode : SpecialKey → ℤ)

/-- `ProcessEvent`. -/
def processEvent (cbs : Callbacks) : ScreenEvent → List Outcome
  | .touch ev => ((processTouchEvent cbs.touchCb ev).map Outcome.touch).toList
  | .keyboard ev => ((processKeyboardEvent keycode cbs.keyCb ev).map Outcome.key).toList
  | .other => []

/-- The body of the loop of `PollEvents`, for an event that was got. -/
def handleEvent (cbs : Callbacks) : BpsEvent → List Outcome
  | .screen ev => processEvent keycode cbs ev
  | .orientationCheck id => [.checkResponse id false]
  | .orientation id => [.doneOrientation id]
  | .navigatorOther => []
  | .otherDomain => []

/-- What `RepaintToolbar` finds: whether a callback is installed, whether the first window has a
Screen window, the result of asking for the render buffers, the pointer, stride and size of the
first one, and whether Skia wraps its pixels. -/
structure RepaintWorld where
  overlayCb : Bool
  screenWindow : Bool
  renderBuffersRc : ℤ
  pointer : Bool
  stride : ℤ
  bufSize : ℤ × ℤ
  wraps : Bool

/-- `RepaintToolbar` calls the callback and posts the window. -/
def RepaintWorld.paints (w : RepaintWorld) : Bool :=
  w.overlayCb && w.screenWindow && w.renderBuffersRc == 0 && w.pointer &&
    !(w.bufSize.1 ≤ 0 || w.bufSize.2 ≤ 0) && w.wraps

/-! ## The steps -/

/-- Where `PollEvents` stands: it is not running, it is in its loop, it is about to look at the
request flag, or it is about to repaint the toolbar. -/
inductive Phase
  | idle
  | draining
  | checking
  | repainting
  deriving DecidableEq, Repr

/-- The callbacks, `g_repaint_requested`, the channel, and the phase of the poll; what was done, and
for bookkeeping the events that were posted and handled, the numbers of requests, of calls of
`RepaintToolbar`, of complete polls and of loops that ended on an empty channel, and the number of
requests that had been made when the toolbar was last painted. -/
structure State where
  cbs : Callbacks
  requested : Bool
  channel : List BpsEvent
  phase : Phase
  outcomes : List Outcome
  posted : List BpsEvent
  handled : List BpsEvent
  requests : ℕ
  repaints : ℕ
  polls : ℕ
  drains : ℕ
  painted : ℕ

/-- A step of the poll or of its surroundings. -/
inductive Op
  | setCallbacks (cbs : Callbacks)
  | post (ev : BpsEvent)
  | requestRepaint
  | timer
  | getEvent (fails : Bool)
  | consumeRepaint
  | repaintToolbar (w : RepaintWorld)

/-- The round of the loop that gets no event leaves it. -/
def getEvent (s : State) (fails : Bool) : State :=
  if fails then { s with phase := .checking } else
  match s.channel with
  | [] => { s with phase := .checking, drains := s.drains + 1 }
  | ev :: channel =>
    { s with
      channel := channel
      outcomes := s.outcomes ++ handleEvent keycode s.cbs ev
      handled := s.handled ++ [ev] }

/-- `ConsumeQnxScreenRepaintRequest`. -/
def consumeRepaint (s : State) : State :=
  if s.requested then { s with requested := false, phase := .repainting }
  else { s with phase := .idle, polls := s.polls + 1 }

/-- `RepaintToolbar`, after which the poll is over. -/
def repaintToolbar (s : State) (w : RepaintWorld) : State :=
  { s with
    phase := .idle
    polls := s.polls + 1
    repaints := s.repaints + 1
    painted := if w.paints then s.requests else s.painted }

/-- One step. -/
def step (s : State) : Op → Option State
  | .setCallbacks cbs => some { s with cbs := cbs }
  | .post ev => some { s with channel := s.channel ++ [ev], posted := s.posted ++ [ev] }
  | .requestRepaint => some { s with requested := true, requests := s.requests + 1 }
  | .timer => if s.phase = .idle then some { s with phase := .draining } else none
  | .getEvent fails => if s.phase = .draining then some (getEvent keycode s fails) else none
  | .consumeRepaint => if s.phase = .checking then some (consumeRepaint s) else none
  | .repaintToolbar w => if s.phase = .repainting then some (repaintToolbar s w) else none

/-- Nothing was posted or requested. -/
def start : State where
  cbs := ⟨none, none⟩
  requested := false
  channel := []
  phase := .idle
  outcomes := []
  posted := []
  handled := []
  requests := 0
  repaints := 0
  polls := 0
  drains := 0
  painted := 0

/-! ## What was handled -/

/-- An answer to the Navigator, with its number. -/
def Outcome.reply : Outcome → Option Outcome
  | .checkResponse id willRotate => some (.checkResponse id willRotate)
  | .doneOrientation id => some (.doneOrientation id)
  | .touch _ => none
  | .key _ => none

/-- The answer the Navigator waits for: no rotation. -/
def BpsEvent.answer : BpsEvent → Option Outcome
  | .orientationCheck id => some (.checkResponse id false)
  | .orientation id => some (.doneOrientation id)
  | _ => none

/-- The answers so far. -/
def State.replies (s : State) : List Outcome := s.outcomes.filterMap Outcome.reply

/-- The answers the Navigator waits for so far. -/
def State.awaited (s : State) : List Outcome := s.posted.filterMap BpsEvent.answer

/-- An event gives the answer that it asks for. -/
lemma filterMap_reply_handleEvent (cbs : Callbacks) (ev : BpsEvent) :
    (handleEvent keycode cbs ev).filterMap Outcome.reply = ev.answer.toList := by
  rcases ev with (ev | ev | _) | id | id | _ | _
  · change ((processTouchEvent cbs.touchCb ev).map Outcome.touch).toList.filterMap _ = []
    rcases processTouchEvent cbs.touchCb ev with _ | e <;> rfl
  · change ((processKeyboardEvent keycode cbs.keyCb ev).map Outcome.key).toList.filterMap _ = []
    rcases processKeyboardEvent keycode cbs.keyCb ev with _ | e <;> rfl
  · rfl
  · rfl
  · rfl
  · rfl
  · rfl

/-- What every run keeps: the events that were posted are the handled ones and those in the channel,
the answers are those the handled events ask for, and every call of `RepaintToolbar`, past or about
to come, and the raised flag have a request of their own. -/
structure Inv (s : State) : Prop where
  posted_eq : s.posted = s.handled ++ s.channel
  replies_eq : s.replies = s.handled.filterMap BpsEvent.answer
  count : s.repaints + (if s.phase = .repainting then 1 else 0) + (if s.requested then 1 else 0) ≤
    s.requests
  painted_le : s.painted ≤ s.requests

lemma start_inv : Inv start where
  posted_eq := rfl
  replies_eq := rfl
  count := Nat.le_refl 0
  painted_le := Nat.le_refl 0

/-- A round of the loop. -/
lemma Inv.getEvent {s : State} (hs : Inv s) (hphase : s.phase = .draining) (fails : Bool) :
    Inv (getEvent keycode s fails) := by
  obtain ⟨hposted, hreplies, hcount, hpainted⟩ := hs
  rw [hphase, if_neg (by decide)] at hcount
  unfold QnxScreenPolling.getEvent
  rcases fails with _ | _
  · rw [if_neg Bool.false_ne_true]
    rcases hchannel : s.channel with _ | ⟨ev, channel⟩
    · exact ⟨by rw [hposted, hchannel], hreplies, hcount, hpainted⟩
    · refine ⟨?_, ?_, ?_, hpainted⟩
      · change s.posted = s.handled ++ [ev] ++ channel
        rw [hposted, hchannel, List.append_assoc, List.singleton_append]
      · change (s.outcomes ++ handleEvent keycode s.cbs ev).filterMap Outcome.reply =
          (s.handled ++ [ev]).filterMap BpsEvent.answer
        rw [List.filterMap_append, List.filterMap_append, filterMap_reply_handleEvent]
        change s.replies ++ _ = _
        rw [hreplies, List.filterMap_cons]
        rcases ev.answer with _ | a <;> rfl
      · change _ + (if s.phase = .repainting then 1 else 0) + _ ≤ _
        rw [hphase, if_neg (by decide)]
        exact hcount
  · rw [if_pos rfl]
    exact ⟨hposted, hreplies, hcount, hpainted⟩

/-- The request flag is looked at. -/
lemma Inv.consumeRepaint {s : State} (hs : Inv s) (hphase : s.phase = .checking) :
    Inv (consumeRepaint s) := by
  obtain ⟨hposted, hreplies, hcount, hpainted⟩ := hs
  rw [hphase, if_neg (by decide)] at hcount
  unfold QnxScreenPolling.consumeRepaint
  rcases hreq : s.requested with _ | _
  · rw [hreq] at hcount
    rw [if_neg Bool.false_ne_true]
    exact ⟨hposted, hreplies, hcount, hpainted⟩
  · rw [hreq] at hcount
    rw [if_pos rfl]
    exact ⟨hposted, hreplies, hcount, hpainted⟩

/-- The toolbar is repainted. -/
lemma Inv.repaintToolbar {s : State} (hs : Inv s) (hphase : s.phase = .repainting)
    (w : RepaintWorld) : Inv (repaintToolbar s w) := by
  obtain ⟨hposted, hreplies, hcount, hpainted⟩ := hs
  rw [hphase, if_pos rfl] at hcount
  refine ⟨hposted, hreplies, hcount, ?_⟩
  change (if w.paints then s.requests else s.painted) ≤ s.requests
  split
  · exact Nat.le_refl _
  · exact hpainted

lemma Inv.of_step {s s' : State} {op : Op} (hs : Inv s) (h : step keycode s op = some s') :
    Inv s' := by
  rcases op with cbs | ev | _ | _ | fails | _ | w
  · obtain rfl := Option.some.inj h
    exact ⟨hs.posted_eq, hs.replies_eq, hs.count, hs.painted_le⟩
  · obtain rfl := Option.some.inj h
    refine ⟨?_, hs.replies_eq, hs.count, hs.painted_le⟩
    change s.posted ++ [ev] = s.handled ++ (s.channel ++ [ev])
    rw [hs.posted_eq, List.append_assoc]
  · obtain rfl := Option.some.inj h
    refine ⟨hs.posted_eq, hs.replies_eq, ?_, Nat.le_succ_of_le hs.painted_le⟩
    have hcount := hs.count
    change s.repaints + (if s.phase = .repainting then 1 else 0) + 1 ≤ s.requests + 1
    omega
  · obtain ⟨hphase, h⟩ := Option.ite_none_right_eq_some.mp h
    obtain rfl := Option.some.inj h
    have hcount := hs.count
    rw [hphase] at hcount
    exact ⟨hs.posted_eq, hs.replies_eq, hcount, hs.painted_le⟩
  · obtain ⟨hphase, h⟩ := Option.ite_none_right_eq_some.mp h
    exact Option.some.inj h ▸ hs.getEvent keycode hphase fails
  · obtain ⟨hphase, h⟩ := Option.ite_none_right_eq_some.mp h
    exact Option.some.inj h ▸ hs.consumeRepaint hphase
  · obtain ⟨hphase, h⟩ := Option.ite_none_right_eq_some.mp h
    exact Option.some.inj h ▸ hs.repaintToolbar hphase w

lemma Inv.of_reachable {s : State} (h : Reachable (step keycode) start s) : Inv s :=
  h.invariant start_inv fun _ _ _ hs hstep => hs.of_step keycode hstep

/-! ## The answers to the Navigator -/

/-- What is posted stays posted. -/
lemma posted_isPrefix_of_step {s s' : State} {op : Op} (h : step keycode s op = some s') :
    s.posted <+: s'.posted := by
  rcases op with cbs | ev | _ | _ | fails | _ | w
  · exact Option.some.inj h ▸ List.prefix_rfl
  · exact Option.some.inj h ▸ List.prefix_append _ _
  · exact Option.some.inj h ▸ List.prefix_rfl
  · exact Option.some.inj (Option.ite_none_right_eq_some.mp h).2 ▸ List.prefix_rfl
  · rw [← Option.some.inj (Option.ite_none_right_eq_some.mp h).2, getEvent]
    split
    · exact List.prefix_rfl
    · split <;> exact List.prefix_rfl
  · rw [← Option.some.inj (Option.ite_none_right_eq_some.mp h).2, consumeRepaint]
    split <;> exact List.prefix_rfl
  · exact Option.some.inj (Option.ite_none_right_eq_some.mp h).2 ▸ List.prefix_rfl

/-- A step handles nothing, or one more event, or it finds the channel empty and ends the loop. -/
lemma handled_cases {s s' : State} {op : Op} (h : step keycode s op = some s') :
    (s'.handled = s.handled ∧ s'.drains = s.drains) ∨
      (∃ ev, s'.handled = s.handled ++ [ev] ∧ s'.drains = s.drains) ∨
      (s.channel = [] ∧ s'.handled = s.handled) := by
  rcases op with cbs | ev | _ | _ | fails | _ | w
  · exact Option.some.inj h ▸ Or.inl ⟨rfl, rfl⟩
  · exact Option.some.inj h ▸ Or.inl ⟨rfl, rfl⟩
  · exact Option.some.inj h ▸ Or.inl ⟨rfl, rfl⟩
  · exact Option.some.inj (Option.ite_none_right_eq_some.mp h).2 ▸ Or.inl ⟨rfl, rfl⟩
  · rw [← Option.some.inj (Option.ite_none_right_eq_some.mp h).2, getEvent]
    split
    · exact Or.inl ⟨rfl, rfl⟩
    · split
      · exact Or.inr (Or.inr ⟨‹_›, rfl⟩)
      · exact Or.inr (Or.inl ⟨_, rfl, rfl⟩)
  · rw [← Option.some.inj (Option.ite_none_right_eq_some.mp h).2, consumeRepaint]
    split <;> exact Or.inl ⟨rfl, rfl⟩
  · exact Option.some.inj (Option.ite_none_right_eq_some.mp h).2 ▸ Or.inl ⟨rfl, rfl⟩

/-- The handled events keep up with the posted ones. -/
lemma channel_watermark :
    Watermark (step keycode) Inv (fun _ _ => True) (fun s => s.posted.length)
      (fun s => s.handled.length) State.drains where
  inv := fun _ _ _ hs _ h => hs.of_step keycode h
  produced_le := fun _ _ _ _ _ h => (posted_isPrefix_of_step keycode h).length_le
  mark_le := fun _ _ _ _ _ h => by
    rcases handled_cases keycode h with ⟨hsame, -⟩ | ⟨ev, hmore, -⟩ | ⟨-, hsame⟩
    · exact (congrArg List.length hsame).ge
    · rw [hmore, List.length_append]
      exact Nat.le_add_right _ _
    · exact (congrArg List.length hsame).ge
  sync := fun _ _ _ hs _ h => by
    rcases handled_cases keycode h with ⟨-, hdrains⟩ | ⟨_, -, hdrains⟩ | ⟨hempty, hsame⟩
    · exact Or.inl hdrains
    · exact Or.inl hdrains
    · -- with an empty channel everything posted has been handled
      have hposted := hs.posted_eq
      rw [hempty, List.append_nil] at hposted
      exact Or.inr (by rw [hsame, hposted])

/-- What was posted before a loop that ended on an empty channel has been handled after it. -/
lemma posted_isPrefix_handled {s s' : State} {ops : List Op}
    (hs : Reachable (step keycode) start s) (hrun : runFrom (step keycode) s ops = some s')
    (hdrains : s'.drains ≠ s.drains) : s.posted <+: s'.handled := by
  have hinv := Inv.of_reachable keycode hs
  have hinv' := Inv.of_reachable keycode (hs.runFrom hrun)
  have hhandled : s'.handled <+: s'.posted := hinv'.posted_eq ▸ List.prefix_append _ _
  have hposted : s.posted <+: s'.posted :=
    runFrom_rel (R := fun s s' => s.posted <+: s'.posted) (fun _ => List.prefix_rfl)
      (fun _ _ _ => List.IsPrefix.trans) (fun _ _ _ h => posted_isPrefix_of_step keycode h) hrun
  have hlen : s.posted.length ≤ s'.handled.length :=
    ((channel_watermark keycode).run hinv (stepsMeet_of_forall (fun _ _ _ => trivial) s)
      hrun).resolve_left hdrains
  exact List.prefix_of_prefix_length_le hposted hhandled hlen

/-- **The Navigator is answered.**  In every interleaving of the poll with the posting of events and
with requests, the answers given so far are the first of those that are awaited, each given once and
in order.  And when a loop has ended on an empty channel since some state was left, all answers that
were awaited in that state have been given. -/
theorem navigator_answered {s s' : State} {ops : List Op}
    (hs : Reachable (step keycode) start s) (hrun : runFrom (step keycode) s ops = some s') :
    s'.replies <+: s'.awaited ∧ (s'.drains ≠ s.drains → s.awaited <+: s'.replies) := by
  have hinv' := Inv.of_reachable keycode (hs.runFrom hrun)
  have hhandled : s'.handled <+: s'.posted := hinv'.posted_eq ▸ List.prefix_append _ _
  unfold State.awaited
  rw [hinv'.replies_eq]
  exact ⟨hhandled.filterMap _, fun hdrains =>
    (posted_isPrefix_handled keycode hs hrun hdrains).filterMap _⟩

/-- The Navigator has asked one question. -/
def asked : State :=
  { start with channel := [.orientationCheck 1], posted := [.orientationCheck 1] }

/-- The next poll answers it. -/
theorem navigator_answered_asked :
    ∃ s, runFrom (step sampleKeycode) asked [.timer, .getEvent false, .getEvent false] = some s ∧
      [Outcome.checkResponse 1 false] <+: s.replies := by
  refine ⟨_, rfl, ?_⟩
  have hasked : runFrom (step sampleKeycode) start [.post (.orientationCheck 1)] = some asked := rfl
  have hpolled : runFrom (step sampleKeycode) asked [.timer, .getEvent false, .getEvent false] =
    some _ := rfl
  exact (navigator_answered sampleKeycode (Reachable.refl.runFrom hasked) hpolled).2 (by decide)

/-! ## Requests -/

/-- When the poll has nothing left to do, the toolbar was painted after the last request. -/
def Shown (s : State) : Prop :=
  s.requested = false → s.phase ≠ .repainting → s.painted = s.requests

/-- A call of `RepaintToolbar` paints, or the next poll will call it again, or nothing was requested
since the toolbar was painted. -/
def PaintsInTime (s : State) (op : Op) : Prop :=
  ∀ w, op = .repaintToolbar w → w.paints ∨ s.requested ∨ s.painted = s.requests

/-- A step that meets the condition loses no request. -/
lemma Shown.of_step {s s' : State} {op : Op} (hs : Shown s) (hop : PaintsInTime s op)
    (h : step keycode s op = some s') : Shown s' := by
  rcases op with cbs | ev | _ | _ | fails | _ | w
  · exact Option.some.inj h ▸ hs
  · exact Option.some.inj h ▸ hs
  · exact Option.some.inj h ▸ fun hreq => Bool.noConfusion hreq
  · obtain ⟨hphase, h⟩ := Option.ite_none_right_eq_some.mp h
    exact Option.some.inj h ▸ fun hreq _ => hs hreq (by rw [hphase]; decide)
  · obtain ⟨hphase, h⟩ := Option.ite_none_right_eq_some.mp h
    rw [← Option.some.inj h]
    have hshown : s.requested = false → s.painted = s.requests := fun hreq =>
      hs hreq (by rw [hphase]; decide)
    unfold getEvent
    split
    · exact fun hreq _ => hshown hreq
    · split <;> exact fun hreq _ => hshown hreq
  · obtain ⟨hphase, h⟩ := Option.ite_none_right_eq_some.mp h
    rw [← Option.some.inj h, consumeRepaint]
    split
    · exact fun _ hnot => absurd rfl hnot
    · rename_i hreq
      exact fun _ _ => hs (Bool.eq_false_iff.mpr hreq) (by rw [hphase]; decide)
  · rw [← Option.some.inj (Option.ite_none_right_eq_some.mp h).2]
    intro hreq _
    change (if w.paints then s.requests else s.painted) = s.requests
    split
    · rfl
    · rename_i hpaints
      rcases hop w rfl with hpaints' | hreq' | hshown
      · exact absurd hpaints' hpaints
      · exact Bool.noConfusion (hreq'.symm.trans hreq)
      · exact hshown

/-- A step that does not meet it loses one. -/
lemma not_shown_of_step {s s' : State} {op : Op} (hop : ¬ PaintsInTime s op)
    (h : step keycode s op = some s') : ¬ Shown s' := by
  unfold PaintsInTime at hop
  push Not at hop
  obtain ⟨w, rfl, hpaints, hreq, hbehind⟩ := hop
  rw [← Option.some.inj (Option.ite_none_right_eq_some.mp h).2]
  intro hshown
  have hpainted : (if w.paints then s.requests else s.painted) = s.requests :=
    hshown (Bool.eq_false_iff.mpr hreq) nofun
  rw [if_neg hpaints] at hpainted
  exact hbehind hpainted

/-- **When a request is lost.**  In every interleaving of polls, requests and events, the toolbar is
up to date whenever the poll has nothing left to do, if and only if every call of `RepaintToolbar`
that returns early finds another request already made, or none made since the toolbar was painted.
-/
theorem shown_always_iff (ops : List Op) :
    Always (step keycode) Shown start ops ↔ StepsMeet (step keycode) PaintsInTime start ops :=
  always_iff_stepsMeet (fun _ _ => rfl) (fun _ h => h)
    (fun _ _ _ hs hop h => hs.of_step keycode hop h)
    (fun _ _ _ _ hop h => not_shown_of_step keycode hop h) ops

/-- The calls of `RepaintToolbar` all paint. -/
def Paints (_ : State) (op : Op) : Prop := ∀ w, op = .repaintToolbar w → w.paints

/-- A step completes no poll and paints nothing, or it finds the flag down, or it repaints. -/
lemma polls_cases {s s' : State} {op : Op} (h : step keycode s op = some s') :
    (s.requests ≤ s'.requests ∧ s'.painted = s.painted ∧ s'.polls = s.polls) ∨
      (op = .consumeRepaint ∧ s.phase = .checking ∧ s.requested = false ∧
        s'.requests = s.requests ∧ s'.painted = s.painted) ∨
      (∃ w, op = .repaintToolbar w ∧ s' = repaintToolbar s w) := by
  rcases op with cbs | ev | _ | _ | fails | _ | w
  · exact Option.some.inj h ▸ Or.inl ⟨Nat.le_refl _, rfl, rfl⟩
  · exact Option.some.inj h ▸ Or.inl ⟨Nat.le_refl _, rfl, rfl⟩
  · exact Option.some.inj h ▸ Or.inl ⟨Nat.le_succ _, rfl, rfl⟩
  · exact Option.some.inj (Option.ite_none_right_eq_some.mp h).2 ▸ Or.inl ⟨Nat.le_refl _, rfl, rfl⟩
  · rw [← Option.some.inj (Option.ite_none_right_eq_some.mp h).2, getEvent]
    split
    · exact Or.inl ⟨Nat.le_refl _, rfl, rfl⟩
    · split <;> exact Or.inl ⟨Nat.le_refl _, rfl, rfl⟩
  · obtain ⟨hphase, h⟩ := Option.ite_none_right_eq_some.mp h
    rw [← Option.some.inj h, consumeRepaint]
    split
    · exact Or.inl ⟨Nat.le_refl _, rfl, rfl⟩
    · rename_i hreq
      exact Or.inr (Or.inl ⟨rfl, hphase, Bool.eq_false_iff.mpr hreq, rfl, rfl⟩)
  · exact Or.inr (Or.inr ⟨w, rfl,
      (Option.some.inj (Option.ite_none_right_eq_some.mp h).2).symm⟩)

/-- A call that paints covers all requests. -/
lemma painted_repaintToolbar (s : State) {w : RepaintWorld} (hw : w.paints = true) :
    (repaintToolbar s w).painted = s.requests := if_pos hw

/-- The toolbar keeps up with the requests. -/
lemma toolbar_watermark :
    Watermark (step keycode) (fun s => Inv s ∧ Shown s) Paints State.requests State.painted
      State.polls where
  inv := fun s op _ hs hop h => ⟨hs.1.of_step keycode h,
    hs.2.of_step keycode (fun w hw => Or.inl (hop w hw)) h⟩
  produced_le := fun s op _ _ _ h => by
    rcases polls_cases keycode h with ⟨hle, -⟩ | ⟨-, -, -, hsame, -⟩ | ⟨w, -, rfl⟩
    · exact hle
    · exact hsame.ge
    · exact Nat.le_refl _
  mark_le := fun s op _ hs hop h => by
    rcases polls_cases keycode h with ⟨-, hsame, -⟩ | ⟨-, -, -, -, hsame⟩ | ⟨w, hw, rfl⟩
    · exact hsame.ge
    · exact hsame.ge
    · rw [painted_repaintToolbar s (hop w hw)]
      exact hs.1.painted_le
  sync := fun s op _ hs hop h => by
    rcases polls_cases keycode h with ⟨-, -, hpolls⟩ | ⟨-, hphase, hreq, -, hsame⟩ | ⟨w, hw, rfl⟩
    · exact Or.inl hpolls
    · -- with the flag down the toolbar is up to date already
      have hshown := hs.2 hreq (by rw [hphase]; exact nofun)
      exact Or.inr (by rw [hsame, hshown])
    · exact Or.inr (painted_repaintToolbar s (hop w hw)).ge

/-- **Requests are collapsed, and none is missed.**  In every interleaving `RepaintToolbar` is
called at most once for each request.  And when a poll has been completed since some state was left,
and the calls that were made paint, the toolbar was painted after all requests made up to that
state. -/
theorem repaints_right {s s' : State} {before after : List Op}
    (hbefore : runFrom (step keycode) start before = some s)
    (hafter : runFrom (step keycode) s after = some s') :
    s'.repaints ≤ s'.requests ∧
      (StepsMeet (step keycode) Paints start before → StepsMeet (step keycode) Paints s after →
        s'.polls ≠ s.polls → s.requests ≤ s'.painted) := by
  have hreach : Reachable (step keycode) start s := Reachable.refl.runFrom hbefore
  have hinv := Inv.of_reachable keycode hreach
  have hcount := (Inv.of_reachable keycode (hreach.runFrom hafter)).count
  refine ⟨by omega, fun hpaints hpaints' hpolls => ?_⟩
  have hshown : Shown s := by
    have halways := hpaints.always (I := Shown) (fun _ _ => rfl) fun _ _ _ hs hop h =>
      hs.of_step keycode (fun w hw => Or.inl (hop w hw)) h
    exact always_iff_forall_prefix.mp halways before List.prefix_rfl s hbefore
  exact ((toolbar_watermark keycode).run ⟨hinv, hshown⟩ hpaints' hafter).resolve_left hpolls

/-- A request was made. -/
def requestMade : State := { start with requested := true, requests := 1 }

/-- Everything `RepaintToolbar` needs is there. -/
def paintable : RepaintWorld := ⟨true, true, 0, true, 5760, (1440, 1440), true⟩

/-- The next poll paints the toolbar. -/
theorem repaints_right_requestMade :
    ∃ s, runFrom (step sampleKeycode) requestMade
        [.timer, .getEvent false, .consumeRepaint, .repaintToolbar paintable] = some s ∧
      1 ≤ s.painted := by
  refine ⟨_, rfl, ?_⟩
  have hmade : runFrom (step sampleKeycode) start [.requestRepaint] = some requestMade := rfl
  have hpolled : runFrom (step sampleKeycode) requestMade
    [.timer, .getEvent false, .consumeRepaint, .repaintToolbar paintable] = some _ := rfl
  have hpaints : ∀ ops : List Op, (∀ w, .repaintToolbar w ∈ ops → w = paintable) →
      ∀ s, StepsMeet (step sampleKeycode) Paints s ops := fun ops hops =>
    stepsMeet_of_forall fun op hop _ w hw => by
      rw [hops w (hw ▸ hop)]
      decide
  exact (repaints_right sampleKeycode hmade hpolled).2 (hpaints _ (by simp) _)
    (hpaints _ (by simp) _) (by decide)

end QnxScreenPolling

end ChromiumQnx
