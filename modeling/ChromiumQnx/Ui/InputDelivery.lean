import ChromiumQnx.Ui.QnxScreenWindowUsers

/-!
# The delivery of input

The poll of the event channel and the windows run side by side.  Windows are created, shown, hidden
and deleted between the steps of the poll, and an input event that the event source dispatches goes
to the windows as they are at that time.  How the event source goes through its dispatchers is a
parameter.

`input_delivered` follows the input from the channel to the delegates of the windows in every
interleaving: in order, nothing twice, each event to the oldest visible window, and nothing lost
exactly if there is a visible window whenever an input event is dispatched.
-/

namespace ChromiumQnx

namespace InputDelivery

open StringSearch TransitionSystem
open QnxScreenPolling (BpsEvent Outcome handleEvent)
open QnxScreenWindows (PlatformEventSource WindowsRight dispatchEvent loopSource
  loopSource_callsInOrder)

/-! ## The steps -/

/-- An event as the event source dispatches it. -/
inductive InputEvent
  | touch (e : TouchEvent)
  | key (e : KeyEvent)

/-- The input event that was dispatched, unless the Navigator was answered. -/
def input : Outcome → Option InputEvent
  | .touch e => some (.touch e)
  | .key e => some (.key e)
  | .checkResponse _ _ => none
  | .doneOrientation _ => none

/-- The poll, the windows, and the calls of the delegates: the window and the event. -/
structure Desktop where
  polling : QnxScreenPolling.State
  windows : QnxScreenWindows.State
  delivered : List (ℕ × InputEvent)

/-- The calls of `DispatchEvent` so far. -/
def Desktop.dispatched (s : Desktop) : List InputEvent := s.polling.outcomes.filterMap input

/-- A step of the poll or of its surroundings, or a call on a window. -/
inductive Op
  | poll (op : QnxScreenPolling.Op)
  | window (op : QnxScreenWindows.Op)

section

variable (source : PlatformEventSource ℕ) (keycode : SpecialKey → ℤ) (environ : List CString)
  (gl : Bool)

/-- The calls of the delegates for some outcomes of the poll. -/
def deliveries (windows : QnxScreenWindows.State) (outcomes : List Outcome) :
    List (ℕ × InputEvent) :=
  (outcomes.filterMap input).flatMap fun e => (dispatchEvent source windows).map fun id => (id, e)

/-- The poll after a step; what it has dispatched goes to the windows. -/
def Desktop.afterPoll (s : Desktop) (polling : QnxScreenPolling.State) : Desktop where
  polling := polling
  windows := s.windows
  delivered :=
    s.delivered ++ deliveries source s.windows (polling.outcomes.drop s.polling.outcomes.length)

/-- One step.  The event source is there, as it is what polls. -/
def step (s : Desktop) : Op → Option Desktop
  | .poll op => (QnxScreenPolling.step keycode s.polling op).map (s.afterPoll source)
  | .window op =>
    (QnxScreenWindows.step environ gl true s.windows op).map fun windows =>
      { s with windows := windows }

/-- Nothing was posted, and no window created. -/
def start : Desktop where
  polling := QnxScreenPolling.start
  windows := QnxScreenWindows.start
  delivered := []

/-! ## What is delivered -/

/-- An input event that is taken out of the channel and dispatched finds a visible window. -/
def FindsWindow (s : Desktop) (op : Op) : Prop :=
  op = .poll (.getEvent false) → s.polling.phase = .draining → ∀ ev channel,
    s.polling.channel = ev :: channel →
      (handleEvent keycode s.polling.cbs ev).filterMap input ≠ [] → s.windows.visible.Nonempty

/-- What is dispatched for an event of the channel when no callback is installed: a touch event
always, a key event if its symbol has a key triple. -/
def translate : BpsEvent → Option InputEvent
  | .screen (.touch ev) => some (.touch ⟨ev.type.eventType, ev.pos, ev.touchId⟩)
  | .screen (.keyboard ev) => (processKeyboardEvent keycode none ev).map InputEvent.key
  | _ => none

variable {source keycode environ gl} {s s' : Desktop}

lemma filterMap_input_handleEvent (ev : BpsEvent) :
    (handleEvent keycode ⟨none, none⟩ ev).filterMap input = (translate keycode ev).toList := by
  rcases ev with (ev | ev | _) | id | id | _ | _
  · rfl
  · change ((processKeyboardEvent keycode none ev).map Outcome.key).toList.filterMap input =
      ((processKeyboardEvent keycode none ev).map InputEvent.key).toList
    rcases processKeyboardEvent keycode none ev with _ | e <;> rfl
  · rfl
  · rfl
  · rfl
  · rfl
  · rfl

/-- A step of the poll handles the next event of the channel, or it does nothing about events. -/
lemma outcomes_cases {s s' : QnxScreenPolling.State} {op : QnxScreenPolling.Op}
    (h : QnxScreenPolling.step keycode s op = some s') :
    (s'.outcomes = s.outcomes ∧ s'.handled = s.handled) ∨
      ∃ ev channel, op = .getEvent false ∧ s.phase = .draining ∧ s.channel = ev :: channel ∧
        s'.outcomes = s.outcomes ++ handleEvent keycode s.cbs ev ∧
        s'.handled = s.handled ++ [ev] := by
  rcases op with cbs | ev | _ | _ | fails | _ | w
  · exact Option.some.inj h ▸ Or.inl ⟨rfl, rfl⟩
  · exact Option.some.inj h ▸ Or.inl ⟨rfl, rfl⟩
  · exact Option.some.inj h ▸ Or.inl ⟨rfl, rfl⟩
  · exact Option.some.inj (Option.ite_none_right_eq_some.mp h).2 ▸ Or.inl ⟨rfl, rfl⟩
  · obtain ⟨hphase, hstep⟩ := Option.ite_none_right_eq_some.mp h
    rw [← Option.some.inj hstep, QnxScreenPolling.getEvent]
    rcases fails with _ | _
    · rcases hchannel : s.channel with _ | ⟨ev, channel⟩
      · exact Or.inl ⟨rfl, rfl⟩
      · exact Or.inr ⟨ev, channel, rfl, hphase, rfl, rfl, rfl⟩
    · exact Or.inl ⟨rfl, rfl⟩
  · rw [← Option.some.inj (Option.ite_none_right_eq_some.mp h).2, QnxScreenPolling.consumeRepaint]
    split <;> exact Or.inl ⟨rfl, rfl⟩
  · exact Option.some.inj (Option.ite_none_right_eq_some.mp h).2 ▸ Or.inl ⟨rfl, rfl⟩

/-! ## Where it goes -/

/-- There is a window for an event exactly if one is visible. -/
lemma dispatchEvent_ne_nil_iff (hsource : source.CallsInOrder)
    (h : WindowsRight environ gl true s.windows) :
    dispatchEvent source s.windows ≠ [] ↔ s.windows.visible.Nonempty := by
  classical
  constructor
  · intro hne
    obtain ⟨id, hid⟩ := List.exists_mem_of_ne_nil _ hne
    exact ⟨id, ((h.mem_dispatchEvent hsource).mp hid).2.1⟩
  · intro hvisible
    have hleast : IsLeast s.windows.visible (Nat.find hvisible) :=
      ⟨Nat.find_spec hvisible, fun _ hid => Nat.find_min' hvisible hid⟩
    exact List.ne_nil_of_mem ((h.mem_dispatchEvent hsource).mpr ⟨rfl, hleast⟩)

/-- With a window for them, all input events are delivered. -/
lemma map_snd_deliveries (hsource : source.CallsInOrder) {windows : QnxScreenWindows.State}
    (h : dispatchEvent source windows ≠ []) (outcomes : List Outcome) :
    (deliveries source windows outcomes).map Prod.snd = outcomes.filterMap input := by
  obtain ⟨id, hid⟩ : ∃ id, dispatchEvent source windows = [id] :=
    List.length_eq_one_iff.mp (Nat.le_antisymm
      (QnxScreenWindows.length_dispatchEvent_le hsource windows)
      (List.length_pos_of_ne_nil h))
  unfold deliveries
  rw [hid, List.map_flatMap]
  exact List.flatMap_singleton' _

/-- Without one, none is. -/
lemma deliveries_eq_nil {windows : QnxScreenWindows.State} (h : dispatchEvent source windows = [])
    (outcomes : List Outcome) : deliveries source windows outcomes = [] := by
  unfold deliveries
  rw [h]
  exact List.flatMap_eq_nil_iff.mpr fun _ _ => rfl

/-- What a step does: nothing about input, or it delivers the input of the next event. -/
lemma step_cases {op : Op} (h : step source keycode environ gl s op = some s') :
    (s'.dispatched = s.dispatched ∧ s'.delivered = s.delivered ∧
        s'.polling.handled = s.polling.handled) ∨
      ∃ ev channel, op = .poll (.getEvent false) ∧ s.polling.phase = .draining ∧
        s.polling.channel = ev :: channel ∧
        s'.dispatched = s.dispatched ++ (handleEvent keycode s.polling.cbs ev).filterMap input ∧
        s'.delivered =
          s.delivered ++ deliveries source s.windows (handleEvent keycode s.polling.cbs ev) ∧
        s'.polling.handled = s.polling.handled ++ [ev] := by
  rcases op with op | op
  · obtain ⟨polling, hpolling, rfl⟩ := Option.map_eq_some_iff.mp h
    unfold Desktop.dispatched Desktop.afterPoll
    dsimp only
    rcases outcomes_cases hpolling with
      ⟨hsame, hhandled⟩ | ⟨ev, channel, rfl, hphase, hchannel, hnew, hhandled⟩
    · refine Or.inl ⟨by rw [hsame], ?_, hhandled⟩
      rw [hsame, List.drop_length]
      exact List.append_nil _
    · refine Or.inr ⟨ev, channel, rfl, hphase, hchannel, ?_, ?_, hhandled⟩
      · rw [hnew, List.filterMap_append]
      · rw [hnew, List.drop_left]
  · obtain ⟨windows, -, rfl⟩ := Option.map_eq_some_iff.mp h
    exact Or.inl ⟨rfl, rfl, rfl⟩

/-! ## Every run -/

/-- What every run keeps: the windows are right, and what was delivered is some of what was
dispatched, in the same order. -/
structure Inv (environ : List CString) (gl : Bool) (s : Desktop) : Prop where
  windows : WindowsRight environ gl true s.windows
  sublist : (s.delivered.map Prod.snd).Sublist s.dispatched

lemma start_inv : Inv environ gl start where
  windows := QnxScreenWindows.start_windowsRight
  sublist := List.Sublist.slnil

lemma sublist_deliveries (hsource : source.CallsInOrder) (windows : QnxScreenWindows.State)
    (outcomes : List Outcome) :
    ((deliveries source windows outcomes).map Prod.snd).Sublist (outcomes.filterMap input) := by
  by_cases h : dispatchEvent source windows = []
  · rw [deliveries_eq_nil h]
    exact List.nil_sublist _
  · rw [map_snd_deliveries hsource h]

lemma Inv.of_step (hsource : source.CallsInOrder) (hs : Inv environ gl s) {op : Op}
    (h : step source keycode environ gl s op = some s') : Inv environ gl s' := by
  refine ⟨?_, ?_⟩
  · rcases op with op | op
    · obtain ⟨polling, -, rfl⟩ := Option.map_eq_some_iff.mp h
      exact hs.windows
    · obtain ⟨windows, hwindows, rfl⟩ := Option.map_eq_some_iff.mp h
      exact hs.windows.of_step hwindows
  · rcases step_cases h with
      ⟨hdispatched, hdelivered, -⟩ | ⟨ev, _, -, -, -, hdispatched, hdelivered, -⟩
    · rw [hdispatched, hdelivered]
      exact hs.sublist
    · rw [hdispatched, hdelivered, List.map_append]
      exact hs.sublist.append (sublist_deliveries hsource s.windows _)

/-- Everything that was dispatched was delivered. -/
def Desktop.Complete (s : Desktop) : Prop := s.delivered.map Prod.snd = s.dispatched

lemma complete_of_step (hsource : source.CallsInOrder) (hs : Inv environ gl s)
    (hcomplete : s.Complete) {op : Op} (hop : FindsWindow keycode s op)
    (h : step source keycode environ gl s op = some s') :
    s'.Complete := by
  unfold Desktop.Complete at hcomplete ⊢
  rcases step_cases h with ⟨hdispatched, hdelivered, -⟩ |
    ⟨ev, channel, hget, hphase, hchannel, hdispatched, hdelivered, -⟩
  · rw [hdispatched, hdelivered, hcomplete]
  · rw [hdispatched, hdelivered, List.map_append, hcomplete]
    refine congrArg (s.dispatched ++ ·) ?_
    by_cases hnone : (handleEvent keycode s.polling.cbs ev).filterMap input = []
    · rw [hnone]
      exact List.sublist_nil.mp (hnone ▸ sublist_deliveries hsource s.windows _)
    · have hvisible := hop hget hphase ev channel hchannel hnone
      exact map_snd_deliveries hsource
        ((dispatchEvent_ne_nil_iff hsource hs.windows).mpr hvisible) _

/-- Something that was dispatched is missing. -/
def Desktop.Missing (s : Desktop) : Prop := s.delivered.length < s.dispatched.length

lemma missing_iff (hs : Inv environ gl s) : ¬ s.Missing ↔ s.Complete := by
  unfold Desktop.Missing Desktop.Complete
  have hle := hs.sublist.length_le
  rw [List.length_map] at hle
  constructor
  · intro hnot
    refine hs.sublist.eq_of_length ?_
    rw [List.length_map]
    omega
  · intro h hlt
    rw [← h, List.length_map] at hlt
    exact Nat.lt_irrefl _ hlt

/-- What is missing is not delivered later. -/
lemma missing_of_step (hsource : source.CallsInOrder) {op : Op} (hs : s.Missing)
    (h : step source keycode environ gl s op = some s') : s'.Missing := by
  unfold Desktop.Missing at hs ⊢
  rcases step_cases h with
    ⟨hdispatched, hdelivered, -⟩ | ⟨ev, _, -, -, -, hdispatched, hdelivered, -⟩
  · rw [hdispatched, hdelivered]
    exact hs
  · have hle :=
      (sublist_deliveries hsource s.windows (handleEvent keycode s.polling.cbs ev)).length_le
    rw [List.length_map] at hle
    rw [hdispatched, hdelivered, List.length_append, List.length_append]
    omega

lemma missing_of_not_findsWindow (hsource : source.CallsInOrder) (hs : Inv environ gl s)
    {op : Op} (hop : ¬ FindsWindow keycode s op)
    (h : step source keycode environ gl s op = some s') :
    s'.Missing := by
  unfold FindsWindow at hop
  push Not at hop
  obtain ⟨rfl, hphase, ev, channel, hchannel, hsome, hvisible⟩ := hop
  have hnowhere : dispatchEvent source s.windows = [] := by
    by_contra hne
    have hnonempty := (dispatchEvent_ne_nil_iff hsource hs.windows).mp hne
    exact Set.not_nonempty_empty (hvisible ▸ hnonempty)
  have hhandled : s'.polling.handled = s.polling.handled ++ [ev] := by
    obtain ⟨polling, hpolling, rfl⟩ := Option.map_eq_some_iff.mp h
    have hget := Option.some.inj (Option.ite_none_right_eq_some.mp hpolling).2
    rw [QnxScreenPolling.getEvent, if_neg Bool.false_ne_true, hchannel] at hget
    rw [← hget]
    rfl
  rcases step_cases h with ⟨-, -, hsame⟩ | ⟨ev', _, -, -, hchannel', hdispatched, hdelivered, -⟩
  · have hlen := congrArg List.length (hsame.symm.trans hhandled)
    rw [List.length_append, List.length_singleton] at hlen
    omega
  · obtain rfl : ev = ev' := (List.cons.inj (hchannel.symm.trans hchannel')).1
    have hle := hs.sublist.length_le
    have hpos := List.length_pos_of_ne_nil hsome
    rw [List.length_map] at hle
    unfold Desktop.Missing
    rw [hdispatched, hdelivered, deliveries_eq_nil hnowhere, List.append_nil, List.length_append]
    omega

/-- Nothing is missing in the end exactly if every step that dispatches input finds a window. -/
lemma complete_iff_stepsMeet (hsource : source.CallsInOrder) {ops : List Op}
    (hrun : runFrom (step source keycode environ gl) start ops = some s) :
    s.Complete ↔ StepsMeet (step source keycode environ gl) (FindsWindow keycode) start ops := by
  have hinv : Inv environ gl s := (Reachable.refl.runFrom hrun).invariant start_inv
    fun _ _ _ hs h => hs.of_step hsource h
  constructor
  · intro hcomplete
    exact stepsMeet_of_not_trap start_inv (fun _ _ _ hs h => hs.of_step hsource h)
      (fun _ _ _ _ hmissing h => missing_of_step hsource hmissing h)
      (fun _ _ _ hs hop h => missing_of_not_findsWindow hsource hs hop h) hrun
      ((missing_iff hinv).mpr hcomplete)
  · intro hmeet
    have hboth := hmeet.always (I := fun s => Inv environ gl s ∧ s.Complete) ⟨start_inv, rfl⟩
      fun _ _ _ hs hop h => ⟨hs.1.of_step hsource h, complete_of_step hsource hs.1 hs.2 hop h⟩
    have hend : Inv environ gl s ∧ s.Complete :=
      always_iff_forall_prefix.mp hboth ops List.prefix_rfl s hrun
    exact hend.2

/-- A run seen by the poll. -/
lemma polling_run {ops : List Op}
    (hrun : runFrom (step source keycode environ gl) s ops = some s') :
    ∃ pollOps, runFrom (QnxScreenPolling.step keycode) s.polling pollOps = some s'.polling := by
  induction ops generalizing s with
  | nil => exact ⟨[], congrArg (some ∘ Desktop.polling) (Option.some.inj hrun)⟩
  | cons op ops ih =>
    obtain ⟨s₁, hs₁, hrest⟩ := Option.bind_eq_some_iff.mp hrun
    obtain ⟨pollOps, hpoll⟩ := ih hrest
    rcases op with op | op
    · obtain ⟨polling, hpolling, rfl⟩ := Option.map_eq_some_iff.mp hs₁
      refine ⟨op :: pollOps, ?_⟩
      rw [runFrom_cons, hpolling]
      exact hpoll
    · obtain ⟨windows, -, rfl⟩ := Option.map_eq_some_iff.mp hs₁
      exact ⟨pollOps, hpoll⟩

/-- The callbacks change only when they are set. -/
lemma cbs_of_step {op : Op} (hop : ∀ cbs, op ≠ .poll (.setCallbacks cbs))
    (h : step source keycode environ gl s op = some s') : s'.polling.cbs = s.polling.cbs := by
  rcases op with op | op
  · obtain ⟨polling, hpolling, rfl⟩ := Option.map_eq_some_iff.mp h
    change polling.cbs = s.polling.cbs
    rcases op with cbs | ev | _ | _ | fails | _ | w
    · exact absurd rfl (hop cbs)
    · exact Option.some.inj hpolling ▸ rfl
    · exact Option.some.inj hpolling ▸ rfl
    · exact Option.some.inj (Option.ite_none_right_eq_some.mp hpolling).2 ▸ rfl
    · rw [← Option.some.inj (Option.ite_none_right_eq_some.mp hpolling).2,
        QnxScreenPolling.getEvent]
      split
      · rfl
      · split <;> rfl
    · rw [← Option.some.inj (Option.ite_none_right_eq_some.mp hpolling).2,
        QnxScreenPolling.consumeRepaint]
      split <;> rfl
    · exact Option.some.inj (Option.ite_none_right_eq_some.mp hpolling).2 ▸ rfl
  · obtain ⟨windows, -, rfl⟩ := Option.map_eq_some_iff.mp h
    rfl

/-- Without callbacks, what is dispatched are the translated events. -/
lemma dispatched_eq_translated {ops : List Op}
    (hcbs : ∀ op ∈ ops, ∀ cbs, op ≠ .poll (.setCallbacks cbs))
    (hrun : runFrom (step source keycode environ gl) start ops = some s) :
    s.dispatched = s.polling.handled.filterMap (translate keycode) := by
  have hmeet : StepsMeet (step source keycode environ gl)
      (fun _ op => ∀ cbs, op ≠ .poll (.setCallbacks cbs)) start ops :=
    stepsMeet_of_forall (fun op hop _ => hcbs op hop) start
  have halways := hmeet.always (I := fun s => s.polling.cbs = ⟨none, none⟩ ∧
      s.dispatched = s.polling.handled.filterMap (translate keycode)) ⟨rfl, rfl⟩ (by
    rintro s op s' ⟨hnone, htranslated⟩ hop h
    refine ⟨(cbs_of_step hop h).trans hnone, ?_⟩
    rcases step_cases h with ⟨hdispatched, -, hhandled⟩ |
      ⟨ev, _, -, -, -, hdispatched, -, hhandled⟩
    · rw [hdispatched, hhandled, htranslated]
    · rw [hdispatched, hhandled, htranslated, hnone, filterMap_input_handleEvent,
        List.filterMap_append, List.filterMap_cons]
      rcases translate keycode ev with _ | e <;> rfl)
  have hend : s.polling.cbs = ⟨none, none⟩ ∧
      s.dispatched = s.polling.handled.filterMap (translate keycode) :=
    always_iff_forall_prefix.mp halways ops List.prefix_rfl s hrun
  exact hend.2

/-- What a step delivers goes to the oldest visible window. -/
lemma delivered_of_step (hsource : source.CallsInOrder) (hs : Inv environ gl s) {op : Op}
    (h : step source keycode environ gl s op = some s') :
    ∃ new, s'.delivered = s.delivered ++ new ∧ ∀ d ∈ new, IsLeast s.windows.visible d.1 := by
  rcases step_cases h with ⟨-, hdelivered, -⟩ | ⟨ev, _, -, -, -, -, hdelivered, -⟩
  · exact ⟨[], hdelivered.trans (List.append_nil _).symm, List.forall_mem_nil _⟩
  · refine ⟨_, hdelivered, fun d hd => ?_⟩
    obtain ⟨e, -, hmem⟩ := List.mem_flatMap.mp hd
    obtain ⟨id, hid, rfl⟩ := List.mem_map.mp hmem
    exact ((hs.windows.mem_dispatchEvent hsource).mp hid).2

/-- **Delivery of input.**  In every interleaving of the poll with the posting of events and with
calls on windows, and for every event source that calls its dispatchers in order, the delegates have
got some of the events that were dispatched, in their order and each of them once, and all of them
exactly if each found a visible window; every step delivers to the oldest visible window.  As long
as no callback is installed, the dispatched events are those that were handled, translated, and what
was posted before a loop that ended on an empty channel has been handled after it. -/
theorem input_delivered {source : PlatformEventSource ℕ} (hsource : source.CallsInOrder)
    {before after : List Op}
    (hbefore : runFrom (step source keycode environ gl) start before = some s)
    (hafter : runFrom (step source keycode environ gl) s after = some s') :
    (s'.delivered.map Prod.snd).Sublist s'.dispatched ∧
      (s'.delivered.map Prod.snd = s'.dispatched ↔
        StepsMeet (step source keycode environ gl) (FindsWindow keycode) start (before ++ after)) ∧
      (∀ op s'', step source keycode environ gl s' op = some s'' →
        ∃ new, s''.delivered = s'.delivered ++ new ∧ ∀ d ∈ new, IsLeast s'.windows.visible d.1) ∧
      ((∀ op ∈ before ++ after, ∀ cbs, op ≠ .poll (.setCallbacks cbs)) →
        s'.dispatched = s'.polling.handled.filterMap (translate keycode)) ∧
      (s'.polling.drains ≠ s.polling.drains → s.polling.posted <+: s'.polling.handled) := by
  have hrun := runFrom_append hbefore hafter
  have hinv : Inv environ gl s' := (Reachable.refl.runFrom hrun).invariant start_inv
    fun _ _ _ hs h => hs.of_step hsource h
  obtain ⟨pollBefore, hpollBefore⟩ := polling_run hbefore
  obtain ⟨pollAfter, hpollAfter⟩ := polling_run hafter
  exact ⟨hinv.sublist, complete_iff_stepsMeet hsource hrun,
    fun _ _ h => delivered_of_step hsource hinv h,
    fun hcbs => dispatched_eq_translated hcbs hrun, fun hdrains =>
    QnxScreenPolling.posted_isPrefix_handled keycode (Reachable.refl.runFrom hpollBefore) hpollAfter
      hdrains⟩

/-- Two windows are created and the first is hidden; the letter `a` is pressed. -/
def typedBefore : List Op :=
  [.window (.create QnxScreenWindows.sampleCalls), .window (.create QnxScreenWindows.sampleCalls),
    .window (.hide 0 true), .poll (.post (.screen (.keyboard ⟨97, true, ⟨false, false, false⟩⟩)))]

/-- The poll handles it. -/
def typedAfter : List Op := [.poll .timer, .poll (.getEvent false), .poll (.getEvent false)]

/-- The steps with an event source that is a loop. -/
def loopStep : Desktop → Op → Option Desktop := step (loopSource ℕ) sampleKeycode [] false

/-- The desktop before the poll. -/
def typed : Desktop := (runFrom loopStep start typedBefore).getD start

/-- The desktop after it. -/
def polled : Desktop := (runFrom loopStep typed typedAfter).getD start

/-- The letter goes to the second window. -/
theorem input_delivered_polled :
    polled.delivered.map Prod.fst = [1] ∧ typed.polling.posted <+: polled.polling.handled := by
  have hbefore : runFrom loopStep start typedBefore = some typed := rfl
  have hafter : runFrom loopStep typed typedAfter = some polled := rfl
  exact ⟨rfl, (input_delivered (loopSource_callsInOrder ℕ) hbefore hafter).2.2.2.2 (by decide)⟩

end

end InputDelivery

end ChromiumQnx
