import ChromiumQnx.Foundation.TransitionSystem
import Mathlib.Order.Lattice
import Mathlib.Data.Int.Order.Basic
import Mathlib.Tactic.SplitIfs

/-!
# How long a message pump blocks

Cross-thread wakeups can be lost on QNX, so the pumps must not park for long: a task whose wakeup
was dropped is only found when the wait ends by itself.  `MessagePumpDefault::Run` waits on a
`WaitableEvent`, `MessagePumpLibevent::Run` in `event_base_loop`, whose `select_dispatch` calls
`select`.  The waits are capped to 50 ms in three places: the branch of `MessagePumpDefault` for an
idle queue (`messagePumpDefaultWait`), the timer of `MessagePumpLibevent`
(`messagePumpLibeventTimerDelay`), and every timeout given to `select` (`selectDispatchTimeout`).

`PumpClock` is a pump with a clock in microseconds and its queue of posted tasks.  A post and the
arrival of its wakeup are steps of their own; a wakeup that is dropped is no step at all.  A task
remembers which step posted it and which step, if any, brought its wakeup, and counts the waits it
has sat through.  `PumpClock.WaitsBounded` says that the current wait lasts at most 50 ms and that
no task is still queued when a second wait begins, so that `DoWork` takes it after at most one.

`event_base_loop` belongs to libevent.  What is left open of it is left to the run: before it
blocks, `MessagePumpLibevent` makes a pass over the native events, in which libevent calls
`select_dispatch` any number of times with any timeouts, and the blocking loop asks for any timeout
that does not end before its timer (`WaitsForTimer`).  As `select_dispatch` makes 50 ms of a zero
timeout, the calls of the pass are waits as well.  A wakeup that arrives in time ends the pass:
`OnWakeup` breaks the loop and has the pump go back to `DoWork`.
-/

namespace ChromiumQnx

open TransitionSystem

/-! ## The three caps -/

/-- `base::Milliseconds`; durations are in microseconds. -/
def milliseconds (n : ℤ) : ℤ := n * 1000

/-- `struct timeval`. -/
structure Timeval where
  tvSec : ℤ
  tvUsec : ℤ
  deriving DecidableEq, Repr

/-- The length of a `timeval` in microseconds. -/
def Timeval.micros (tv : Timeval) : ℤ := tv.tvSec * 1000000 + tv.tvUsec

/-- `NextWorkInfo`: immediate work, a delayed task due after `remaining_delay()`, or a
`delayed_run_time` that is `is_max()`. -/
inductive NextWorkInfo
  | immediate
  | delayed (remainingDelay : ℤ)
  | isMax
  deriving DecidableEq, Repr

/-- The duration `MessagePumpDefault::Run` passes to `WaitableEvent::TimedWait`. -/
def messagePumpDefaultWait : NextWorkInfo → ℤ
  | .isMax => milliseconds 50
  | .delayed remainingDelay => remainingDelay
  | .immediate => 0

/-- The delay of the timer `MessagePumpLibevent::Run` sets before it blocks. -/
def messagePumpLibeventTimerDelay (info : NextWorkInfo) : ℤ :=
  let (timerDelay, haveTimerDelay) :=
    match info with
    | .delayed remainingDelay => (remainingDelay, true)
    | _ => (0, false)
  let kQnxMaxWait := milliseconds 50
  if !haveTimerDelay || timerDelay > kQnxMaxWait then kQnxMaxWait else timerDelay

/-- The timeout `select_dispatch` gives to `select`. -/
def selectDispatchTimeout : Option Timeval → Timeval
  | none => ⟨0, 50000⟩
  | some tv =>
    if tv.tvSec = 0 ∧ tv.tvUsec = 0 then ⟨0, 50000⟩
    else if tv.tvSec > 0 ∨ tv.tvUsec > 50000 then ⟨0, 50000⟩
    else tv

/-- What libevent asks `select_dispatch` for at time `now` while its timer is due at `deadline`:
nothing, or a timeout that does not end before the timer. -/
def WaitsForTimer (deadline now : ℤ) (asked : Option Timeval) : Prop :=
  ∀ tv ∈ asked, deadline - now ≤ tv.micros

instance (deadline now : ℤ) (asked : Option Timeval) :
    Decidable (WaitsForTimer deadline now asked) :=
  inferInstanceAs (Decidable (∀ tv ∈ asked, deadline - now ≤ tv.micros))

/-- **The cap of `select`.**  Whatever timeout libevent asks for, `select` gets at most 50 ms. -/
lemma micros_selectDispatchTimeout_le (tv : Option Timeval) :
    (selectDispatchTimeout tv).micros ≤ milliseconds 50 := by
  cases tv with
  | none => decide
  | some tv =>
    unfold selectDispatchTimeout
    dsimp only
    split_ifs with hzero hcap
    · decide
    · decide
    · unfold Timeval.micros milliseconds
      omega

/-- **The cap of the timer.**  Whatever the delegate returns, the timer is due within 50 ms. -/
lemma messagePumpLibeventTimerDelay_le (info : NextWorkInfo) :
    messagePumpLibeventTimerDelay info ≤ milliseconds 50 := by
  unfold messagePumpLibeventTimerDelay
  cases info with
  | immediate => decide
  | isMax => decide
  | delayed remainingDelay =>
    dsimp only
    split
    · exact le_rfl
    · rename_i hcap
      simpa using hcap

/-- The cap of `select` never cuts a wait short of a timer that is due within 50 ms. -/
lemma le_micros_selectDispatchTimeout {deadline now : ℤ} {asked : Option Timeval}
    (h : deadline - now ≤ milliseconds 50) (hasked : WaitsForTimer deadline now asked) :
    deadline - now ≤ (selectDispatchTimeout asked).micros := by
  cases asked with
  | none => exact h
  | some tv =>
    unfold selectDispatchTimeout
    dsimp only
    split_ifs
    · exact h
    · exact h
    · exact hasked tv rfl

/-! ## The pumps and the clock -/

/-- The two pumps. -/
inductive PumpKind
  | messagePumpDefault
  | messagePumpLibevent
  deriving DecidableEq, Repr

/-- A call that blocks: when it began, the timeout it was given, and the time from which on the pump
goes back to `DoWork` when the call times out. -/
structure BlockingWait where
  start : ℤ
  limit : ℤ
  deadline : ℤ
  deriving DecidableEq, Repr

/-- The wait of `MessagePumpDefault` that begins at time `now`. -/
def timedWait (info : NextWorkInfo) (now : ℤ) : BlockingWait :=
  let limit := max 0 (messagePumpDefaultWait info)
  ⟨now, limit, now + limit⟩

/-- The `select` of `select_dispatch` that begins at time `now`, for a timer due at `deadline`. -/
def selectWait (deadline now : ℤ) (asked : Option Timeval) : BlockingWait :=
  ⟨now, max 0 (selectDispatchTimeout asked).micros, deadline⟩

/-- Where a pump is. -/
inductive PumpStage
  /-- At the beginning of `DoWork`. -/
  | doWork
  /-- Between `DoWork` and the wait; `info` is what the delegate has returned, and `processed` is
  `processed_io_events_`. -/
  | running (info : NextWorkInfo) (processed : Bool)
  /-- In a `select` of the pass over the native events. -/
  | pass (w : BlockingWait) (info : NextWorkInfo) (processed : Bool)
  /-- In the wait for new work. -/
  | waiting (w : BlockingWait)
  deriving DecidableEq, Repr

/-- The wait a pump is in. -/
def PumpStage.wait? : PumpStage → Option BlockingWait
  | pass w _ _ => some w
  | waiting w => some w
  | _ => none

/-- A task in the incoming queue: the steps of the run at which it was posted and at which its
wakeup arrived, and the number of waits it has sat through. -/
structure QueuedTask (τ : Type*) where
  task : τ
  postedAt : ℕ
  wakeupAt : Option ℕ
  waits : ℕ
  deriving DecidableEq, Repr

/-- A pump, the time in microseconds, and the tasks posted and not yet taken. -/
structure PumpClock (τ : Type*) where
  now : ℤ
  stage : PumpStage
  queue : List (QueuedTask τ)
  /-- Whether a wakeup has arrived that the pump has not seen yet. -/
  wakeup : Bool
  /-- The number of steps so far. -/
  steps : ℕ
  /-- The step at which the last blocking call returned. -/
  returnedAt : ℕ
  deriving DecidableEq, Repr

/-- The steps of a run. -/
inductive PumpStep (τ : Type*)
  /-- Another thread posts a task. -/
  | post (task : τ)
  /-- The wakeup of a queued task arrives; one that is dropped never does. -/
  | wakeup (i : ℕ)
  /-- Time passes. -/
  | elapse (d : ℕ)
  /-- `DoWork` takes the queued tasks and the delegate returns `info`. -/
  | doWork (info : NextWorkInfo)
  /-- The loop starts again: immediate work, idle work or an I/O event. -/
  | again
  /-- In the pass over the native events libevent calls `select_dispatch`. -/
  | passSelect (asked : Option Timeval)
  /-- A `select` of the pass returns, with other I/O events to process or without. -/
  | passReturns (ioEvents : Bool)
  /-- `MessagePumpDefault` enters its wait. -/
  | timedWait
  /-- `MessagePumpLibevent` enters `event_base_loop` to block. -/
  | eventBaseLoop (asked : Option Timeval)
  /-- The wait is ended by a wakeup or an I/O event. -/
  | wake
  /-- The blocking call times out; if the timer is not due yet, libevent asks for `asked`. -/
  | timeOut (asked : Option Timeval)

namespace PumpClock

variable {τ : Type*}

/-- A pump before its first `DoWork`. -/
def init : PumpClock τ := ⟨0, .doWork, [], false, 0, 0⟩

/-- The queue when a wait begins: the tasks in it sit through one more. -/
def sitThrough (queue : List (QueuedTask τ)) : List (QueuedTask τ) :=
  queue.map fun t => { t with waits := t.waits + 1 }

/-- A task as it is posted: during a wait it sits through the rest of it. -/
def newTask (s : PumpClock τ) (task : τ) : QueuedTask τ :=
  ⟨task, s.steps, none, if s.stage.wait?.isSome then 1 else 0⟩

/-- The wakeup of the task at an index of the queue arrives. -/
def wakeTask (s : PumpClock τ) (i : ℕ) : List (QueuedTask τ) :=
  s.queue.modify i fun t => { t with wakeupAt := t.wakeupAt.or (some s.steps) }

/-- Whether time can pass: not at the beginning of `DoWork`, which follows the end of a wait at
once, and in a blocking call no longer than its timeout. -/
def canElapse (s : PumpClock τ) (d : ℕ) : Bool :=
  match s.stage with
  | .doWork => false
  | .running _ _ => true
  | .pass w _ _ => s.now + d ≤ w.start + w.limit
  | .waiting w => s.now + d ≤ w.start + w.limit

/-- A wait begins. -/
def beginWait (s : PumpClock τ) (stage : PumpStage) : PumpClock τ :=
  { s with stage := stage, queue := sitThrough s.queue }

/-- A wait ends; what has woken the pump is gone. -/
def endWait (s : PumpClock τ) (stage : PumpStage) : PumpClock τ :=
  { s with stage := stage, wakeup := false, returnedAt := s.steps }

/-- What a step does, the count of the steps left out. -/
def act (pump : PumpKind) (s : PumpClock τ) : PumpStep τ → Option (PumpClock τ)
  | .post task => some { s with queue := s.queue ++ [s.newTask task] }
  | .wakeup i =>
    if i < s.queue.length then some { s with queue := s.wakeTask i, wakeup := true } else none
  | .elapse d => if s.canElapse d then some { s with now := s.now + d } else none
  | .doWork info =>
    match s.stage with
    | .doWork => some { s with stage := .running info false, queue := [] }
    | _ => none
  | .again =>
    match s.stage with
    | .running _ _ => some { s with stage := .doWork }
    | _ => none
  | .passSelect asked =>
    match pump, s.stage with
    | .messagePumpLibevent, .running info processed =>
      some (s.beginWait (.pass (selectWait s.now s.now asked) info processed))
    | _, _ => none
  | .passReturns ioEvents =>
    match s.stage with
    | .pass _ info processed =>
      -- `OnWakeup` breaks the loop, and what it has processed sends the pump back to `DoWork`.
      if s.wakeup then some (s.endWait .doWork)
      else some (s.endWait (.running info (processed || ioEvents)))
    | _ => none
  | .timedWait =>
    match pump, s.stage with
    | .messagePumpDefault, .running info false =>
      if info = .immediate then none
      else some (s.beginWait (.waiting (ChromiumQnx.timedWait info s.now)))
    | _, _ => none
  | .eventBaseLoop asked =>
    match pump, s.stage with
    | .messagePumpLibevent, .running info false =>
      let deadline := s.now + messagePumpLibeventTimerDelay info
      if info ≠ .immediate ∧ WaitsForTimer deadline s.now asked then
        some (s.beginWait (.waiting (selectWait deadline s.now asked)))
      else none
    | _, _ => none
  | .wake =>
    match s.stage with
    | .waiting _ => some (s.endWait .doWork)
    | _ => none
  | .timeOut asked =>
    match s.stage with
    | .waiting w =>
      if s.now = w.start + w.limit then
        if w.deadline ≤ s.now then some (s.endWait .doWork)
        else if WaitsForTimer w.deadline s.now asked then
          some ((s.endWait .doWork).beginWait (.waiting (selectWait w.deadline s.now asked)))
        else none
      else none
    | _ => none

/-- One step of a pump and its clock. -/
def step (pump : PumpKind) (s : PumpClock τ) (e : PumpStep τ) : Option (PumpClock τ) :=
  (s.act pump e).map fun s' => { s' with steps := s'.steps + 1 }

/-- The current wait lasts at most 50 ms, and no task in the queue has sat through more than one. -/
def WaitsBounded (s : PumpClock τ) : Prop :=
  (∀ w ∈ s.stage.wait?, w.limit ≤ milliseconds 50 ∧ s.now ≤ w.start + milliseconds 50) ∧
    ∀ t ∈ s.queue, t.waits ≤ 1

instance : DecidablePred (WaitsBounded (τ := τ)) :=
  fun s => inferInstanceAs (Decidable (_ ∧ ∀ t ∈ s.queue, t.waits ≤ 1))

/-- Every task posted before the last blocking call returned has had its wakeup arrive before this
as well: it was neither dropped nor late. -/
def WakeupsInTime (s : PumpClock τ) : Prop :=
  ∀ t ∈ s.queue, t.postedAt < s.returnedAt → ∃ a ∈ t.wakeupAt, a < s.returnedAt

/-- The condition on a step: when `MessagePumpLibevent` calls `select` in its pass or to block, the
tasks posted before its last `select` returned have had their wakeups in time, and when
`MessagePumpDefault` enters its wait, it has not been given a delayed task due in more than
50 ms. -/
def WaitsShort (s : PumpClock τ) : PumpStep τ → Prop
  | .passSelect _ | .eventBaseLoop _ => s.WakeupsInTime
  | .timedWait => ∀ remainingDelay processed,
      s.stage = .running (.delayed remainingDelay) processed → remainingDelay ≤ milliseconds 50
  | _ => True

/-! ## The invariant -/

/-- The invariant of a wait: at most 50 ms, not overrun, and long enough for its timer. -/
structure WaitInvariant (now : ℤ) (w : BlockingWait) : Prop where
  limit_le : w.limit ≤ milliseconds 50
  now_le : now ≤ w.start + w.limit
  deadline_le : w.deadline ≤ w.start + w.limit

/-- Between two waits a task has sat through the last one if it was posted before this returned,
which `MessagePumpDefault` has no room for, and a wakeup that has arrived since is still to be
seen. -/
structure BetweenWaits (pump : PumpKind) (s : PumpClock τ) : Prop where
  waits_eq : ∀ t ∈ s.queue, t.waits = if t.postedAt < s.returnedAt then 1 else 0
  posted_le : pump = .messagePumpDefault → ∀ t ∈ s.queue, s.returnedAt ≤ t.postedAt
  wakeup_eq : ∀ t ∈ s.queue, ∀ a ∈ t.wakeupAt, s.wakeup = true ∧ s.returnedAt ≤ a

/-- What the stage says about the clock, the queue and the wakeups. -/
def StageInvariant (pump : PumpKind) (s : PumpClock τ) : Prop :=
  match s.stage with
  | .doWork => ∀ t ∈ s.queue, t.waits ≤ 1
  | .running _ _ => s.BetweenWaits pump
  | .pass w _ _ => pump = .messagePumpLibevent ∧ WaitInvariant s.now w ∧
      (∀ t ∈ s.queue, t.waits = 1) ∧ ∀ t ∈ s.queue, t.wakeupAt.isSome → s.wakeup = true
  | .waiting w => WaitInvariant s.now w ∧ ∀ t ∈ s.queue, t.waits = 1

/-- **The invariant of the runs whose waits are short.** -/
structure PumpInvariant (pump : PumpKind) (s : PumpClock τ) : Prop where
  returnedAt_le : s.returnedAt ≤ s.steps
  postedAt_lt : ∀ t ∈ s.queue, t.postedAt < s.steps
  stageInvariant : s.StageInvariant pump

/-- Every `select` is a wait of at most 50 ms, whatever libevent asks for. -/
lemma waitInvariant_selectWait_self (now : ℤ) (asked : Option Timeval) :
    WaitInvariant now (selectWait now now asked) := by
  have hnow : now ≤ now + max 0 (selectDispatchTimeout asked).micros :=
    Int.le_add_of_nonneg_right (le_max_left _ _)
  exact ⟨max_le (by decide) (micros_selectDispatchTimeout_le asked), hnow, hnow⟩

/-- The `select` for the timer of `MessagePumpLibevent` does not end before it. -/
lemma waitInvariant_selectWait {info : NextWorkInfo} {now : ℤ} {asked : Option Timeval}
    (hasked : WaitsForTimer (now + messagePumpLibeventTimerDelay info) now asked) :
    WaitInvariant now (selectWait (now + messagePumpLibeventTimerDelay info) now asked) := by
  have hself := waitInvariant_selectWait_self now asked
  refine ⟨hself.limit_le, hself.now_le, ?_⟩
  have hdelay := messagePumpLibeventTimerDelay_le info
  have hle := le_micros_selectDispatchTimeout (by omega) hasked
  have hmax := le_max_right 0 (selectDispatchTimeout asked).micros
  change now + messagePumpLibeventTimerDelay info ≤ now + max 0 _
  omega

/-- The wait of `MessagePumpDefault`, if the delayed task it has been given is due within 50 ms. -/
lemma waitInvariant_timedWait {info : NextWorkInfo} (now : ℤ)
    (h : ∀ remainingDelay, info = .delayed remainingDelay → remainingDelay ≤ milliseconds 50) :
    WaitInvariant now (ChromiumQnx.timedWait info now) := by
  have hle : messagePumpDefaultWait info ≤ milliseconds 50 := by
    cases info with
    | immediate => decide
    | isMax => exact le_rfl
    | delayed remainingDelay => exact h remainingDelay rfl
  exact ⟨max_le (by decide) hle, Int.le_add_of_nonneg_right (le_max_left _ _), le_rfl⟩

lemma forall_sitThrough {queue : List (QueuedTask τ)} (p : ℕ → Prop) :
    (∀ t ∈ sitThrough queue, p t.waits) ↔ ∀ t ∈ queue, p (t.waits + 1) := by
  simp [sitThrough]

/-- The tasks that had not sat through a wait sit through the one that begins. -/
lemma waits_sitThrough {queue : List (QueuedTask τ)} (h : ∀ t ∈ queue, t.waits = 0) :
    ∀ t ∈ sitThrough queue, t.waits = 1 :=
  (forall_sitThrough (· = 1)).mpr fun t ht => by rw [h t ht]

/-- If the wakeups have come in time, no task is left that has sat through the last wait: it would
have sent the pump back to `DoWork`. -/
lemma BetweenWaits.waits_eq_zero {pump : PumpKind} {s : PumpClock τ} (h : s.BetweenWaits pump)
    (hwakeups : s.WakeupsInTime) :
    ∀ t ∈ s.queue, t.waits = 0 := by
  intro t ht
  rw [h.waits_eq t ht]
  refine if_neg fun hposted => ?_
  obtain ⟨a, ha, hlt⟩ := hwakeups t ht hposted
  exact absurd (h.wakeup_eq t ht a ha).2 (not_le.mpr hlt)

/-- If the wakeup of some task has not come in time, the task has sat through the last wait. -/
lemma BetweenWaits.exists_waits_eq_one {pump : PumpKind} {s : PumpClock τ}
    (h : s.BetweenWaits pump)
    (hwakeups : ¬ s.WakeupsInTime) : ∃ t ∈ s.queue, t.waits = 1 := by
  obtain ⟨t, ht⟩ := not_forall.mp hwakeups
  obtain ⟨hmem, ht⟩ := Classical.not_imp.mp ht
  obtain ⟨hposted, -⟩ := Classical.not_imp.mp ht
  exact ⟨t, hmem, (h.waits_eq t hmem).trans (if_pos hposted)⟩

/-- The invariant contains the property. -/
lemma StageInvariant.waitsBounded {pump : PumpKind} {s : PumpClock τ}
    (h : s.StageInvariant pump) : s.WaitsBounded := by
  have hwait {w : BlockingWait} (hw : WaitInvariant s.now w) :
      w.limit ≤ milliseconds 50 ∧ s.now ≤ w.start + milliseconds 50 :=
    ⟨hw.limit_le, hw.now_le.trans (by have := hw.limit_le; omega)⟩
  unfold StageInvariant at h
  unfold WaitsBounded
  split at h
  case h_1 hstage => simpa [hstage, PumpStage.wait?] using h
  case h_2 hstage =>
    refine ⟨by simp [hstage, PumpStage.wait?], fun t ht => ?_⟩
    rw [h.waits_eq t ht]
    split <;> decide
  case h_3 w _ _ hstage =>
    exact ⟨by simpa [hstage, PumpStage.wait?] using hwait h.2.1, fun t ht => (h.2.2.1 t ht).le⟩
  case h_4 w hstage =>
    exact ⟨by simpa [hstage, PumpStage.wait?] using hwait h.1, fun t ht => (h.2 t ht).le⟩

/-- **A post.**  The new task goes with the invariant of every stage. -/
lemma PumpInvariant.post {pump : PumpKind} {s : PumpClock τ} (h : s.PumpInvariant pump)
    (task : τ) :
    StageInvariant pump { s with queue := s.queue ++ [s.newTask task] } := by
  have hstage := h.stageInvariant
  have hposted : ¬ s.steps < s.returnedAt := not_lt.mpr h.returnedAt_le
  unfold StageInvariant at hstage ⊢
  split at hstage
  case h_1 heq =>
    simpa [heq, newTask, PumpStage.wait?, or_imp, forall_and] using hstage
  case h_2 heq =>
    simp only [heq]
    refine ⟨?_, ?_, ?_⟩
    · simpa [heq, newTask, PumpStage.wait?, or_imp, forall_and, hposted] using hstage.waits_eq
    · simpa [newTask, or_imp, forall_and, h.returnedAt_le] using hstage.posted_le
    · simpa [newTask, or_imp, forall_and] using hstage.wakeup_eq
  case h_3 heq =>
    simpa [heq, newTask, PumpStage.wait?, or_imp, forall_and] using hstage
  case h_4 heq =>
    simpa [heq, newTask, PumpStage.wait?, or_imp, forall_and] using hstage

/-- What holds of all tasks still holds when the wakeup of one has arrived. -/
lemma forall_wakeTask {s : PumpClock τ} {i : ℕ} {p : QueuedTask τ → Prop}
    (h : ∀ t ∈ s.queue, p t)
    (hwake : ∀ t ∈ s.queue, p { t with wakeupAt := t.wakeupAt.or (some s.steps) }) :
    ∀ t ∈ s.wakeTask i, p t := by
  intro t ht
  obtain ⟨j, hj⟩ := List.mem_iff_getElem?.mp ht
  rw [wakeTask, List.getElem?_modify] at hj
  obtain ⟨t', ht', rfl⟩ := Option.map_eq_some_iff.mp hj
  have hmem := List.mem_of_getElem? ht'
  split_ifs
  · exact hwake t' hmem
  · exact h t' hmem

/-- **A wakeup.**  The pump is going to see it. -/
lemma PumpInvariant.wakeup {pump : PumpKind} {s : PumpClock τ} (h : s.PumpInvariant pump) (i : ℕ) :
    StageInvariant pump { s with queue := s.wakeTask i, wakeup := true } := by
  have hstage := h.stageInvariant
  unfold StageInvariant at hstage ⊢
  split at hstage
  case h_1 heq =>
    simp only [heq]
    exact forall_wakeTask hstage hstage
  case h_2 heq =>
    simp only [heq]
    refine ⟨forall_wakeTask hstage.waits_eq hstage.waits_eq,
      fun hpump => forall_wakeTask (hstage.posted_le hpump) (hstage.posted_le hpump), ?_⟩
    have hle {t : QueuedTask τ} (ht : t ∈ s.queue) : ∀ a ∈ t.wakeupAt, s.returnedAt ≤ a :=
      fun a ha => (hstage.wakeup_eq t ht a ha).2
    refine forall_wakeTask (fun t ht a ha => ⟨rfl, hle ht a ha⟩) fun t ht a ha => ⟨rfl, ?_⟩
    rcases Option.or_eq_some_iff.mp ha with hold | ⟨-, hnew⟩
    · exact hle ht a hold
    · rw [← Option.some.inj hnew]
      exact h.returnedAt_le
  case h_3 heq =>
    simp only [heq]
    exact ⟨hstage.1, hstage.2.1, forall_wakeTask hstage.2.2.1 hstage.2.2.1, fun _ _ _ => trivial⟩
  case h_4 heq =>
    simp only [heq]
    exact ⟨hstage.1, forall_wakeTask hstage.2 hstage.2⟩

/-- The passing of time keeps the invariant: a wait is not overrun. -/
lemma StageInvariant.elapse {pump : PumpKind} {s : PumpClock τ} (h : s.StageInvariant pump)
    {d : ℕ} (hd : s.canElapse d) : StageInvariant pump { s with now := s.now + d } := by
  unfold StageInvariant at h ⊢
  unfold canElapse at hd
  split at h
  all_goals rename_i hstage
  all_goals simp only [hstage] at hd ⊢
  · exact h
  · exact ⟨h.waits_eq, h.posted_le, h.wakeup_eq⟩
  · exact ⟨h.1, ⟨h.2.1.limit_le, of_decide_eq_true hd, h.2.1.deadline_le⟩, h.2.2⟩
  · exact ⟨⟨h.1.limit_le, of_decide_eq_true hd, h.1.deadline_le⟩, h.2⟩

/-- **What a step does.**  A step that meets the condition keeps the invariant of the stage. -/
lemma PumpInvariant.act {pump : PumpKind} {s s' : PumpClock τ} {e : PumpStep τ}
    (h : s.PumpInvariant pump) (hshort : s.WaitsShort e) (hact : s.act pump e = some s') :
    s'.StageInvariant pump := by
  have hstage := h.stageInvariant
  obtain ⟨now, stage, queue, wakeup, steps, returnedAt⟩ := s
  cases e with
  | post task =>
    cases hact
    exact h.post task
  | wakeup i =>
    obtain ⟨-, rfl⟩ := Option.ite_some_none_eq_some.mp hact
    exact h.wakeup i
  | elapse d =>
    obtain ⟨hd, rfl⟩ := Option.ite_some_none_eq_some.mp hact
    exact hstage.elapse hd
  | doWork info =>
    cases stage with
    | doWork =>
      cases hact
      exact ⟨List.forall_mem_nil _, fun _ => List.forall_mem_nil _, List.forall_mem_nil _⟩
    | _ => cases hact
  | again =>
    cases stage with
    | running info processed =>
      cases hact
      intro t ht
      rw [hstage.waits_eq t ht]
      split <;> decide
    | _ => cases hact
  | passSelect asked =>
    match pump, stage, hact with
    | .messagePumpLibevent, .running info processed, hact =>
      cases hact
      refine ⟨rfl, waitInvariant_selectWait_self now asked,
        waits_sitThrough (hstage.waits_eq_zero hshort), ?_⟩
      intro t ht hsome
      obtain ⟨t', ht', rfl⟩ := List.mem_map.mp ht
      obtain ⟨a, ha⟩ := Option.isSome_iff_exists.mp hsome
      exact (hstage.wakeup_eq t' ht' a ha).1
  | passReturns ioEvents =>
    cases stage with
    | pass w info processed =>
      obtain ⟨hpump, -, hwaits, hwakeup⟩ := hstage
      rw [PumpClock.act] at hact
      split_ifs at hact with hseen
      · cases hact
        exact fun t ht => (hwaits t ht).le
      · -- No wakeup has been seen, so the queued tasks have had none.
        cases hact
        refine ⟨fun t ht => ?_, fun hdefault => ?_, fun t ht a ha => ?_⟩
        · exact (hwaits t ht).trans (if_pos (h.postedAt_lt t ht)).symm
        · exact PumpKind.noConfusion (hpump.symm.trans hdefault)
        · exact absurd (hwakeup t ht (Option.isSome_of_mem ha)) hseen
    | _ => cases hact
  | timedWait =>
    match pump, stage, hact with
    | .messagePumpDefault, .running info false, hact =>
      obtain ⟨-, hact⟩ := Option.ite_none_left_eq_some.mp hact
      cases hact
      refine ⟨waitInvariant_timedWait now fun remainingDelay hinfo => ?_, waits_sitThrough ?_⟩
      · exact hshort remainingDelay false (by rw [hinfo])
      · intro t ht
        rw [hstage.waits_eq t ht]
        exact if_neg (not_lt.mpr (hstage.posted_le rfl t ht))
  | eventBaseLoop asked =>
    match pump, stage, hact with
    | .messagePumpLibevent, .running info false, hact =>
      obtain ⟨⟨-, hasked⟩, rfl⟩ := Option.ite_some_none_eq_some.mp hact
      exact ⟨waitInvariant_selectWait hasked, waits_sitThrough (hstage.waits_eq_zero hshort)⟩
  | wake =>
    cases stage with
    | waiting w =>
      cases hact
      exact fun t ht => (hstage.2 t ht).le
    | _ => cases hact
  | timeOut asked =>
    cases stage with
    | waiting w =>
      obtain ⟨hend, hact⟩ := Option.ite_none_right_eq_some.mp hact
      -- The wait was long enough for its timer, so libevent does not call `select` again.
      have hdue : w.deadline ≤ now := hstage.1.deadline_le.trans hend.ge
      rw [if_pos hdue] at hact
      cases hact
      exact fun t ht => (hstage.2 t ht).le
    | _ => cases hact

/-- The count of the steps does not matter to the stage. -/
lemma StageInvariant.tick {pump : PumpKind} {s : PumpClock τ} (h : s.StageInvariant pump) :
    StageInvariant pump { s with steps := s.steps + 1 } := by
  unfold StageInvariant at h ⊢
  split at h
  all_goals rename_i hstage
  all_goals simp only [hstage]
  · exact h
  · exact ⟨h.waits_eq, h.posted_le, h.wakeup_eq⟩
  · exact h
  · exact h

/-- What lies before the present step. -/
structure Past (n : ℕ) (s : PumpClock τ) : Prop where
  steps_eq : s.steps = n
  returnedAt_le : s.returnedAt ≤ n
  postedAt_le : ∀ t ∈ s.queue, t.postedAt ≤ n

lemma Past.beginWait {n : ℕ} {s : PumpClock τ} (h : s.Past n) (stage : PumpStage) :
    (s.beginWait stage).Past n := by
  refine ⟨h.steps_eq, h.returnedAt_le, fun t ht => ?_⟩
  obtain ⟨t', ht', rfl⟩ := List.mem_map.mp ht
  exact h.postedAt_le t' ht'

lemma Past.endWait {n : ℕ} {s : PumpClock τ} (h : s.Past n) (stage : PumpStage) :
    (s.endWait stage).Past n :=
  ⟨h.steps_eq, h.steps_eq.le, h.postedAt_le⟩

/-- A step remembers nothing that comes after it. -/
lemma Past.act {pump : PumpKind} {n : ℕ} {s s' : PumpClock τ} {e : PumpStep τ} (h : s.Past n)
    (hact : s.act pump e = some s') : s'.Past n := by
  cases e with
  | post task =>
    cases hact
    refine ⟨h.steps_eq, h.returnedAt_le, fun t ht => ?_⟩
    rcases List.mem_append.mp ht with hold | hnew
    · exact h.postedAt_le t hold
    · rw [List.mem_singleton.mp hnew]
      exact h.steps_eq.le
  | wakeup i =>
    obtain ⟨-, rfl⟩ := Option.ite_some_none_eq_some.mp hact
    exact ⟨h.steps_eq, h.returnedAt_le, forall_wakeTask h.postedAt_le h.postedAt_le⟩
  | elapse d =>
    obtain ⟨-, rfl⟩ := Option.ite_some_none_eq_some.mp hact
    exact ⟨h.steps_eq, h.returnedAt_le, h.postedAt_le⟩
  | doWork info =>
    rw [PumpClock.act] at hact
    split at hact <;> cases hact
    exact ⟨h.steps_eq, h.returnedAt_le, List.forall_mem_nil _⟩
  | again =>
    rw [PumpClock.act] at hact
    split at hact <;> cases hact
    exact ⟨h.steps_eq, h.returnedAt_le, h.postedAt_le⟩
  | passSelect asked =>
    unfold PumpClock.act at hact
    dsimp only at hact
    split at hact <;> cases hact
    exact h.beginWait _
  | passReturns ioEvents =>
    rw [PumpClock.act] at hact
    split at hact
    · split at hact <;> cases hact <;> exact h.endWait _
    · cases hact
  | timedWait =>
    unfold PumpClock.act at hact
    dsimp only at hact
    split at hact
    · obtain ⟨-, hact⟩ := Option.ite_none_left_eq_some.mp hact
      cases hact
      exact h.beginWait _
    · cases hact
  | eventBaseLoop asked =>
    unfold PumpClock.act at hact
    dsimp only at hact
    split at hact
    · obtain ⟨-, rfl⟩ := Option.ite_some_none_eq_some.mp hact
      exact h.beginWait _
    · cases hact
  | wake =>
    rw [PumpClock.act] at hact
    split at hact <;> cases hact
    exact h.endWait _
  | timeOut asked =>
    rw [PumpClock.act] at hact
    split at hact
    · obtain ⟨-, hact⟩ := Option.ite_none_right_eq_some.mp hact
      split_ifs at hact <;> cases hact
      · exact h.endWait _
      · exact (h.endWait _).beginWait _
    · cases hact

/-- **One step.**  A step that meets the condition keeps the invariant. -/
lemma PumpInvariant.step {pump : PumpKind} {s s' : PumpClock τ} {e : PumpStep τ}
    (h : s.PumpInvariant pump) (hshort : s.WaitsShort e) (hstep : s.step pump e = some s') :
    s'.PumpInvariant pump := by
  obtain ⟨s₁, hact, rfl⟩ := Option.map_eq_some_iff.mp hstep
  have hpast : s.Past s.steps := ⟨rfl, h.returnedAt_le, fun t ht => (h.postedAt_lt t ht).le⟩
  have hpast₁ := hpast.act hact
  refine ⟨?_, fun t ht => ?_, (h.act hshort hact).tick⟩
  · exact (hpast₁.returnedAt_le.trans hpast₁.steps_eq.ge).trans (Nat.le_succ _)
  · exact Nat.lt_succ_of_le ((hpast₁.postedAt_le t ht).trans hpast₁.steps_eq.ge)

/-- A `select` that begins when some wakeup has not come in time is a second wait for its task. -/
lemma BetweenWaits.not_waitsBounded {pump : PumpKind} {s : PumpClock τ} (h : s.BetweenWaits pump)
    (hwakeups : ¬ s.WakeupsInTime) : ¬ ∀ t ∈ sitThrough s.queue, t.waits ≤ 1 := by
  intro hqueue
  obtain ⟨t, ht, hone⟩ := h.exists_waits_eq_one hwakeups
  have htwo := (forall_sitThrough (· ≤ 1)).mp hqueue t ht
  omega

/-- A step that does not meet the condition makes a wait of more than 50 ms, or a second wait that a
task sits through. -/
lemma PumpInvariant.not_waitsBounded {pump : PumpKind} {s s' : PumpClock τ} {e : PumpStep τ}
    (h : s.PumpInvariant pump) (hshort : ¬ s.WaitsShort e) (hstep : s.step pump e = some s') :
    ¬ s'.WaitsBounded := by
  obtain ⟨s₁, hact, rfl⟩ := Option.map_eq_some_iff.mp hstep
  have hstage := h.stageInvariant
  obtain ⟨now, stage, queue, wakeup, steps, returnedAt⟩ := s
  rintro ⟨hwait, hqueue⟩
  cases e with
  | passSelect asked =>
    match pump, stage, hact with
    | .messagePumpLibevent, .running info processed, hact =>
      cases hact
      exact hstage.not_waitsBounded hshort hqueue
  | timedWait =>
    match pump, stage, hact with
    | .messagePumpDefault, .running info false, hact =>
      obtain ⟨-, hact⟩ := Option.ite_none_left_eq_some.mp hact
      cases hact
      refine hshort fun remainingDelay processed hrunning => ?_
      cases hrunning
      exact (le_max_right 0 remainingDelay).trans (hwait _ rfl).1
  | eventBaseLoop asked =>
    match pump, stage, hact with
    | .messagePumpLibevent, .running info false, hact =>
      obtain ⟨-, rfl⟩ := Option.ite_some_none_eq_some.mp hact
      exact hstage.not_waitsBounded hshort hqueue
  | _ => exact hshort trivial

/-! ## Runs -/

lemma pumpInvariant_init (pump : PumpKind) : PumpInvariant pump (init (τ := τ)) :=
  ⟨le_rfl, List.forall_mem_nil _, List.forall_mem_nil _⟩

/-- **Bounded waits.**  In every run of a pump the waits last at most 50 ms and no task is left in
the queue over two of them, if and only if, whenever `MessagePumpLibevent` calls `select` again
before the next `DoWork`, the wakeups of the tasks posted before the last `select` returned were in
time, and `MessagePumpDefault` only waits for delayed tasks due within 50 ms. -/
theorem waitsBounded_always_iff (pump : PumpKind) (steps : List (PumpStep τ)) :
    Always (step pump) WaitsBounded init steps ↔
      StepsMeet (step pump) WaitsShort init steps :=
  always_iff_stepsMeet (pumpInvariant_init pump)
    (fun _ h => h.stageInvariant.waitsBounded) (fun _ _ _ h hshort hstep => h.step hshort hstep)
    (fun _ _ _ h hshort hstep => h.not_waitsBounded hshort hstep) steps

/-- A delayed task due in ten seconds makes `MessagePumpDefault` wait as long, and a task posted
then with its signal dropped is still queued after one second. -/
theorem delayedTask_not_waitsBounded :
    ¬ ∀ (pump : PumpKind) (steps : List (PumpStep ℕ)),
      Always (step pump) WaitsBounded init steps := by
  intro h
  have hrun := h .messagePumpDefault
    [.doWork (.delayed (milliseconds 10000)), .timedWait, .post 7, .elapse 1000000]
  exact absurd hrun (by decide)

/-- A task posted in the pass of `MessagePumpLibevent` sits through two waits if its wakeup is
dropped. -/
example : ¬ Always (step .messagePumpLibevent) WaitsBounded init
    [.doWork .isMax, .passSelect (some ⟨0, 0⟩), .post 7, .passReturns false,
      .eventBaseLoop none] := by
  decide

end PumpClock

end ChromiumQnx
