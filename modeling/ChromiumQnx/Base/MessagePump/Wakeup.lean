import ChromiumQnx.Foundation.TransitionSystem
import ChromiumQnx.Foundation.BoundedFifo
import Mathlib.Logic.Function.Basic

/-!
# The wakeup pipe of the libevent pump

A thread that posts a task to another thread pushes it on the incoming queue
(`TaskQueueImpl::PostImmediateTaskImpl`) and then has `ScheduleWork` write one byte to the
non-blocking wakeup pipe of the pump thread.  The pump thread waits for the pipe to become readable;
`MessagePumpLibevent::OnWakeup` reads until the pipe is empty, so the bytes of several posters are
discarded at once, and `DoWork` runs before the thread waits again.

`WakeupState` is the pump thread and any number of posters, `WakeupState.step` one step of one of
them.  The pump thread is in one of the places `PumpPlace`; the reads of `OnWakeup` and the looks of
`DoWork` at the incoming queue are separate steps, so that posters run in between.  The invariant
`WakeupState.WakeupPending` carries the order push-then-write against drain-then-take: from the
moment `DoWork` has seen the queue empty until the next drain, a task in the queue means a byte in
the pipe or a poster that has not written yet.
-/

namespace ChromiumQnx

open TransitionSystem

/-! ## Posting -/

/-- The thread `PostImmediateTaskImpl` runs on. -/
inductive CurrentThread
  | mainThread
  | notMainThread
  deriving DecidableEq, Repr

/-- The answer of the work deduplicator. -/
inductive ShouldScheduleWork
  | scheduleImmediate
  | notNeeded
  deriving DecidableEq, Repr

/-- Whether `TaskQueueImpl::PostImmediateTaskImpl` calls `ScheduleWork`: on another thread always,
on the main thread as the unpatched computation says. -/
def shouldScheduleWork (current : CurrentThread) (computed : Bool) : Bool :=
  if current = .notMainThread then true else computed

/-- `MessagePumpLibevent::ScheduleWork`: write one byte, a full pipe counting as success. -/
def pumpScheduleWork (pipe : BoundedFifo UInt8) : BoundedFifo UInt8 := (pipe.push? [0]).getD pipe

/-- `ThreadControllerWithMessagePumpImpl::ScheduleWork`. -/
def threadControllerScheduleWork (dedup : ShouldScheduleWork) (hasPump boundToCurrentThread : Bool)
    (pipe : BoundedFifo UInt8) : BoundedFifo UInt8 :=
  if dedup = .scheduleImmediate then pumpScheduleWork pipe
  else if hasPump && !boundToCurrentThread then pumpScheduleWork pipe
  else pipe

/-- What a post does to the pipe after the task has been pushed. -/
def scheduleAfterPush (current : CurrentThread) (computed : Bool) (dedup : ShouldScheduleWork)
    (pipe : BoundedFifo UInt8) : BoundedFifo UInt8 :=
  if shouldScheduleWork current computed then
    threadControllerScheduleWork dedup true (decide (current = .mainThread)) pipe
  else pipe

/-- A post from another thread leaves a byte in the pipe, whatever the deduplicator says. -/
lemma items_scheduleAfterPush_ne_nil (computed : Bool) (dedup : ShouldScheduleWork)
    (pipe : BoundedFifo UInt8) :
    (scheduleAfterPush .notMainThread computed dedup pipe).items ≠ [] := by
  have hwrite : scheduleAfterPush .notMainThread computed dedup pipe = pumpScheduleWork pipe := by
    cases dedup <;> rfl
  rw [hwrite]
  exact pipe.items_getD_push?_ne_nil 0

/-! ## The pump thread and its posters -/

/-- Where the pump thread is in `MessagePumpLibevent::Run`. -/
inductive PumpPlace
  /-- In `DoWork`; `sawEmpty` says that its last look emptied the incoming queue. -/
  | doWork (sawEmpty : Bool)
  /-- In the pass of `event_base_loop` that does not block. -/
  | pass
  /-- Past that pass, before the blocking `select`. -/
  | aboutToBlock
  /-- In the blocking `select`. -/
  | blocked
  /-- In the read loop of `OnWakeup`. -/
  | onWakeup
  deriving DecidableEq, Repr

/-- The places from which the thread can come to block without draining the pipe or looking at the
queue again. -/
def PumpPlace.committed : PumpPlace → Bool
  | doWork sawEmpty => sawEmpty
  | pass | aboutToBlock | blocked => true
  | onWakeup => false

/-- The pump thread, its incoming queue and wakeup pipe, and for every poster whether it is between
its push and its write. -/
structure WakeupState (ι τ : Type*) where
  place : PumpPlace
  queue : List τ
  pipe : BoundedFifo UInt8
  posting : ι → Bool

/-- The steps of the posters and of the pump thread. -/
inductive WakeupStep (ι τ : Type*)
  /-- A poster pushes a task. -/
  | push (i : ι) (task : τ)
  /-- The same poster calls `ScheduleWork`. -/
  | scheduleWork (i : ι) (computed : Bool) (dedup : ShouldScheduleWork)
  /-- `DoWork` takes the `n` oldest tasks. -/
  | takeTasks (n : ℕ)
  /-- `DoWork` returns without immediate work. -/
  | finishDoWork
  /-- The pass ends without an I/O event. -/
  | finishPass
  /-- `DoIdleWork`, another descriptor or a timer asks for more work. -/
  | moreWork
  /-- The thread enters the blocking `select`. -/
  | block
  /-- The pipe is found readable and `OnWakeup` is called. -/
  | wakeup
  /-- `OnWakeup` reads into its buffer of 64 bytes. -/
  | read

namespace WakeupState

variable {ι τ : Type*} [DecidableEq ι]

/-- The pump thread before its first `DoWork`, with no poster under way. -/
def init (pipe : BoundedFifo UInt8) : WakeupState ι τ := ⟨.doWork false, [], pipe, fun _ => false⟩

/-- One step of a poster or of the pump thread. -/
def step (s : WakeupState ι τ) : WakeupStep ι τ → Option (WakeupState ι τ)
  | .push i task =>
    if s.posting i then none
    else some { s with queue := s.queue ++ [task], posting := Function.update s.posting i true }
  | .scheduleWork i computed dedup =>
    if s.posting i then
      some { s with
        pipe := scheduleAfterPush .notMainThread computed dedup s.pipe
        posting := Function.update s.posting i false }
    else none
  | .takeTasks n =>
    match s.place with
    | .doWork _ =>
      some { s with place := .doWork (s.queue.drop n).isEmpty, queue := s.queue.drop n }
    | _ => none
  | .finishDoWork => if s.place = .doWork true then some { s with place := .pass } else none
  | .finishPass => if s.place = .pass then some { s with place := .aboutToBlock } else none
  | .moreWork =>
    if s.place = .pass ∨ s.place = .blocked then some { s with place := .doWork false } else none
  | .block => if s.place = .aboutToBlock then some { s with place := .blocked } else none
  | .wakeup =>
    if (s.place = .pass ∨ s.place = .blocked) ∧ s.pipe.items ≠ [] then
      some { s with place := .onWakeup }
    else none
  | .read =>
    if s.place = .onWakeup then
      if s.pipe.items = [] then some { s with place := .doWork false }
      else some { s with pipe := (s.pipe.pop 64).2 }
    else none

/-- From the moment `DoWork` has seen the queue empty until the pipe is drained again, a queued task
is announced by a byte in the pipe or by a poster that has not written yet. -/
def WakeupPending (s : WakeupState ι τ) : Prop :=
  s.place.committed = true → s.queue ≠ [] → s.pipe.items ≠ [] ∨ ∃ i, s.posting i = true

omit [DecidableEq ι] in
/-- Moving between committed places with queue, pipe and posters unchanged keeps the invariant. -/
lemma WakeupPending.of_place {s : WakeupState ι τ} (h : s.WakeupPending) {place : PumpPlace}
    (hplace : place.committed = true → s.place.committed = true) :
    WakeupPending { s with place := place } :=
  fun hc hq => h (hplace hc) hq

omit [DecidableEq ι] in
/-- In a place that is not committed the invariant asks for nothing. -/
lemma wakeupPending_of_not_committed {s : WakeupState ι τ} (h : s.place.committed = false) :
    s.WakeupPending :=
  fun hc => absurd hc (by rw [h]; decide)

/-- **Step lemma.**  Every step of a poster or of the pump thread keeps the invariant. -/
theorem WakeupPending.step {s s' : WakeupState ι τ} {e : WakeupStep ι τ} (h : s.WakeupPending)
    (hstep : WakeupState.step s e = some s') : s'.WakeupPending := by
  cases e with
  | push i task =>
    obtain ⟨-, hs'⟩ := Option.ite_none_left_eq_some.mp hstep
    cases hs'
    exact fun _ _ => Or.inr ⟨i, Function.update_self ..⟩
  | scheduleWork i computed dedup =>
    obtain ⟨-, rfl⟩ := Option.ite_some_none_eq_some.mp hstep
    exact fun _ _ => Or.inl (items_scheduleAfterPush_ne_nil computed dedup s.pipe)
  | takeTasks n =>
    rw [WakeupState.step] at hstep
    split at hstep
    · cases hstep
      -- the new place is committed only when the look has emptied the queue
      exact fun hc hq => absurd (List.isEmpty_iff.mp hc) hq
    · cases hstep
  | finishDoWork =>
    obtain ⟨hplace, rfl⟩ := Option.ite_some_none_eq_some.mp hstep
    exact h.of_place fun _ => by rw [hplace]; rfl
  | finishPass =>
    obtain ⟨hplace, rfl⟩ := Option.ite_some_none_eq_some.mp hstep
    exact h.of_place fun _ => by rw [hplace]; rfl
  | moreWork =>
    obtain ⟨-, rfl⟩ := Option.ite_some_none_eq_some.mp hstep
    exact wakeupPending_of_not_committed rfl
  | block =>
    obtain ⟨hplace, rfl⟩ := Option.ite_some_none_eq_some.mp hstep
    exact h.of_place fun _ => by rw [hplace]; rfl
  | wakeup =>
    obtain ⟨-, rfl⟩ := Option.ite_some_none_eq_some.mp hstep
    exact wakeupPending_of_not_committed rfl
  | read =>
    obtain ⟨hplace, hread⟩ := Option.ite_none_right_eq_some.mp hstep
    split at hread
    · cases hread
      exact wakeupPending_of_not_committed rfl
    · cases hread
      exact wakeupPending_of_not_committed (by rw [hplace]; rfl)

/-- **No lost wakeup.**  Over any number of posters and any interleaving, whenever the pump thread
is blocked or about to block while a task is in the incoming queue and no poster is between its push
and its write, the wakeup pipe is not empty. -/
theorem wakeupPipe_ne_nil_always (pipe : BoundedFifo UInt8) (steps : List (WakeupStep ι τ)) :
    Always step
      (fun s => s.place = .blocked ∨ s.place = .aboutToBlock → s.queue ≠ [] →
        (∀ i, s.posting i = false) → s.pipe.items ≠ [])
      (init pipe) steps := by
  refine always_of_forall_reachable steps fun s hs hplace hqueue hposting => ?_
  have hpending : s.WakeupPending :=
    hs.invariant (wakeupPending_of_not_committed rfl) fun _ _ _ h hstep => h.step hstep
  have hcommitted : s.place.committed = true := by
    rcases hplace with h | h <;> rw [h] <;> rfl
  rcases hpending hcommitted hqueue with hpipe | ⟨i, hi⟩
  · exact hpipe
  · rw [hposting i] at hi
    cases hi

end WakeupState

end ChromiumQnx
