import ChromiumQnx.Foundation.TransitionSystem
import ChromiumQnx.Foundation.WeakPtr
import Mathlib.Data.List.Basic

/-!
# A pending connect

`SocketPosix::Connect` watches the socket for write-readiness and, on QNX, also posts a delayed task
`QnxPollForConnect` that asks `select` whether the socket is writable.  Either of the two calls
`ConnectCompleted`, which reads `SO_ERROR` and returns early when it maps to `ERR_IO_PENDING`.  A
poll that finds the socket not writable posts the next one, up to 1500 times.

`PendingConnect.step` is one step of a pending connect: a notification of libevent, or one of the
queued poll tasks, with any outcome of `select` and any `SO_ERROR`.  `PendingConnect.PollAlive` says
that as long as the connect is pending exactly one poll task is queued for it, and that otherwise
its callback has run once.

The poll posts no next task after it has called `ConnectCompleted`, so it is lost when that returns
early.  `PendingConnect.pollAlive_always_iff` says that this is the only way to lose it.
-/

namespace ChromiumQnx

open TransitionSystem

/-! ## Network errors -/

/-- `net::ERR_IO_PENDING`. -/
def errIoPending : ℤ := -1

/-- `net::ERR_CONNECTION_TIMED_OUT`. -/
def errConnectionTimedOut : ℤ := -118

/-! ## The members of the socket -/

/-- The members of a `SocketPosix` that a pending connect uses, and the tasks in the queue of its
thread. -/
structure PendingConnect where
  /-- `waiting_connect_`. -/
  waitingConnect : Bool
  /-- Whether `write_callback_` is not null. -/
  writeCallback : Bool
  /-- Whether `write_socket_watcher_` is watching. -/
  watching : Bool
  /-- `qnx_connect_poll_count_`. -/
  qnxConnectPollCount : ℕ
  /-- `weak_factory_`. -/
  weakFactory : WeakPtrFactory
  /-- The queued tasks `QnxPollForConnect`, each bound to its weak pointer. -/
  pollTasks : List WeakPtr
  /-- How many poll tasks have run since the connect began. -/
  pollRuns : ℕ
  /-- The errors `write_callback_` has been run with. -/
  callbackRuns : List ℤ
  deriving DecidableEq, Repr

namespace PendingConnect

variable (mapConnectError : ℤ → ℤ)

/-- The state in which `Connect` returns `ERR_IO_PENDING`. -/
def start : PendingConnect :=
  ⟨true, true, true, 0, ⟨0⟩, [WeakPtrFactory.getWeakPtr ⟨0⟩], 0, []⟩

/-- Stop watching, invalidate the weak pointers and run the callback with `rv`. -/
def finish (s : PendingConnect) (rv : ℤ) : PendingConnect :=
  { s with
    watching := false
    waitingConnect := false
    weakFactory := s.weakFactory.invalidateWeakPtrs
    writeCallback := false
    callbackRuns := s.callbackRuns ++ [rv] }

/-- `ConnectCompleted`, when `getsockopt` finds `osError` in `SO_ERROR`. -/
def connectCompleted (s : PendingConnect) (osError : ℤ) : PendingConnect :=
  let rv := mapConnectError osError
  if rv = errIoPending then s else s.finish rv

/-- `QnxPollForConnect`, when `select` returns `selRv`. -/
def qnxPollForConnect (s : PendingConnect) (selRv osError : ℤ) : PendingConnect :=
  if !s.waitingConnect || !s.writeCallback then s
  else if selRv > 0 then s.connectCompleted mapConnectError osError
  else
    let s := { s with qnxConnectPollCount := s.qnxConnectPollCount + 1 }
    if s.qnxConnectPollCount > 1500 then s.finish errConnectionTimedOut
    else { s with pollTasks := s.pollTasks ++ [s.weakFactory.getWeakPtr] }

/-- What can happen to a pending connect. -/
inductive Event
  /-- libevent reports that the socket is writable. -/
  | onFileCanWriteWithoutBlocking (osError : ℤ)
  /-- The queued task number `i` runs. -/
  | runPollTask (i : ℕ) (selRv osError : ℤ)
  deriving DecidableEq, Repr

/-- One step. -/
def step (s : PendingConnect) : Event → Option PendingConnect
  | .onFileCanWriteWithoutBlocking osError =>
    if s.watching && s.waitingConnect then some (s.connectCompleted mapConnectError osError)
    else none
  | .runPollTask i selRv osError =>
    s.pollTasks[i]?.map fun weak =>
      let popped := { s with pollTasks := s.pollTasks.eraseIdx i }
      if s.weakFactory.isValid weak then
        let counted := { popped with pollRuns := popped.pollRuns + 1 }
        counted.qnxPollForConnect mapConnectError selRv osError
      else popped

/-! ## The property -/

/-- The number of queued poll tasks of this connect. -/
def livePolls (s : PendingConnect) : ℕ := s.pollTasks.countP s.weakFactory.isValid

/-- The connect is pending. -/
def isPending (s : PendingConnect) : Bool := s.waitingConnect && s.writeCallback

/-- The connect has ended: its callback has run once, with the result of the connect, or with
`ERR_CONNECTION_TIMED_OUT` after 1501 polls. -/
def Ended (s : PendingConnect) : Prop :=
  ∃ rv, s.callbackRuns = [rv] ∧
    ((∃ osError, rv = mapConnectError osError ∧ rv ≠ errIoPending) ∨
      rv = errConnectionTimedOut ∧ s.pollRuns = 1501)

/-- **The poll is alive.**  While the connect is pending, exactly one poll task is queued for it,
the callback has not run, and at most 1500 polls have run; afterwards the connect has ended. -/
def PollAlive (s : PendingConnect) : Prop :=
  if s.isPending then s.livePolls = 1 ∧ s.callbackRuns = [] ∧ s.pollRuns ≤ 1500
  else s.Ended mapConnectError

/-- The condition on a step: a poll that finds the socket writable while the connect is pending does
not see an `SO_ERROR` that maps to `ERR_IO_PENDING`. -/
def SeesResult (s : PendingConnect) : Event → Prop
  | .onFileCanWriteWithoutBlocking _ => True
  | .runPollTask i selRv osError =>
    ∀ weak ∈ s.pollTasks[i]?, s.weakFactory.isValid weak → s.isPending → selRv > 0 →
      mapConnectError osError ≠ errIoPending

/-! ## The invariant -/

/-- The invariant while the connect is pending: the one queued task is its poll, and the poll count
counts the polls. -/
structure Waiting (s : PendingConnect) : Prop where
  waitingConnect : s.waitingConnect = true
  writeCallback : s.writeCallback = true
  pollTasks : s.pollTasks = [s.weakFactory.getWeakPtr]
  callbackRuns : s.callbackRuns = []
  count_eq : s.qnxConnectPollCount = s.pollRuns
  count_le : s.qnxConnectPollCount ≤ 1500

/-- The invariant afterwards: nothing is watched, the tasks left in the queue are dead, and the
connect has ended. -/
structure Over (s : PendingConnect) : Prop where
  waitingConnect : s.waitingConnect = false
  dead : ∀ weak ∈ s.pollTasks, s.weakFactory.isValid weak = false
  ended : s.Ended mapConnectError

variable {mapConnectError} {s s' : PendingConnect}

lemma waiting_start : Waiting start := ⟨rfl, rfl, rfl, rfl, rfl, Nat.zero_le _⟩

lemma Waiting.pollAlive (h : s.Waiting) : s.PollAlive mapConnectError := by
  rw [PollAlive, isPending, h.waitingConnect, h.writeCallback, Bool.true_and, if_pos rfl, livePolls,
    h.pollTasks]
  refine ⟨?_, h.callbackRuns, h.count_eq ▸ h.count_le⟩
  rw [List.countP_cons, List.countP_nil, if_pos (WeakPtrFactory.isValid_getWeakPtr _)]

lemma Over.pollAlive (h : s.Over mapConnectError) : s.PollAlive mapConnectError := by
  rw [PollAlive, isPending, h.waitingConnect, Bool.false_and, if_neg nofun]
  exact h.ended

/-- Finishing a connect whose tasks have all been made by its factory kills them. -/
lemma over_finish {rv : ℤ} (hissued : ∀ weak ∈ s.pollTasks, s.weakFactory.Issued weak)
    (hruns : s.callbackRuns = [])
    (hrv : (∃ osError, rv = mapConnectError osError ∧ rv ≠ errIoPending) ∨
      rv = errConnectionTimedOut ∧ s.pollRuns = 1501) :
    (s.finish rv).Over mapConnectError where
  waitingConnect := rfl
  dead weak hweak := WeakPtrFactory.isValid_invalidateWeakPtrs (hissued weak hweak)
  ended := ⟨rv, by rw [finish, hruns]; rfl, hrv⟩

/-- `ConnectCompleted` with a result ends the connect. -/
lemma over_connectCompleted {osError : ℤ} (h : mapConnectError osError ≠ errIoPending)
    (hissued : ∀ weak ∈ s.pollTasks, s.weakFactory.Issued weak) (hruns : s.callbackRuns = []) :
    (s.connectCompleted mapConnectError osError).Over mapConnectError := by
  rw [connectCompleted, if_neg h]
  exact over_finish hissued hruns (Or.inl ⟨osError, rfl, h⟩)

/-- A notification of libevent completes the connect or leaves it as it is. -/
lemma Waiting.onFileCanWriteWithoutBlocking (h : s.Waiting) (osError : ℤ) :
    (s.connectCompleted mapConnectError osError).Waiting ∨
      (s.connectCompleted mapConnectError osError).Over mapConnectError := by
  by_cases hpending : mapConnectError osError = errIoPending
  · left
    rwa [connectCompleted, if_pos hpending]
  · right
    refine over_connectCompleted hpending (fun weak hweak => ?_) h.callbackRuns
    rw [h.pollTasks, List.mem_singleton] at hweak
    exact hweak ▸ WeakPtrFactory.issued_getWeakPtr _

/-- **A poll** ends the connect, or posts the next one and counts. -/
lemma Waiting.qnxPollForConnect (h : s.Waiting) {selRv osError : ℤ}
    (hresult : selRv > 0 → mapConnectError osError ≠ errIoPending) :
    let counted := { s with pollTasks := [], pollRuns := s.pollRuns + 1 }
    (counted.qnxPollForConnect mapConnectError selRv osError).Waiting ∨
      (counted.qnxPollForConnect mapConnectError selRv osError).Over mapConnectError := by
  intro counted
  have hpending : (!counted.waitingConnect || !counted.writeCallback) = false := by
    simp [counted, h.waitingConnect, h.writeCallback]
  unfold PendingConnect.qnxPollForConnect
  rw [if_neg (by rw [hpending]; decide)]
  dsimp only
  split_ifs with hsel hlimit
  · exact Or.inr (over_connectCompleted (hresult hsel) (List.forall_mem_nil _) h.callbackRuns)
  · refine Or.inr (over_finish (List.forall_mem_nil _) h.callbackRuns (Or.inr ⟨rfl, ?_⟩))
    have hcount := h.count_eq
    have hle := h.count_le
    change s.qnxConnectPollCount + 1 > 1500 at hlimit
    change s.pollRuns + 1 = 1501
    omega
  · left
    refine ⟨h.waitingConnect, h.writeCallback, rfl, h.callbackRuns, ?_, not_lt.mp hlimit⟩
    exact congrArg (· + 1) h.count_eq

/-- The only task that can run while the connect is pending is its poll. -/
lemma Waiting.runPollTask (h : s.Waiting) {i : ℕ} {selRv osError : ℤ}
    (hstep : s.step mapConnectError (.runPollTask i selRv osError) = some s') :
    i = 0 ∧ s' = { s with pollTasks := [], pollRuns := s.pollRuns + 1 }.qnxPollForConnect
      mapConnectError selRv osError := by
  obtain ⟨weak, hget, rfl⟩ := Option.map_eq_some_iff.mp hstep
  rw [h.pollTasks] at hget
  cases i with
  | zero =>
    cases hget
    rw [if_pos (WeakPtrFactory.isValid_getWeakPtr _), h.pollTasks]
    exact ⟨rfl, rfl⟩
  | succ i => cases hget

/-- A step that meets the condition keeps the invariant. -/
lemma Waiting.step {e : Event} (h : s.Waiting) (hsees : s.SeesResult mapConnectError e)
    (hstep : s.step mapConnectError e = some s') : s'.Waiting ∨ s'.Over mapConnectError := by
  cases e with
  | onFileCanWriteWithoutBlocking osError =>
    obtain ⟨-, rfl⟩ := Option.ite_some_none_eq_some.mp hstep
    exact h.onFileCanWriteWithoutBlocking osError
  | runPollTask i selRv osError =>
    obtain ⟨rfl, hpoll⟩ := h.runPollTask hstep
    have hvalid := WeakPtrFactory.isValid_getWeakPtr s.weakFactory
    have hpending : s.isPending = true := by
      rw [isPending, h.waitingConnect, h.writeCallback, Bool.and_self]
    have hget : s.weakFactory.getWeakPtr ∈ s.pollTasks[0]? := by rw [h.pollTasks]; rfl
    rw [hpoll]
    exact h.qnxPollForConnect (hsees _ hget hvalid hpending)

/-- After the end nothing but dead tasks can run. -/
lemma Over.step {e : Event} (h : s.Over mapConnectError)
    (hstep : s.step mapConnectError e = some s') : s'.Over mapConnectError := by
  cases e with
  | onFileCanWriteWithoutBlocking osError =>
    obtain ⟨hwatching, -⟩ := Option.ite_none_right_eq_some.mp hstep
    rw [h.waitingConnect, Bool.and_false] at hwatching
    cases hwatching
  | runPollTask i selRv osError =>
    obtain ⟨weak, hget, rfl⟩ := Option.map_eq_some_iff.mp hstep
    rw [if_neg (by rw [h.dead weak (List.mem_of_getElem? hget)]; decide)]
    exact ⟨h.waitingConnect, fun weak hweak => h.dead weak (List.mem_of_mem_eraseIdx hweak),
      h.ended⟩

/-- After the end every step meets the condition. -/
lemma Over.seesResult (h : s.Over mapConnectError) (e : Event) :
    s.SeesResult mapConnectError e := by
  cases e with
  | onFileCanWriteWithoutBlocking osError => trivial
  | runPollTask i selRv osError =>
    intro weak hweak hvalid
    rw [h.dead weak (List.mem_of_getElem? hweak)] at hvalid
    cases hvalid

/-- A step that does not meet the condition loses the poll. -/
lemma Waiting.not_pollAlive {e : Event} (h : s.Waiting) (hsees : ¬ s.SeesResult mapConnectError e)
    (hstep : s.step mapConnectError e = some s') : ¬ s'.PollAlive mapConnectError := by
  cases e with
  | onFileCanWriteWithoutBlocking osError => exact absurd trivial hsees
  | runPollTask i selRv osError =>
    obtain ⟨rfl, hpoll⟩ := h.runPollTask hstep
    have hlost : selRv > 0 ∧ mapConnectError osError = errIoPending := by
      by_contra hnot
      exact hsees fun _ _ _ _ hsel hpending => hnot ⟨hsel, hpending⟩
    have hs' : s' = { s with pollTasks := [], pollRuns := s.pollRuns + 1 } := by
      rw [hpoll]
      simp [PendingConnect.qnxPollForConnect, connectCompleted, h.waitingConnect, h.writeCallback,
        hlost]
    rw [hs', PollAlive, isPending, h.waitingConnect, h.writeCallback, Bool.true_and, if_pos rfl]
    rintro ⟨hlive, -⟩
    cases hlive

/-! ## Runs -/

/-- **The poll of a pending connect.**  In every run, while the connect is pending exactly one poll
is queued, and otherwise its callback has run exactly once, with the result or, after 1501 polls,
with `ERR_CONNECTION_TIMED_OUT`; this holds if and only if no poll that finds the socket writable
sees an `SO_ERROR` that maps to `ERR_IO_PENDING`. -/
theorem pollAlive_always_iff (mapConnectError : ℤ → ℤ) (events : List Event) :
    Always (step mapConnectError) (PollAlive mapConnectError) start events ↔
      StepsMeet (step mapConnectError) (SeesResult mapConnectError) start events := by
  refine always_iff_stepsMeet (I := fun s => s.Waiting ∨ s.Over mapConnectError)
    (Or.inl waiting_start) ?_ ?_ ?_ events
  · rintro s (h | h)
    · exact h.pollAlive
    · exact h.pollAlive
  · rintro s e s' (h | h) hsees hstep
    · exact h.step hsees hstep
    · exact Or.inr (h.step hstep)
  · rintro s e s' (h | h) hsees hstep
    · exact h.not_pollAlive hsees hstep
    · exact absurd (h.seesResult e) hsees

/-- `MapConnectError` on `EINPROGRESS`, and on the other values as if they were network errors. -/
def mapConnectErrorExample (osError : ℤ) : ℤ := if osError = 236 then errIoPending else osError

/-- When `select` says writable while `SO_ERROR` is `EINPROGRESS`, the connect is left without a
poll. -/
theorem earlyReturn_not_pollAlive :
    ¬ ∀ (mapConnectError : ℤ → ℤ) (events : List Event),
      Always (step mapConnectError) (PollAlive mapConnectError) start events := by
  intro h
  have hrun := always_iff_forall_prefix.mp (h mapConnectErrorExample [.runPollTask 0 1 236])
    _ List.prefix_rfl _ rfl
  exact absurd hrun.1 (by decide)

end PendingConnect

end ChromiumQnx
