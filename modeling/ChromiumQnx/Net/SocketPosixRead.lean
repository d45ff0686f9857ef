import ChromiumQnx.Foundation.TransitionSystem
import ChromiumQnx.Foundation.WeakPtr
import Mathlib.Data.List.Count
import Mathlib.Data.List.Perm.Basic

/-!
# Reads and their poll chains

`SocketPosix::ReadIfReady` watches the socket for read-readiness and, on QNX, also starts a chain of
hops: a delayed task `QnxPollForRead`, a `select` of five seconds in the thread pool, a task
`QnxReadSelectDone` with its result, and when that is a timeout the next `select`, up to twelve
times. The tasks of the chain are bound to weak pointers and return at once when there is no read.

`ReadSocket.step` is one step of the socket: an operation of the consumer, a notification of
libevent, or one of the hops in flight.  Reads are numbered as they are accepted and descriptors as
they are opened; a `select` carries the numbers that were current when it started, and the record of
a completed read carries those of the `select` that completed it.

A completion invalidates the weak pointers, but `CancelReadIfReady` and `Close` do not, so the chain
of a cancelled read is still alive when the next read is accepted.
`ReadSocket.readsIsolated_always_iff` says that this is the only way to mix up reads.
-/

namespace ChromiumQnx

open TransitionSystem

/-! ## Hops and completions -/

/-- The read and the descriptor that were current when a `select` started. -/
structure SelectTag where
  read : ℕ
  descriptor : ℕ
  deriving DecidableEq, Repr

/-- How far a hop is. -/
inductive HopStage
  /-- The delayed task `QnxPollForRead` is queued. -/
  | pollTask
  /-- The thread pool is in `select`. -/
  | selecting (tag : SelectTag)
  /-- The task `QnxReadSelectDone` is queued with the result of `select`. -/
  | selectDone (tag : SelectTag) (selResult : ℤ)
  deriving DecidableEq, Repr

/-- A hop in flight, with the weak pointer it is bound to. -/
structure Hop where
  weak : WeakPtr
  stage : HopStage
  deriving DecidableEq, Repr

/-- A hop belongs to a read on a descriptor: if its `select` has started, it started for them. -/
def HopStage.IsFor (tag : SelectTag) : HopStage → Prop
  | pollTask => True
  | selecting t => t = tag
  | selectDone t _ => t = tag

/-- What `read_if_ready_callback_` is run with: `OK`, `ERR_CONNECTION_TIMED_OUT`, or what
`MapSystemError` makes of `errno`. -/
inductive ReadOutcome
  | ok
  | connectionTimedOut
  | mapSystemError (errno : ℤ)
  deriving DecidableEq, Repr

/-- A run of the callback: the read it was, the descriptor at that time, the `select` that led to it
unless it was libevent, and the outcome. -/
structure ReadCompletion where
  read : ℕ
  descriptor : ℕ
  select : Option SelectTag
  outcome : ReadOutcome
  deriving DecidableEq, Repr

/-! ## The socket -/

/-- The members of a `SocketPosix` that reads use, and what is in flight. -/
structure ReadSocket where
  /-- Whether `socket_fd_` is valid. -/
  isOpen : Bool
  /-- The number of the open descriptor. -/
  descriptor : ℕ
  /-- `read_if_ready_callback_`, with the number of its read. -/
  readIfReadyCallback : Option ℕ
  /-- Whether `read_socket_watcher_` is watching. -/
  watching : Bool
  /-- `qnx_read_poll_count_`. -/
  qnxReadPollCount : ℕ
  /-- `weak_factory_`. -/
  weakFactory : WeakPtrFactory
  hops : List Hop
  /-- The number of the next read. -/
  nextRead : ℕ
  completions : List ReadCompletion
  /-- For every `select` whose timeout was counted, the read it was started for. -/
  timeouts : List ℕ
  deriving DecidableEq, Repr

namespace ReadSocket

/-- A socket with its first descriptor. -/
def init : ReadSocket := ⟨true, 0, none, false, 0, ⟨0⟩, [], 0, [], []⟩

/-- A hop whose weak pointer is valid: its task is not dropped when it runs. -/
def isLive (s : ReadSocket) (hop : Hop) : Bool := s.weakFactory.isValid hop.weak

/-- Put a hop in flight. -/
def pushHop (s : ReadSocket) (hop : Hop) : ReadSocket := { s with hops := s.hops ++ [hop] }

/-- Take hop number `i` out. -/
def popHop (s : ReadSocket) (i : ℕ) : ReadSocket := { s with hops := s.hops.eraseIdx i }

/-- Stop watching, invalidate the weak pointers and run the callback, if it is not null. -/
def complete (s : ReadSocket) (select : Option SelectTag) (outcome : ReadOutcome) : ReadSocket :=
  match s.readIfReadyCallback with
  | none => s
  | some read =>
    { s with
      watching := false
      weakFactory := s.weakFactory.invalidateWeakPtrs
      readIfReadyCallback := none
      completions := s.completions ++ [⟨read, s.descriptor, select, outcome⟩] }

/-- The members of the socket while a new read is pending. -/
def beginRead (s : ReadSocket) : ReadSocket :=
  { s with
    watching := true
    readIfReadyCallback := some s.nextRead
    nextRead := s.nextRead + 1
    qnxReadPollCount := 0 }

/-- The end of `ReadIfReady` when the read is accepted. -/
def acceptRead (s : ReadSocket) : ReadSocket :=
  s.beginRead.pushHop ⟨s.weakFactory.getWeakPtr, .pollTask⟩

/-- `QnxPollForRead`. -/
def qnxPollForRead (s : ReadSocket) : ReadSocket :=
  match s.readIfReadyCallback with
  | none => s
  | some read => s.pushHop ⟨s.weakFactory.getWeakPtr, .selecting ⟨read, s.descriptor⟩⟩

/-- Count the timeout of a `select`. -/
def countTimeout (s : ReadSocket) (tag : SelectTag) : ReadSocket :=
  { s with
    qnxReadPollCount := s.qnxReadPollCount + 1
    timeouts := s.timeouts ++ [tag.read] }

/-- `QnxReadSelectDone`. -/
def qnxReadSelectDone (s : ReadSocket) (tag : SelectTag) (selResult errno : ℤ) : ReadSocket :=
  if s.readIfReadyCallback.isNone then s
  else if selResult > 0 then s.complete (some tag) .ok
  else if selResult = 0 then
    let s := s.countTimeout tag
    if s.qnxReadPollCount < 12 then s.qnxPollForRead
    else s.complete (some tag) .connectionTimedOut
  else s.complete (some tag) (.mapSystemError errno)

/-- What can happen. -/
inductive Event
  /-- `ReadIfReady`, when `DoRead` would block or not and the descriptor can be watched or not. -/
  | readIfReady (doReadPending watchOk : Bool)
  | cancelReadIfReady
  | close
  /-- Another descriptor is opened. -/
  | reopen
  /-- libevent reports that the socket is readable. -/
  | onFileCanReadWithoutBlocking
  /-- The queued task of hop `i` runs `QnxPollForRead`. -/
  | runPollTask (i : ℕ)
  /-- The `select` of hop `i` returns and its result is posted. -/
  | selectReturns (i : ℕ) (selResult : ℤ)
  /-- The queued task of hop `i` runs `QnxReadSelectDone`. -/
  | runSelectDone (i : ℕ) (errno : ℤ)
  deriving DecidableEq, Repr

/-- One step.  The task of a hop that is not live does nothing. -/
def step (s : ReadSocket) : Event → Option ReadSocket
  | .readIfReady doReadPending watchOk =>
    if s.isOpen && s.readIfReadyCallback.isNone then
      some (if doReadPending && watchOk then s.acceptRead else s)
    else none
  | .cancelReadIfReady =>
    if s.readIfReadyCallback.isSome then
      some { s with watching := false, readIfReadyCallback := none }
    else none
  | .close =>
    if s.isOpen then
      some { s with isOpen := false, watching := false, readIfReadyCallback := none }
    else none
  | .reopen =>
    if s.isOpen then none else some { s with isOpen := true, descriptor := s.descriptor + 1 }
  | .onFileCanReadWithoutBlocking =>
    if s.watching && s.readIfReadyCallback.isSome then some (s.complete none .ok) else none
  | .runPollTask i =>
    s.hops[i]?.bind fun hop =>
      match hop.stage with
      | .pollTask =>
        some (if s.isLive hop then (s.popHop i).qnxPollForRead else s.popHop i)
      | _ => none
  | .selectReturns i selResult =>
    s.hops[i]?.bind fun hop =>
      match hop.stage with
      | .selecting tag => some ((s.popHop i).pushHop ⟨hop.weak, .selectDone tag selResult⟩)
      | _ => none
  | .runSelectDone i errno =>
    s.hops[i]?.bind fun hop =>
      match hop.stage with
      | .selectDone tag selResult =>
        some (if s.isLive hop then (s.popHop i).qnxReadSelectDone tag selResult errno
          else s.popHop i)
      | _ => none

/-! ## The property -/

/-- The number of live hops in flight. -/
def liveHops (s : ReadSocket) : ℕ := s.hops.countP s.isLive

/-- **Reads are isolated from each other.**  Each read is completed at most once; a `select`
completes only the read and on the descriptor it was started for; a read times out only after twelve
timeouts of its own; and while a read is pending at most one chain is alive. -/
structure ReadsIsolated (s : ReadSocket) : Prop where
  nodup : (s.completions.map ReadCompletion.read).Nodup
  own_select : ∀ c ∈ s.completions, ∀ tag ∈ c.select, tag = ⟨c.read, c.descriptor⟩
  own_timeouts : ∀ c ∈ s.completions, c.outcome = .connectionTimedOut →
    12 ≤ s.timeouts.count c.read
  one_chain : s.readIfReadyCallback.isSome → s.liveHops ≤ 1

/-- The condition on a step: a read is accepted only when no hop of an earlier read is alive. -/
def NoStaleHop (s : ReadSocket) : Event → Prop
  | .readIfReady doReadPending watchOk => doReadPending → watchOk → s.liveHops = 0
  | _ => True

/-! ## The invariant -/

/-- What is recorded: completed reads are distinct and completed as they should be, and the pending
read is none of them. -/
structure HistoryOk (s : ReadSocket) : Prop where
  nodup : (s.completions.map ReadCompletion.read).Nodup
  own_select : ∀ c ∈ s.completions, ∀ tag ∈ c.select, tag = ⟨c.read, c.descriptor⟩
  own_timeouts : ∀ c ∈ s.completions, c.outcome = .connectionTimedOut →
    12 ≤ s.timeouts.count c.read
  completion_lt : ∀ c ∈ s.completions, c.read < s.nextRead
  timeout_lt : ∀ read ∈ s.timeouts, read < s.nextRead
  callback_lt : ∀ read ∈ s.readIfReadyCallback, read < s.nextRead
  callback_not_mem : ∀ read ∈ s.readIfReadyCallback,
    read ∉ s.completions.map ReadCompletion.read

/-- What is in flight: while a read is pending there is at most one live hop, it belongs to this
read and to the open descriptor, and the count is the number of timeouts of this read. -/
structure ChainOk (s : ReadSocket) : Prop where
  issued : ∀ hop ∈ s.hops, s.weakFactory.Issued hop.weak
  callback_open : s.readIfReadyCallback.isSome → s.isOpen = true
  one_chain : s.readIfReadyCallback.isSome → s.liveHops ≤ 1
  own_hop : ∀ read ∈ s.readIfReadyCallback, ∀ hop ∈ s.hops, s.isLive hop →
    hop.stage.IsFor ⟨read, s.descriptor⟩
  count_eq : ∀ read ∈ s.readIfReadyCallback, s.qnxReadPollCount = s.timeouts.count read

/-- **The invariant.** -/
structure ReadInvariant (s : ReadSocket) : Prop where
  history : s.HistoryOk
  chain : s.ChainOk

variable {s s' : ReadSocket}

lemma readInvariant_init : ReadInvariant init where
  history := ⟨List.nodup_nil, List.forall_mem_nil _, List.forall_mem_nil _, List.forall_mem_nil _,
    List.forall_mem_nil _, nofun, nofun⟩
  chain := ⟨List.forall_mem_nil _, nofun, nofun, nofun, nofun⟩

/-- The invariant contains the property. -/
lemma ReadInvariant.readsIsolated (h : s.ReadInvariant) : s.ReadsIsolated :=
  ⟨h.history.nodup, h.history.own_select, h.history.own_timeouts, h.chain.one_chain⟩

/-! ## Hops -/

/-- Taking a live hop out leaves one live hop less. -/
lemma liveHops_popHop {i : ℕ} {hop : Hop} (hget : s.hops[i]? = some hop) (hlive : s.isLive hop) :
    (s.popHop i).liveHops + 1 = s.liveHops := by
  obtain ⟨hi, rfl⟩ := List.getElem?_eq_some_iff.mp hget
  have hperm := (List.getElem_cons_eraseIdx_perm hi).countP_eq s.isLive
  rw [List.countP_cons, if_pos hlive] at hperm
  exact hperm

lemma liveHops_pushHop (s : ReadSocket) (hop : Hop) :
    (s.pushHop hop).liveHops = s.liveHops + if s.isLive hop then 1 else 0 := by
  rw [liveHops, pushHop, List.countP_append, List.countP_singleton]
  rfl

/-- Without live hops no hop is live. -/
lemma isLive_eq_false (h : s.liveHops = 0) {hop : Hop} (hmem : hop ∈ s.hops) :
    s.isLive hop = false := by
  simpa using List.countP_eq_zero.mp h hop hmem

/-- Taking a hop out keeps the chain. -/
lemma ChainOk.popHop (h : s.ChainOk) (i : ℕ) : (s.popHop i).ChainOk where
  issued hop hmem := h.issued hop (List.mem_of_mem_eraseIdx hmem)
  callback_open := h.callback_open
  one_chain hcallback :=
    ((List.eraseIdx_sublist s.hops i).countP_le).trans (h.one_chain hcallback)
  own_hop read hread hop hmem := h.own_hop read hread hop (List.mem_of_mem_eraseIdx hmem)
  count_eq := h.count_eq

/-- A new hop goes with the chain, if it is dead or the only live one and belongs to the read. -/
lemma ChainOk.pushHop (h : s.ChainOk) {hop : Hop} (hissued : s.weakFactory.Issued hop.weak)
    (hown : s.isLive hop → ∀ read ∈ s.readIfReadyCallback, s.liveHops = 0 ∧
      hop.stage.IsFor ⟨read, s.descriptor⟩) : (s.pushHop hop).ChainOk where
  issued := List.forall_mem_append.mpr ⟨h.issued, List.forall_mem_singleton.mpr hissued⟩
  callback_open := h.callback_open
  one_chain hcallback := by
    rw [liveHops_pushHop]
    obtain ⟨read, hread⟩ := Option.isSome_iff_exists.mp hcallback
    split_ifs with hlive
    · rw [(hown hlive read hread).1]
    · exact h.one_chain hcallback
  own_hop read hread := List.forall_mem_append.mpr
    ⟨h.own_hop read hread, List.forall_mem_singleton.mpr fun hlive => (hown hlive read hread).2⟩
  count_eq := h.count_eq

/-- Without a read there is nothing to say about the chain. -/
lemma ChainOk.of_callback_eq_none (hissued : ∀ hop ∈ s.hops, s.weakFactory.Issued hop.weak)
    (hnone : s.readIfReadyCallback = none) : s.ChainOk where
  issued := hissued
  callback_open h := by simp [hnone] at h
  one_chain h := by simp [hnone] at h
  own_hop read h := by simp [hnone] at h
  count_eq read h := by simp [hnone] at h

/-- The records do not depend on what is in flight. -/
lemma HistoryOk.setHops (h : s.HistoryOk) (hops : List Hop) : HistoryOk { s with hops := hops } :=
  ⟨h.nodup, h.own_select, h.own_timeouts, h.completion_lt, h.timeout_lt, h.callback_lt,
    h.callback_not_mem⟩

/-- Cancelling the read keeps the records. -/
lemma HistoryOk.dropCallback (h : s.HistoryOk) (isOpen watching : Bool) :
    HistoryOk { s with
      isOpen := isOpen
      watching := watching
      readIfReadyCallback := none } :=
  ⟨h.nodup, h.own_select, h.own_timeouts, h.completion_lt, h.timeout_lt, nofun, nofun⟩

/-! ## Completions, timeouts and new reads -/

/-- **A completion** of the pending read, by libevent or by its own `select`. -/
lemma ReadInvariant.complete (h : s.ReadInvariant) {select : Option SelectTag}
    {outcome : ReadOutcome}
    (hselect : ∀ read ∈ s.readIfReadyCallback, ∀ tag ∈ select, tag = ⟨read, s.descriptor⟩)
    (htimeouts : ∀ read ∈ s.readIfReadyCallback, outcome = .connectionTimedOut →
      12 ≤ s.timeouts.count read) : (s.complete select outcome).ReadInvariant := by
  unfold ReadSocket.complete
  cases hread : s.readIfReadyCallback with
  | none => exact h
  | some read =>
    have hfresh := h.history.callback_not_mem read hread
    refine ⟨⟨?_, ?_, ?_, ?_, h.history.timeout_lt, nofun, nofun⟩,
      .of_callback_eq_none (fun hop hmem => (h.chain.issued hop hmem).invalidateWeakPtrs) rfl⟩
    · rw [List.map_append, List.map_singleton]
      refine List.nodup_append.mpr ⟨h.history.nodup, List.pairwise_singleton _ _, ?_⟩
      rintro r hr r' hr' rfl
      have heq : r = read := List.mem_singleton.mp hr'
      exact hfresh (heq ▸ hr)
    · exact List.forall_mem_append.mpr
        ⟨h.history.own_select, List.forall_mem_singleton.mpr (hselect read hread)⟩
    · exact List.forall_mem_append.mpr
        ⟨h.history.own_timeouts, List.forall_mem_singleton.mpr (htimeouts read hread)⟩
    · exact List.forall_mem_append.mpr
        ⟨h.history.completion_lt, List.forall_mem_singleton.mpr (h.history.callback_lt read hread)⟩

/-- A timeout of the pending read is counted. -/
lemma ReadInvariant.countTimeout (h : s.ReadInvariant) {tag : SelectTag}
    (htag : s.readIfReadyCallback = some tag.read) : (s.countTimeout tag).ReadInvariant := by
  have hle : ∀ read, s.timeouts.count read ≤ (s.timeouts ++ [tag.read]).count read :=
    fun read => (List.sublist_append_left _ _).count_le read
  refine ⟨⟨h.history.nodup, h.history.own_select,
    fun c hc hout => (h.history.own_timeouts c hc hout).trans (hle _), h.history.completion_lt,
    ?_, h.history.callback_lt, h.history.callback_not_mem⟩,
    ⟨h.chain.issued, h.chain.callback_open, h.chain.one_chain, h.chain.own_hop, ?_⟩⟩
  · exact List.forall_mem_append.mpr ⟨h.history.timeout_lt,
      List.forall_mem_singleton.mpr (h.history.callback_lt _ htag)⟩
  · intro read hread
    have heq : read = tag.read := Option.some.inj (hread.symm.trans htag)
    subst heq
    change s.qnxReadPollCount + 1 = (s.timeouts ++ [tag.read]).count tag.read
    rw [List.count_append, List.count_singleton_self, h.chain.count_eq _ htag]

/-- **A new read** starts its chain when no hop is alive. -/
lemma ReadInvariant.acceptRead (h : s.ReadInvariant) (hopen : s.isOpen = true)
    (hnone : s.liveHops = 0) : s.acceptRead.ReadInvariant := by
  have hfresh : s.nextRead ∉ s.completions.map ReadCompletion.read := by
    intro hmem
    obtain ⟨c, hc, hread⟩ := List.mem_map.mp hmem
    exact absurd (h.history.completion_lt c hc) (hread ▸ lt_irrefl _)
  have hcount : s.timeouts.count s.nextRead = 0 :=
    List.count_eq_zero.mpr fun hmem => lt_irrefl _ (h.history.timeout_lt _ hmem)
  have hbegin : s.beginRead.ReadInvariant := by
    refine ⟨⟨h.history.nodup, h.history.own_select, h.history.own_timeouts,
      fun c hc => Nat.lt_succ_of_lt (h.history.completion_lt c hc),
      fun read hread => Nat.lt_succ_of_lt (h.history.timeout_lt read hread), ?_, ?_⟩,
      ⟨h.chain.issued, fun _ => hopen, fun _ => hnone.trans_le (Nat.zero_le 1), ?_, ?_⟩⟩
    · rintro _ ⟨⟩
      exact Nat.lt_succ_self _
    · rintro _ ⟨⟩
      exact hfresh
    · intro read _ hop hmem hlive
      exact absurd ((isLive_eq_false hnone hmem).symm.trans hlive) nofun
    · rintro _ ⟨⟩
      exact hcount.symm
  exact ⟨hbegin.history.setHops _, hbegin.chain.pushHop (WeakPtrFactory.issued_getWeakPtr _)
    fun _ _ _ => ⟨hnone, trivial⟩⟩

/-- The next `select` of the pending read. -/
lemma ReadInvariant.qnxPollForRead (h : s.ReadInvariant)
    (hnone : s.readIfReadyCallback.isSome → s.liveHops = 0) :
    s.qnxPollForRead.ReadInvariant := by
  unfold ReadSocket.qnxPollForRead
  cases hread : s.readIfReadyCallback with
  | none => exact h
  | some read =>
    refine ⟨h.history.setHops _, h.chain.pushHop (WeakPtrFactory.issued_getWeakPtr _)
      fun _ read' hread' => ?_⟩
    have heq : read = read' := Option.some.inj (hread.symm.trans hread')
    exact ⟨hnone (Option.isSome_of_mem hread), by rw [heq]; rfl⟩

/-- **The result of a `select`** of the pending read completes the read, or is counted. -/
lemma ReadInvariant.qnxReadSelectDone (h : s.ReadInvariant)
    (hnone : s.readIfReadyCallback.isSome → s.liveHops = 0) {tag : SelectTag}
    (htag : ∀ read ∈ s.readIfReadyCallback, tag = ⟨read, s.descriptor⟩) (selResult errno : ℤ) :
    (s.qnxReadSelectDone tag selResult errno).ReadInvariant := by
  have hselect : ∀ read ∈ s.readIfReadyCallback, ∀ t ∈ some tag, t = ⟨read, s.descriptor⟩ := by
    rintro read hread _ ⟨⟩
    exact htag read hread
  unfold ReadSocket.qnxReadSelectDone
  split_ifs with hnull hready hzero
  · exact h
  · exact h.complete hselect fun _ _ hout => by cases hout
  · obtain ⟨read, hread⟩ := Option.ne_none_iff_exists'.mp (mt Option.isNone_iff_eq_none.mpr hnull)
    have hown : s.readIfReadyCallback = some tag.read := by rw [htag read hread, hread]
    have hcounted := h.countTimeout hown
    dsimp only
    split_ifs with hlimit
    · exact hcounted.qnxPollForRead hnone
    · refine hcounted.complete hselect fun read hread _ => ?_
      rw [← hcounted.chain.count_eq read hread]
      exact not_lt.mp hlimit
  · exact h.complete hselect fun _ _ hout => by cases hout

/-! ## Steps -/

/-- Taking a hop out keeps the invariant. -/
lemma ReadInvariant.popHop (h : s.ReadInvariant) (i : ℕ) : (s.popHop i).ReadInvariant :=
  ⟨h.history.setHops _, h.chain.popHop i⟩

/-- While a read is pending, no hop is left alive when a live one is taken out. -/
lemma ReadInvariant.liveHops_popHop (h : s.ReadInvariant) {i : ℕ} {hop : Hop}
    (hget : s.hops[i]? = some hop) (hlive : s.isLive hop) (hread : s.readIfReadyCallback.isSome) :
    (s.popHop i).liveHops = 0 := by
  have hpop := ReadSocket.liveHops_popHop hget hlive
  have hone := h.chain.one_chain hread
  omega

/-- A step that meets the condition keeps the invariant. -/
lemma ReadInvariant.step {e : Event} (h : s.ReadInvariant) (hstale : s.NoStaleHop e)
    (hstep : s.step e = some s') : s'.ReadInvariant := by
  cases e with
  | readIfReady doReadPending watchOk =>
    obtain ⟨hguard, rfl⟩ := Option.ite_some_none_eq_some.mp hstep
    rw [Bool.and_eq_true] at hguard
    split_ifs with haccept
    · rw [Bool.and_eq_true] at haccept
      exact h.acceptRead hguard.1 (hstale haccept.1 haccept.2)
    · exact h
  | cancelReadIfReady =>
    obtain ⟨-, rfl⟩ := Option.ite_some_none_eq_some.mp hstep
    exact ⟨h.history.dropCallback _ _, .of_callback_eq_none h.chain.issued rfl⟩
  | close =>
    obtain ⟨-, rfl⟩ := Option.ite_some_none_eq_some.mp hstep
    exact ⟨h.history.dropCallback _ _, .of_callback_eq_none h.chain.issued rfl⟩
  | reopen =>
    obtain ⟨hclosed, hs'⟩ := Option.ite_none_left_eq_some.mp hstep
    cases hs'
    have hnone : s.readIfReadyCallback = none := by
      by_contra hsome
      exact hclosed (h.chain.callback_open (Option.isSome_iff_ne_none.mpr hsome))
    exact ⟨⟨h.history.nodup, h.history.own_select, h.history.own_timeouts, h.history.completion_lt,
      h.history.timeout_lt, h.history.callback_lt, h.history.callback_not_mem⟩,
      .of_callback_eq_none h.chain.issued hnone⟩
  | onFileCanReadWithoutBlocking =>
    obtain ⟨-, rfl⟩ := Option.ite_some_none_eq_some.mp hstep
    exact h.complete (fun _ _ _ htag => by cases htag) fun _ _ hout => by cases hout
  | runPollTask i =>
    obtain ⟨⟨weak, stage⟩, hget, hstep⟩ := Option.bind_eq_some_iff.mp hstep
    cases stage with
    | pollTask =>
      cases hstep
      split_ifs with hlive
      · exact (h.popHop i).qnxPollForRead (h.liveHops_popHop hget hlive)
      · exact h.popHop i
    | _ => cases hstep
  | selectReturns i selResult =>
    obtain ⟨⟨weak, stage⟩, hget, hstep⟩ := Option.bind_eq_some_iff.mp hstep
    cases stage with
    | selecting tag =>
      cases hstep
      have hpop := h.popHop i
      have hmem := List.mem_of_getElem? hget
      have hissued := h.chain.issued _ hmem
      refine ⟨hpop.history.setHops _, hpop.chain.pushHop hissued fun hlive read hread => ?_⟩
      have hown := h.chain.own_hop read hread ⟨weak, .selecting tag⟩ hmem hlive
      exact ⟨h.liveHops_popHop hget hlive (Option.isSome_of_mem hread), hown⟩
    | _ => cases hstep
  | runSelectDone i errno =>
    obtain ⟨⟨weak, stage⟩, hget, hstep⟩ := Option.bind_eq_some_iff.mp hstep
    cases stage with
    | selectDone tag selResult =>
      cases hstep
      split_ifs with hlive
      · exact (h.popHop i).qnxReadSelectDone (h.liveHops_popHop hget hlive)
          (fun read hread => h.chain.own_hop read hread _ (List.mem_of_getElem? hget) hlive) _ _
      · exact h.popHop i
    | _ => cases hstep

/-- Accepting a read while an old hop is alive makes two live chains. -/
lemma not_readsIsolated_of_not_noStaleHop {e : Event} (hstale : ¬ s.NoStaleHop e)
    (hstep : s.step e = some s') : ¬ s'.ReadsIsolated := by
  cases e with
  | readIfReady doReadPending watchOk =>
    obtain ⟨-, rfl⟩ := Option.ite_some_none_eq_some.mp hstep
    obtain ⟨rfl, hrest⟩ := Classical.not_imp.mp hstale
    obtain ⟨rfl, hlive⟩ := Classical.not_imp.mp hrest
    intro hisolated
    have hone : s.acceptRead.liveHops ≤ 1 := hisolated.one_chain rfl
    have hnew : s.beginRead.isLive ⟨s.weakFactory.getWeakPtr, .pollTask⟩ :=
      WeakPtrFactory.isValid_getWeakPtr _
    have htwo : s.acceptRead.liveHops = s.liveHops + 1 := by
      rw [acceptRead, liveHops_pushHop, if_pos hnew]
      rfl
    omega
  | _ => exact absurd trivial hstale

/-! ## Runs -/

/-- **Reads and their chains.**  Throughout a run reads are isolated from each other, if and only if
every read is accepted at a time when no hop of an earlier read is alive. -/
theorem readsIsolated_always_iff (events : List Event) :
    Always step ReadsIsolated init events ↔ StepsMeet step NoStaleHop init events :=
  always_iff_stepsMeet readInvariant_init (fun _ h => h.readsIsolated)
    (fun _ _ _ h hstale hstep => h.step hstale hstep)
    (fun _ _ _ _ hstale hstep => not_readsIsolated_of_not_noStaleHop hstale hstep) events

/-- The `select` of a cancelled read completes the next one. -/
theorem cancelledSelect_not_readsIsolated :
    ¬ ∀ events : List Event, Always step ReadsIsolated init events := by
  intro h
  have hrun := always_iff_forall_prefix.mp
    (h [.readIfReady true true, .runPollTask 0, .cancelReadIfReady, .readIfReady true true,
      .selectReturns 0 1, .runSelectDone 1 0]) _ List.prefix_rfl _ rfl
  exact absurd hrun.own_select (by decide)

end ReadSocket

end ChromiumQnx
