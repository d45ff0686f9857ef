import ChromiumQnx.Net.SocketPosixRead

/-!
# The error codes of reads

`errno` belongs to a thread and holds the code of the last call of that thread that failed.
`SocketPosix::DoRead` writes a trace line between the `read` and the `MapSystemError(errno)` that
interprets its failure.  The `select` of a poll runs on a thread of the pool, and only its result
travels to `QnxReadSelectDone`, which runs on the IO thread and maps the `errno` of that thread.

`ErrnoRun` is a socket (`ReadSocket`) together with the `errno` of all threads and, for every hop
whose `select` has returned, the outcome of this `select`.  It records every error together with the
call it is about.  The callback and the weak pointers are those of the socket, so
`QnxReadSelectDone` reports nothing when the read has been cancelled or its weak pointer is invalid.
The main result says exactly when each error is the one of its own call.
-/

namespace ChromiumQnx

open TransitionSystem

/-! ## System calls -/

/-- The outcome of a system call: its value, or the code it sets when it fails. -/
inductive SysResult
  | ok (value : ℕ)
  | failed (errno : ℤ)
  deriving DecidableEq, Repr

/-- What the call returns. -/
def SysResult.rv : SysResult → ℤ
  | .ok value => value
  | .failed _ => -1

/-- The `errno` of the calling thread after the call. -/
def SysResult.setErrno (errno : ℤ) : SysResult → ℤ
  | .ok _ => errno
  | .failed e => e

/-- The threads: the IO thread and those of the pool. -/
inductive Thread
  | io
  | pool (worker : ℕ)
  deriving DecidableEq, Repr

/-- `MapSystemError` and the two codes of a call that would block. -/
structure SystemErrorMap where
  mapSystemError : ℤ → ℤ
  eagain : ℤ
  errIoPending : ℤ
  map_eagain : mapSystemError eagain = errIoPending

/-- `SocketPosix::DoRead`, given the outcome of the `read` that `HANDLE_EINTR` returns and those of
the two trace writes: the returned value, and the thread's `errno` afterwards. -/
def doRead (m : SystemErrorMap) (read trace hexTrace : SysResult) (errno : ℤ) : ℤ × ℤ :=
  let rv := read.rv
  let errno := read.setErrno errno
  let errno := trace.setErrno errno
  let errno := if rv > 0 then hexTrace.setErrno errno else errno
  (if rv ≥ 0 then rv else m.mapSystemError errno, errno)

/-- What `QnxReadSelectDone` runs the callback with; nothing when it polls again. -/
def selectDoneOutcome (pollCount : ℕ) (selResult errno : ℤ) : Option ReadOutcome :=
  if selResult > 0 then some .ok
  else if selResult = 0 then
    if pollCount + 1 < 12 then none else some .connectionTimedOut
  else some (.mapSystemError errno)

/-- The outcome is the one that `ReadSocket.qnxReadSelectDone` completes a pending read with. -/
theorem completions_qnxReadSelectDone (s : ReadSocket) (tag : SelectTag) (selResult errno : ℤ)
    {read : ℕ} (hread : s.readIfReadyCallback = some read) :
    (s.qnxReadSelectDone tag selResult errno).completions =
      s.completions ++ (selectDoneOutcome s.qnxReadPollCount selResult errno).toList.map
        fun outcome => ⟨read, s.descriptor, some tag, outcome⟩ := by
  unfold ReadSocket.qnxReadSelectDone selectDoneOutcome
  rw [if_neg (by simp [hread])]
  split
  · simp [ReadSocket.complete, hread]
  · split
    · dsimp only [ReadSocket.countTimeout]
      split
      · simp [ReadSocket.qnxPollForRead, hread, ReadSocket.pushHop]
      · simp [ReadSocket.complete, hread]
    · simp [ReadSocket.complete, hread]

/-! ## The hops and their selects -/

/-- The hop an event takes out. -/
def ReadSocket.Event.hopIndex : ReadSocket.Event → Option ℕ
  | .runPollTask i => some i
  | .selectReturns i _ => some i
  | .runSelectDone i _ => some i
  | _ => none

/-- The hops of a socket that are left when an event has taken out its own. -/
def eraseHop {α : Type*} (hops : List α) (e : ReadSocket.Event) : List α :=
  match e.hopIndex with
  | some i => hops.eraseIdx i
  | none => hops

/-- A hop whose `select` has returned has the outcome of this `select`. -/
def Hop.Matches (hop : Hop) (select : Option SysResult) : Prop :=
  ∀ tag selResult, hop.stage = .selectDone tag selResult →
    ∃ result, select = some result ∧ result.rv = selResult

/-- A hop without a result. -/
def Hop.Unfinished (hop : Hop) : Prop := ∀ tag selResult, hop.stage ≠ .selectDone tag selResult

namespace ReadSocket

lemma hops_complete (s : ReadSocket) (select : Option SelectTag) (outcome : ReadOutcome) :
    (s.complete select outcome).hops = s.hops := by
  unfold complete
  split <;> rfl

/-- `QnxPollForRead` puts at most a `select` in flight. -/
lemma hops_qnxPollForRead (s : ReadSocket) :
    ∃ pushed, s.qnxPollForRead.hops = s.hops ++ pushed ∧ ∀ hop ∈ pushed, hop.Unfinished := by
  unfold qnxPollForRead
  split
  · exact ⟨[], (List.append_nil _).symm, List.forall_mem_nil _⟩
  · exact ⟨_, rfl, List.forall_mem_singleton.mpr fun _ _ => nofun⟩

/-- `QnxReadSelectDone` puts at most the next `select` in flight. -/
lemma hops_qnxReadSelectDone (s : ReadSocket) (tag : SelectTag) (selResult errno : ℤ) :
    ∃ pushed, (s.qnxReadSelectDone tag selResult errno).hops = s.hops ++ pushed ∧
      ∀ hop ∈ pushed, hop.Unfinished := by
  have hcomplete (s' : ReadSocket) (hs' : s'.hops = s.hops) (outcome : ReadOutcome) :
      ∃ pushed, (s'.complete (some tag) outcome).hops = s.hops ++ pushed ∧
        ∀ hop ∈ pushed, hop.Unfinished := by
    refine ⟨[], ?_, List.forall_mem_nil _⟩
    rw [hops_complete, hs', List.append_nil]
  unfold qnxReadSelectDone
  dsimp only
  split_ifs
  · exact ⟨[], (List.append_nil _).symm, List.forall_mem_nil _⟩
  · exact hcomplete _ rfl _
  · exact (s.countTimeout tag).hops_qnxPollForRead
  · exact hcomplete (s.countTimeout tag) rfl _
  · exact hcomplete _ rfl _

/-- **The hops after a step**: those that are left and, at the end, the new ones.  Only a `select`
that returns makes a hop with a result. -/
lemma hops_step {s s' : ReadSocket} {e : Event} (hstep : s.step e = some s') :
    ∃ pushed, s'.hops = eraseHop s.hops e ++ pushed ∧
      ∀ hop ∈ pushed, hop.Unfinished ∨
        ∃ i tag selResult,
          e = .selectReturns i selResult ∧ hop.stage = .selectDone tag selResult := by
  have hold (hops : List Hop) (h : ∃ pushed, s'.hops = hops ++ pushed ∧
      ∀ hop ∈ pushed, hop.Unfinished) (hhops : hops = eraseHop s.hops e) :
      ∃ pushed, s'.hops = eraseHop s.hops e ++ pushed ∧
        ∀ hop ∈ pushed, hop.Unfinished ∨ ∃ i tag selResult,
          e = .selectReturns i selResult ∧ hop.stage = .selectDone tag selResult := by
    obtain ⟨pushed, hpushed, hunfinished⟩ := h
    exact ⟨pushed, hhops ▸ hpushed, fun hop hmem => Or.inl (hunfinished hop hmem)⟩
  cases e with
  | readIfReady doReadPending watchOk =>
    obtain ⟨-, rfl⟩ := Option.ite_some_none_eq_some.mp hstep
    refine hold s.hops ?_ rfl
    split_ifs
    · exact ⟨_, rfl, List.forall_mem_singleton.mpr fun _ _ => nofun⟩
    · exact ⟨[], (List.append_nil _).symm, List.forall_mem_nil _⟩
  | cancelReadIfReady =>
    obtain ⟨-, rfl⟩ := Option.ite_some_none_eq_some.mp hstep
    exact hold _ ⟨[], (List.append_nil s.hops).symm, List.forall_mem_nil _⟩ rfl
  | close =>
    obtain ⟨-, rfl⟩ := Option.ite_some_none_eq_some.mp hstep
    exact hold _ ⟨[], (List.append_nil s.hops).symm, List.forall_mem_nil _⟩ rfl
  | reopen =>
    obtain ⟨-, hs'⟩ := Option.ite_none_left_eq_some.mp hstep
    cases hs'
    exact hold _ ⟨[], (List.append_nil s.hops).symm, List.forall_mem_nil _⟩ rfl
  | onFileCanReadWithoutBlocking =>
    obtain ⟨-, rfl⟩ := Option.ite_some_none_eq_some.mp hstep
    refine hold s.hops ⟨[], ?_, List.forall_mem_nil _⟩ rfl
    rw [hops_complete, List.append_nil]
  | runPollTask i =>
    obtain ⟨⟨weak, stage⟩, -, hstep⟩ := Option.bind_eq_some_iff.mp hstep
    cases stage with
    | pollTask =>
      cases hstep
      refine hold (s.popHop i).hops ?_ rfl
      split_ifs
      · exact (s.popHop i).hops_qnxPollForRead
      · exact ⟨[], (List.append_nil _).symm, List.forall_mem_nil _⟩
    | _ => cases hstep
  | selectReturns i selResult =>
    obtain ⟨⟨weak, stage⟩, -, hstep⟩ := Option.bind_eq_some_iff.mp hstep
    cases stage with
    | selecting tag =>
      cases hstep
      exact ⟨_, rfl, List.forall_mem_singleton.mpr (Or.inr ⟨i, tag, selResult, rfl, rfl⟩)⟩
    | _ => cases hstep
  | runSelectDone i errno =>
    obtain ⟨⟨weak, stage⟩, -, hstep⟩ := Option.bind_eq_some_iff.mp hstep
    cases stage with
    | selectDone tag selResult =>
      cases hstep
      refine hold (s.popHop i).hops ?_ rfl
      split_ifs
      · exact (s.popHop i).hops_qnxReadSelectDone tag selResult errno
      · exact ⟨[], (List.append_nil _).symm, List.forall_mem_nil _⟩
    | _ => cases hstep

end ReadSocket

/-! ## Any number of calls -/

/-- A socket, the `errno` of every thread, for each hop of the socket the outcome of its `select`
once this has returned, and what has been reported so far: each value of `DoRead` with the outcome
of its `read`, and each run of the callback by `QnxReadSelectDone` with the outcome of its
`select`. -/
structure ErrnoRun where
  socket : ReadSocket
  errno : Thread → ℤ
  selects : List (Option SysResult)
  reads : List (SysResult × ℤ)
  callbacks : List (SysResult × ReadOutcome)

/-- What can happen. -/
inductive ErrnoEvent
  /-- `ReadIfReady` calls `DoRead`, and watches the descriptor if the read would block. -/
  | readIfReady (read trace hexTrace : SysResult) (watchOk : Bool)
  /-- Another operation or hop of the socket. -/
  | socket (e : ReadSocket.Event)
  /-- The `select` of hop `i` returns on a thread of the pool and its result is posted. -/
  | selectReturns (i worker : ℕ) (select : SysResult)
  /-- The task of hop `i` runs `QnxReadSelectDone` on the IO thread. -/
  | selectDone (i : ℕ) (trace stopWatching : SysResult)
  /-- Any other call on any thread. -/
  | otherCall (thread : Thread) (result : SysResult)
  deriving DecidableEq, Repr

namespace ErrnoRun

/-- A call on a thread. -/
def setErrno (s : ErrnoRun) (thread : Thread) (errno : ℤ) : ErrnoRun :=
  { s with errno := Function.update s.errno thread errno }

/-- A step of the socket; a hop that it puts in flight comes with `select`. -/
def socketStep (s : ErrnoRun) (e : ReadSocket.Event) (select : Option SysResult) :
    Option ErrnoRun :=
  (s.socket.step e).map fun socket =>
    let left := eraseHop s.selects e
    { s with
      socket := socket
      selects := left ++ List.replicate (socket.hops.length - left.length) select }

/-- The `select` that hop `i` has the result of. -/
def select? (s : ErrnoRun) (i : ℕ) : Option SysResult := s.selects[i]?.join

variable (m : SystemErrorMap)

/-- One step. -/
def step (s : ErrnoRun) : ErrnoEvent → Option ErrnoRun
  | .readIfReady read trace hexTrace watchOk =>
    let (rv, errno) := doRead m read trace hexTrace (s.errno .io)
    (s.socketStep (.readIfReady (rv = m.errIoPending) watchOk) none).map fun s' =>
      { s'.setErrno .io errno with reads := s.reads ++ [(read, rv)] }
  | .socket e =>
    match e with
    | .readIfReady .. | .selectReturns .. | .runSelectDone .. => none
    | e => s.socketStep e none
  | .selectReturns i worker select =>
    (s.socketStep (.selectReturns i select.rv) (some select)).map fun s' =>
      s'.setErrno (.pool worker) (select.setErrno (s.errno (.pool worker)))
  | .selectDone i trace stopWatching =>
    -- `StopWatchingFileDescriptor` comes before `MapSystemError`
    let errno := stopWatching.setErrno (s.errno .io)
    (s.select? i).bind fun select =>
      (s.socketStep (.runSelectDone i errno) none).map fun s' =>
        let completed := s'.socket.completions.drop s.socket.completions.length
        -- the trace line of a timeout that is polled again
        let polled := s.socket.timeouts.length < s'.socket.timeouts.length
        { s'.setErrno .io
            (if completed ≠ [] then errno
            else if polled then trace.setErrno (s.errno .io) else s.errno .io) with
          callbacks := s.callbacks ++ completed.map fun c => (select, c.outcome) }
  | .otherCall thread result => some (s.setErrno thread (result.setErrno (s.errno thread)))

/-- Nothing has happened yet, and every `errno` is 0. -/
def start : ErrnoRun := ⟨.init, fun _ => 0, [], [], []⟩

/-- What `DoRead` should return. -/
def ownResult : SysResult → ℤ
  | .ok value => value
  | .failed e => m.mapSystemError e

/-- The value of a `DoRead` is that of its own `read`; in particular a `read` that would block gives
`ERR_IO_PENDING`. -/
def ReadOwn (p : SysResult × ℤ) : Prop :=
  p.2 = ownResult m p.1 ∧ (p.1 = .failed m.eagain → p.2 = m.errIoPending)

/-- A callback that is run because its `select` failed is given the error of that `select`. -/
def CallbackOwn (p : SysResult × ReadOutcome) : Prop :=
  ∀ e, p.1 = .failed e →
    ∃ errno, p.2 = .mapSystemError errno ∧ m.mapSystemError errno = m.mapSystemError e

/-- Every reported error is the one its own call set. -/
structure ErrorsOwn (s : ErrnoRun) : Prop where
  reads : ∀ p ∈ s.reads, ReadOwn m p
  callbacks : ∀ p ∈ s.callbacks, CallbackOwn m p

/-- Whether `QnxReadSelectDone` goes beyond its first line for hop `i`: its weak pointer is valid
and a read is pending. -/
def listens (s : ErrnoRun) (i : ℕ) : Bool :=
  s.socket.hops[i]?.any s.socket.isLive && s.socket.readIfReadyCallback.isSome

/-- No failed `read` is followed by a trace write that fails with another error, and when
`QnxReadSelectDone` runs for a failed `select`, with its weak pointer valid and a read pending, the
IO thread's `errno` after `StopWatchingFileDescriptor` maps to the same error. -/
def ErrnoKept (s : ErrnoRun) : ErrnoEvent → Prop
  | .readIfReady (.failed e) (.failed e') _ _ => m.mapSystemError e' = m.mapSystemError e
  | .selectDone i _ stopWatching =>
    match s.select? i with
    | some (.failed e) => s.listens i →
      m.mapSystemError (stopWatching.setErrno (s.errno .io)) = m.mapSystemError e
    | _ => True
  | _ => True

instance (s : ErrnoRun) (e : ErrnoEvent) : Decidable (ErrnoKept m s e) := by
  unfold ErrnoKept
  split
  · infer_instance
  · split <;> infer_instance
  · infer_instance

variable {m}

/-- The value of a `read` that succeeds is returned as it is. -/
lemma doRead_ok (value : ℕ) (trace hexTrace : SysResult) (errno : ℤ) :
    (ChromiumQnx.doRead m (.ok value) trace hexTrace errno).1 = value := by
  simp [ChromiumQnx.doRead, SysResult.rv]

/-- The error of a `read` that fails is mapped after the trace write. -/
lemma doRead_failed (e : ℤ) (trace hexTrace : SysResult) (errno : ℤ) :
    (ChromiumQnx.doRead m (.failed e) trace hexTrace errno).1 =
      m.mapSystemError (trace.setErrno e) := rfl

lemma readOwn_ok_iff {value : ℕ} {rv : ℤ} : ReadOwn m (.ok value, rv) ↔ rv = value := by
  constructor
  · intro h
    exact h.1
  · intro h
    exact ⟨h, nofun⟩

lemma readOwn_failed_iff {e rv : ℤ} :
    ReadOwn m (.failed e, rv) ↔ rv = m.mapSystemError e := by
  constructor
  · intro h
    exact h.1
  · intro h
    refine ⟨h, ?_⟩
    rintro ⟨⟩
    exact h.trans m.map_eagain

/-- A `DoRead` reports the error of its own `read` exactly when the trace write between them keeps
it. -/
lemma readOwn_doRead_iff (s : ErrnoRun) (read trace hexTrace : SysResult) (watchOk : Bool)
    (errno : ℤ) :
    ReadOwn m (read, (ChromiumQnx.doRead m read trace hexTrace errno).1) ↔
      ErrnoKept m s (.readIfReady read trace hexTrace watchOk) := by
  cases read with
  | ok value =>
    rw [doRead_ok, readOwn_ok_iff]
    exact iff_of_true rfl trivial
  | failed e =>
    rw [doRead_failed, readOwn_failed_iff]
    cases trace with
    | ok _ => exact iff_of_true rfl trivial
    | failed e' => exact Iff.rfl

/-- The callback run by `QnxReadSelectDone` is given the error of its own `select` exactly when the
`errno` it reads maps to that error. -/
lemma callbackOwn_selectDoneOutcome_iff (pollCount : ℕ) (select : SysResult) (errno : ℤ) :
    (∀ o ∈ selectDoneOutcome pollCount select.rv errno, CallbackOwn m (select, o)) ↔
      ∀ e, select = .failed e → m.mapSystemError errno = m.mapSystemError e := by
  cases select with
  | ok value => exact iff_of_true (fun o _ e h => nomatch h) (fun e h => nomatch h)
  | failed e =>
    have houtcome : selectDoneOutcome pollCount (SysResult.failed e).rv errno =
        some (.mapSystemError errno) := rfl
    rw [houtcome]
    constructor
    · intro h e' he'
      obtain ⟨errno', heq, hmap⟩ := h _ rfl e' he'
      cases heq
      exact hmap
    · rintro h o ⟨⟩ e' he'
      exact ⟨errno, rfl, h e' he'⟩

/-- The condition on `QnxReadSelectDone` is about the `select` that it runs for. -/
lemma errnoKept_selectDone_iff {s : ErrnoRun} {i : ℕ} {select : SysResult}
    (trace stopWatching : SysResult) (hselect : s.select? i = some select) :
    ErrnoKept m s (.selectDone i trace stopWatching) ↔ (s.listens i → ∀ e, select = .failed e →
      m.mapSystemError (stopWatching.setErrno (s.errno .io)) = m.mapSystemError e) := by
  unfold ErrnoKept
  simp only [hselect]
  cases select with
  | ok value => exact iff_of_true trivial fun _ e h => nomatch h
  | failed e =>
    constructor
    · rintro h hlistens e' ⟨⟩
      exact h hlistens
    · intro h hlistens
      exact h hlistens e rfl

/-! ### The outcomes go with the hops -/

/-- Every hop whose `select` has returned has its outcome. -/
def SelectsRecorded (s : ErrnoRun) : Prop := List.Forall₂ Hop.Matches s.socket.hops s.selects

lemma forall₂_eraseIdx {α β : Type*} {R : α → β → Prop} {as : List α} {bs : List β}
    (h : List.Forall₂ R as bs) (i : ℕ) : List.Forall₂ R (as.eraseIdx i) (bs.eraseIdx i) := by
  induction h generalizing i with
  | nil => exact List.Forall₂.nil
  | cons hr hrest ih =>
    cases i with
    | zero => exact hrest
    | succ i => exact List.Forall₂.cons hr (ih i)

lemma forall₂_replicate {α β : Type*} {R : α → β → Prop} {as : List α} {b : β}
    (h : ∀ a ∈ as, R a b) : List.Forall₂ R as (List.replicate as.length b) := by
  induction as with
  | nil => exact List.Forall₂.nil
  | cons a as ih =>
    rw [List.forall_mem_cons] at h
    exact List.Forall₂.cons h.1 (ih h.2)

lemma forall₂_getElem? {α β : Type*} {R : α → β → Prop} {as : List α} {bs : List β}
    (h : List.Forall₂ R as bs) {i : ℕ} {a : α} (ha : as[i]? = some a) :
    ∃ b, bs[i]? = some b ∧ R a b := by
  induction h generalizing i with
  | nil => cases ha
  | @cons a' b' as bs hr hrest ih =>
    cases i with
    | zero =>
      obtain rfl := Option.some.inj ha
      exact ⟨b', rfl, hr⟩
    | succ i => exact ih ha

/-- A step of the socket keeps the outcomes with their hops. -/
lemma SelectsRecorded.socketStep {s t : ErrnoRun} {e : ReadSocket.Event}
    {select : Option SysResult} (h : s.SelectsRecorded) (hstep : s.socketStep e select = some t)
    (hselect : ∀ i selResult, e = .selectReturns i selResult →
      ∃ result, select = some result ∧ result.rv = selResult) : t.SelectsRecorded := by
  obtain ⟨socket, hsocket, rfl⟩ := Option.map_eq_some_iff.mp hstep
  obtain ⟨pushed, hhops, hpushed⟩ := ReadSocket.hops_step hsocket
  have hleft : List.Forall₂ Hop.Matches (eraseHop s.socket.hops e) (eraseHop s.selects e) := by
    unfold eraseHop
    split
    · exact forall₂_eraseIdx h _
    · exact h
  have hmatches : ∀ hop ∈ pushed, hop.Matches select := by
    intro hop hmem tag selResult hstage
    rcases hpushed hop hmem with hunfinished | ⟨i, tag', selResult', he, hstage'⟩
    · exact absurd hstage (hunfinished tag selResult)
    · obtain ⟨-, rfl⟩ := HopStage.selectDone.inj (hstage'.symm.trans hstage)
      exact hselect i _ he
  have hlength : socket.hops.length - (eraseHop s.selects e).length = pushed.length := by
    rw [hhops, List.length_append, hleft.length_eq, Nat.add_sub_cancel_left]
  change List.Forall₂ Hop.Matches socket.hops _
  dsimp only
  rw [hlength, hhops]
  exact List.rel_append hleft (forall₂_replicate hmatches)

/-- **What `QnxReadSelectDone` reports**: nothing without a valid weak pointer and a pending read,
else what it makes of the result of its own `select`. -/
lemma SelectsRecorded.completions_runSelectDone {s : ErrnoRun} (h : s.SelectsRecorded) {i : ℕ}
    {select : SysResult} (hselect : s.select? i = some select) {errno : ℤ} {socket : ReadSocket}
    (hsocket : s.socket.step (.runSelectDone i errno) = some socket) :
    ((socket.completions.drop s.socket.completions.length).map fun c => (select, c.outcome)) =
      if s.listens i then
        (selectDoneOutcome s.socket.qnxReadPollCount select.rv errno).toList.map (select, ·)
      else [] := by
  obtain ⟨⟨weak, stage⟩, hget, hsocket⟩ := Option.bind_eq_some_iff.mp hsocket
  cases stage with
  | selectDone tag selResult =>
    obtain ⟨o, ho, hmatches⟩ := forall₂_getElem? h hget
    obtain ⟨result, rfl, hrv⟩ := hmatches tag selResult rfl
    obtain rfl : result = select := by
      rw [select?, ho] at hselect
      exact Option.some.inj hselect
    cases hsocket
    have hlistens : s.listens i =
        (s.socket.isLive ⟨weak, .selectDone tag selResult⟩ &&
          s.socket.readIfReadyCallback.isSome) := by
      rw [listens, hget]
      rfl
    have hdrop : (s.socket.popHop i).completions.drop s.socket.completions.length = [] :=
      List.drop_length
    rw [hlistens]
    cases hlive : s.socket.isLive ⟨weak, .selectDone tag selResult⟩ with
    | false => rw [if_neg (by decide), hdrop, Bool.false_and, if_neg (by decide), List.map_nil]
    | true =>
      rw [if_pos rfl, Bool.true_and]
      cases hread : s.socket.readIfReadyCallback with
      | none =>
        have hnull : (s.socket.popHop i).readIfReadyCallback.isNone :=
          Option.isNone_iff_eq_none.mpr hread
        rw [ReadSocket.qnxReadSelectDone, if_pos hnull, hdrop, if_neg (by decide), List.map_nil]
      | some read =>
        have hdone := completions_qnxReadSelectDone (s.socket.popHop i) tag selResult errno hread
        change _ = s.socket.completions ++ _ at hdone
        rw [hdone, List.drop_left, List.map_map, if_pos Option.isSome_some, hrv]
        rfl
  | _ => cases hsocket

/-- **Step lemma.**  From errors that are all their own, a step keeps them so exactly when it keeps
the error it is about. -/
lemma ErrorsOwn.step_iff {s s' : ErrnoRun} {e : ErrnoEvent} (hs : s.ErrorsOwn m)
    (hrecorded : s.SelectsRecorded) (hstep : ErrnoRun.step m s e = some s') :
    s'.ErrorsOwn m ↔ ErrnoKept m s e := by
  cases e with
  | readIfReady read trace hexTrace watchOk =>
    obtain ⟨s₁, hs₁, rfl⟩ := Option.map_eq_some_iff.mp hstep
    obtain ⟨socket, -, rfl⟩ := Option.map_eq_some_iff.mp hs₁
    rw [← readOwn_doRead_iff s read trace hexTrace watchOk (s.errno .io)]
    constructor
    · intro h
      exact h.reads _ (List.mem_append_right _ (List.mem_singleton_self _))
    · intro h
      exact ⟨List.forall_mem_append.mpr ⟨hs.reads, List.forall_mem_singleton.mpr h⟩, hs.callbacks⟩
  | socket e =>
    have hs' : s.socketStep e none = some s' := by
      cases e <;> first | exact hstep | cases hstep
    obtain ⟨socket, -, rfl⟩ := Option.map_eq_some_iff.mp hs'
    exact iff_of_true ⟨hs.reads, hs.callbacks⟩ trivial
  | selectReturns i worker select =>
    obtain ⟨s₁, hs₁, rfl⟩ := Option.map_eq_some_iff.mp hstep
    obtain ⟨socket, -, rfl⟩ := Option.map_eq_some_iff.mp hs₁
    exact iff_of_true ⟨hs.reads, hs.callbacks⟩ trivial
  | selectDone i trace stopWatching =>
    obtain ⟨select, hselect, hstep⟩ := Option.bind_eq_some_iff.mp hstep
    obtain ⟨s₁, hs₁, rfl⟩ := Option.map_eq_some_iff.mp hstep
    obtain ⟨socket, hsocket, rfl⟩ := Option.map_eq_some_iff.mp hs₁
    have hreported := hrecorded.completions_runSelectDone hselect hsocket
    rw [errnoKept_selectDone_iff trace stopWatching hselect,
      ← callbackOwn_selectDoneOutcome_iff s.socket.qnxReadPollCount select]
    constructor
    · intro h hlistens o ho
      refine h.callbacks _ (List.mem_append_right _ ?_)
      rw [hreported, if_pos hlistens]
      exact List.mem_map_of_mem (Option.mem_toList.mpr ho)
    · intro h
      refine ⟨hs.reads, List.forall_mem_append.mpr ⟨hs.callbacks, ?_⟩⟩
      rw [hreported]
      split_ifs with hlistens
      · intro p hp
        obtain ⟨o, ho, rfl⟩ := List.mem_map.mp hp
        exact h hlistens o (Option.mem_toList.mp ho)
      · exact List.forall_mem_nil _
  | otherCall thread result =>
    cases hstep
    exact iff_of_true ⟨hs.reads, hs.callbacks⟩ trivial

/-- Every step keeps the outcomes with their hops. -/
lemma SelectsRecorded.step {s s' : ErrnoRun} {e : ErrnoEvent} (h : s.SelectsRecorded)
    (hstep : ErrnoRun.step m s e = some s') : s'.SelectsRecorded := by
  cases e with
  | readIfReady read trace hexTrace watchOk =>
    obtain ⟨s₁, hs₁, rfl⟩ := Option.map_eq_some_iff.mp hstep
    exact h.socketStep (t := s₁) hs₁ nofun
  | socket e =>
    cases e with
    | readIfReady _ _ => cases hstep
    | selectReturns _ _ => cases hstep
    | runSelectDone _ _ => cases hstep
    | _ => exact h.socketStep (t := s') hstep nofun
  | selectReturns i worker select =>
    obtain ⟨s₁, hs₁, rfl⟩ := Option.map_eq_some_iff.mp hstep
    refine h.socketStep (t := s₁) hs₁ ?_
    rintro _ _ ⟨⟩
    exact ⟨select, rfl, rfl⟩
  | selectDone i trace stopWatching =>
    obtain ⟨select, -, hstep⟩ := Option.bind_eq_some_iff.mp hstep
    obtain ⟨s₁, hs₁, rfl⟩ := Option.map_eq_some_iff.mp hstep
    exact h.socketStep (t := s₁) hs₁ nofun
  | otherCall thread result =>
    cases hstep
    exact h

/-! ## Runs -/

/-- From errors that are all their own, they stay so in the runs whose steps keep them. -/
lemma ErrorsOwn.always_iff {s : ErrnoRun} (hs : s.ErrorsOwn m) (hrecorded : s.SelectsRecorded)
    (events : List ErrnoEvent) :
    Always (ErrnoRun.step m) (ErrorsOwn m) s events ↔
      StepsMeet (ErrnoRun.step m) (ErrnoKept m) s events := by
  apply always_iff_stepsMeet (I := fun s => ErrorsOwn m s ∧ s.SelectsRecorded) ⟨hs, hrecorded⟩
  · intro s hs
    exact hs.1
  · intro s e s' hs he hstep
    exact ⟨(hs.1.step_iff hs.2 hstep).mpr he, hs.2.step hstep⟩
  · intro s e s' hs he hstep h
    exact he ((hs.1.step_iff hs.2 hstep).mp h)

lemma start_errorsOwn (m : SystemErrorMap) : start.ErrorsOwn m where
  reads _ h := nomatch h
  callbacks _ h := nomatch h

lemma start_selectsRecorded : start.SelectsRecorded := List.Forall₂.nil

/-- **Exactness of the error codes.**  In every sequence of calls the errors that `DoRead` returns
and that `QnxReadSelectDone` passes to the callback are those of their own `read` and `select` if
and only if no failed `read` is followed by a trace write that fails with another error, and
`QnxReadSelectDone`, when it runs for a failed `select` with a valid weak pointer and a pending
read, finds the error of this `select` in the `errno` of the IO thread. -/
theorem errorsOwn_always_iff (m : SystemErrorMap) (events : List ErrnoEvent) :
    Always (step m) (ErrorsOwn m) start events ↔ StepsMeet (step m) (ErrnoKept m) start events :=
  (start_errorsOwn m).always_iff start_selectsRecorded events

/-- A map that knows 11 as the code of a call that would block. -/
def sampleErrorMap : SystemErrorMap where
  mapSystemError e := if e = 11 then -1 else -2
  eagain := 11
  errIoPending := -1
  map_eagain := rfl

/-- A `read` would block on the IO thread, and the `select` for it fails on the pool with another
code: the callback is given the code of the `read`. -/
theorem failedSelect_not_errorsOwn :
    ¬ Always (step sampleErrorMap) (ErrorsOwn sampleErrorMap) start
      [.readIfReady (.failed 11) (.ok 40) (.ok 0) true, .socket (.runPollTask 0),
        .selectReturns 0 0 (.failed 9), .selectDone 0 (.ok 0) (.ok 0)] := by
  rw [(start_errorsOwn sampleErrorMap).always_iff start_selectsRecorded]
  decide

/-- After a `Close` the `select` of the read fails as well, but nothing is reported. -/
example : Always (step sampleErrorMap) (ErrorsOwn sampleErrorMap) start
    [.readIfReady (.failed 11) (.ok 40) (.ok 0) true, .socket (.runPollTask 0), .socket .close,
      .selectReturns 0 0 (.failed 9), .selectDone 0 (.ok 0) (.ok 0)] := by
  rw [(start_errorsOwn sampleErrorMap).always_iff start_selectsRecorded]
  decide

end ErrnoRun

end ChromiumQnx
