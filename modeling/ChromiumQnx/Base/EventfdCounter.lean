import ChromiumQnx.Base.Eventfd

/-!
# Emulated eventfds as counters

An `eventfd` without `EFD_SEMAPHORE` is a counter: `eventfd_write` adds its value, and
`eventfd_read` returns the sum of everything added since the last successful read, the initial value
included, and leaves nothing to be read.  The emulation keeps the values one behind the other in a
pipe, and `eventfd_read` takes the oldest one out.

`CounterRun` runs the emulation together with the counters it stands for: for every descriptor the
list of values that the calls have added, and a record of every successful read.  The invariant
`CounterRun.PipesHoldCounters` says that the pipe of a live eventfd holds the values added to it, in
order, so the pipes of different eventfds do not mix, whatever translation units make and write
them: a write that does not find the pipe's own write end fails.  A read is right exactly when only
one value is there.
-/

namespace ChromiumQnx

open TransitionSystem

/-! ## The kernel calls on pipes -/

namespace Kernel

/-- An open read end is a reader. -/
lemma hasReader_of_get? {k : Kernel} {fd p : ℕ}
    (h : k.descriptors.get? fd = some (.readEnd p)) : k.hasReader p := by
  have hlt := DescriptorTable.lt_length_of_get? h
  rw [DescriptorTable.get?, List.getD_eq_getElem _ _ hlt] at h
  rw [hasReader, List.contains_iff_mem, ← h]
  exact List.getElem_mem hlt

/-- A pipe with a reader is open for reading at some descriptor. -/
lemma exists_get?_of_hasReader {k : Kernel} {p : ℕ} (h : k.hasReader p) :
    ∃ fd, k.descriptors.get? fd = some (.readEnd p) := by
  obtain ⟨fd, hlt, hfd⟩ := List.mem_iff_getElem.mp (List.contains_iff_mem.mp h)
  refine ⟨fd, ?_⟩
  rw [DescriptorTable.get?, List.getD_eq_getElem _ _ hlt, hfd]

/-- A write to a pipe without a reader. -/
lemma write_of_hasReader_eq_false {k : Kernel} {fd : ℤ} {p : ℕ} (bytes : List UInt8)
    (hfile : k.file? fd = some (.writeEnd p)) (hreader : k.hasReader p = false) :
    k.write fd bytes = (-1, k) := by
  simp [write, hfile, hreader]

/-- A write for which the pipe has room. -/
lemma write_of_push? {k : Kernel} {fd : ℤ} {p : ℕ} {q q' : BoundedFifo UInt8} {bytes : List UInt8}
    (hfile : k.file? fd = some (.writeEnd p)) (hreader : k.hasReader p)
    (hq : k.pipes[p]? = some q) (hpush : q.push? bytes = some q') :
    k.write fd bytes = ((bytes.length : ℤ), { k with pipes := k.pipes.set p q' }) := by
  simp [write, hfile, hreader, hq, hpush]

/-- A write for which the pipe has no room. -/
lemma write_of_push?_eq_none {k : Kernel} {fd : ℤ} {p : ℕ} {q : BoundedFifo UInt8}
    {bytes : List UInt8} (hfile : k.file? fd = some (.writeEnd p)) (hq : k.pipes[p]? = some q)
    (hpush : q.push? bytes = none) : k.write fd bytes = (-1, k) := by
  simp [write, hfile, hq, hpush]

/-- A write to a read end. -/
lemma write_of_readEnd {k : Kernel} {fd : ℤ} {p : ℕ} (bytes : List UInt8)
    (hfile : k.file? fd = some (.readEnd p)) : k.write fd bytes = (-1, k) := by
  simp [write, hfile]

/-- A read from an empty pipe. -/
lemma read_of_items_eq_nil {k : Kernel} {fd : ℤ} {p : ℕ} {q : BoundedFifo UInt8} (n : ℕ)
    (hfile : k.file? fd = some (.readEnd p)) (hq : k.pipes[p]? = some q) (hnil : q.items = []) :
    k.read fd n = (-1, [], k) := by
  simp [read, hfile, hq, hnil]

/-- A read from a pipe with something in it. -/
lemma read_of_items_ne_nil {k : Kernel} {fd : ℤ} {p : ℕ} {q : BoundedFifo UInt8} (n : ℕ)
    (hfile : k.file? fd = some (.readEnd p)) (hq : k.pipes[p]? = some q) (hne : q.items ≠ []) :
    k.read fd n = (((q.items.take n).length : ℤ), q.items.take n,
      { k with pipes := k.pipes.set p (q.pop n).2 }) := by
  simp [read, hfile, hq, hne]

end Kernel

/-! ## The emulation and the counters -/

/-- A successful read: the value it returned and the value of the counter. -/
structure CompletedRead where
  value : UInt64
  counter : ℕ
  deriving DecidableEq, Repr

/-- The emulation, what has been added to the counter of each descriptor since its last successful
read, and the reads so far. -/
structure CounterRun (υ : Type*) where
  efd : QnxEventfd υ
  added : ℕ → List UInt64
  reads : List CompletedRead

namespace CounterRun

open QnxEventfd (Call Recorded)

variable {υ : Type*}

/-- The value of a counter. -/
def counter (r : CounterRun υ) (fd : ℕ) : ℕ := ((r.added fd).map UInt64.toNat).sum

/-- Whether a descriptor is readable: its pipe is not empty. -/
def readable (s : QnxEventfd υ) (fd : ℕ) : Bool :=
  match s.pipeOf? fd with
  | some p => (s.kernel.pipes[p]?.map fun q => !q.items.isEmpty).getD false
  | none => false

/-- What a new counter starts with. -/
def initialValues (initval : UInt32) : List UInt64 :=
  if 0 < initval then [initval.toUInt64] else []

/-- No eventfd yet. -/
def init : CounterRun υ := ⟨.init, fun _ => [], []⟩

variable [DecidableEq υ]

/-- What a call does to the counters and the record of reads; `s'` is the emulation after it. -/
def observe (r : CounterRun υ) (s' : QnxEventfd υ) : Call υ → CounterRun υ
  | .eventfd _ initval pipeOk =>
    if pipeOk then
      ⟨s', Function.update r.added r.efd.kernel.descriptors.lowestFree (initialValues initval),
        r.reads⟩
    else { r with efd := s' }
  | .eventfdWrite u fd value =>
    if (r.efd.eventfdWrite u fd value).1 = 0 then
      ⟨s', Function.update r.added fd (r.added fd ++ [value]), r.reads⟩
    else { r with efd := s' }
  | .eventfdRead fd =>
    if (r.efd.eventfdRead fd).1 = 0 then
      ⟨s', Function.update r.added fd [],
        r.reads ++ [⟨(r.efd.eventfdRead fd).2.1, r.counter fd⟩]⟩
    else { r with efd := s' }
  | _ => { r with efd := s' }

/-- One call of the program, and what it does to the counters. -/
def step (capacity : PipeCapacity) (r : CounterRun υ) (call : Call υ) : Option (CounterRun υ) :=
  (r.efd.step capacity call).map fun s' => r.observe s' call

omit [DecidableEq υ] in
/-- The emulation agrees with its counters: all successful reads so far have returned the value of
the counter, and an eventfd to which nothing has been added since is not readable. -/
structure CountersCorrect (r : CounterRun υ) : Prop where
  value_eq : ∀ c ∈ r.reads, c.value.toNat = c.counter
  not_readable : ∀ fd, r.added fd = [] → readable r.efd fd = false

omit [DecidableEq υ] in
/-- The condition on a call: a descriptor is read before a second value has been added to it. -/
def ReadsOneValue (r : CounterRun υ) : Call υ → Prop
  | .eventfdRead fd => (r.added fd).length ≤ 1
  | _ => True

/-! ## The invariant -/

/-- The pipe of every live eventfd holds what has been added to its counter. -/
def PipesHold (added : ℕ → List UInt64) (k : Kernel) : Prop :=
  ∀ fd p, k.descriptors.get? fd = some (.readEnd p) →
    ∃ q, k.pipes[p]? = some q ∧ q.items = (added fd).flatMap eventfdBytes

/-- **The invariant.**  The emulation finds the write ends, the pipes hold what has been added, and
the reads have returned the values of the counters. -/
structure PipesHoldCounters (r : CounterRun υ) : Prop where
  recorded : Recorded r.efd.layout
  pipesHold : PipesHold r.added r.efd.kernel
  value_eq : ∀ c ∈ r.reads, c.value.toNat = c.counter

/-- A change of the pipe of one eventfd together with its counter. -/
lemma PipesHold.set {added : ℕ → List UInt64} {s : QnxEventfd υ} (h : PipesHold added s.kernel)
    (hrec : Recorded s.layout) {fd p : ℕ}
    (hfd : s.kernel.descriptors.get? fd = some (.readEnd p)) {q : BoundedFifo UInt8}
    {values : List UInt64} (hq : q.items = values.flatMap eventfdBytes) :
    PipesHold (Function.update added fd values)
      { s.kernel with pipes := s.kernel.pipes.set p q } := by
  intro fd' p' hfd'
  by_cases hp : p' = p
  · subst hp
    have hfdeq : fd' = fd := hrec.readEnd_inj hfd' hfd
    subst hfdeq
    refine ⟨q, List.getElem?_set_self (hrec.readEnd_lt hfd'), ?_⟩
    rw [Function.update_self, hq]
  · have hne : fd' ≠ fd := by
      rintro rfl
      exact hp (OpenFile.readEnd.inj (Option.some.inj (hfd'.symm.trans hfd)))
    obtain ⟨q', hq', hitems⟩ := h fd' p' hfd'
    refine ⟨q', ?_, ?_⟩
    · rw [← hq']
      exact List.getElem?_set_ne (Ne.symm hp)
    · rw [Function.update_of_ne hne, hitems]

/-- Opening and closing other descriptors does not touch the pipes. -/
lemma PipesHold.setFile {added : ℕ → List UInt64} {k : Kernel} (h : PipesHold added k) (fd : ℕ)
    {file : Option OpenFile} (hnew : ∀ p, file ≠ some (.readEnd p)) :
    PipesHold added { k with descriptors := k.descriptors.set fd file } := by
  intro fd' p hfd'
  rw [DescriptorTable.get?_set] at hfd'
  split_ifs at hfd'
  · exact absurd hfd' (hnew p)
  · exact h fd' p hfd'

/-- Another kernel with the same descriptors and pipes. -/
lemma PipesHold.congr {added : ℕ → List UInt64} {k k' : Kernel} (h : PipesHold added k)
    (hd : k'.descriptors = k.descriptors) (hp : k'.pipes = k.pipes) : PipesHold added k' := by
  unfold PipesHold
  rw [hd, hp]
  exact h

/-! ## Reads and writes of a live eventfd -/

section Live

variable {s : QnxEventfd υ} {added : ℕ → List UInt64} {fd p : ℕ}

omit [DecidableEq υ] in
/-- A read from a counter to which nothing has been added fails. -/
lemma eventfdRead_of_added_eq_nil (h : PipesHold added s.kernel)
    (hfd : s.kernel.descriptors.get? fd = some (.readEnd p)) (hadded : added fd = []) :
    (s.eventfdRead fd).1 = -1 ∧ (s.eventfdRead fd).2.2 = s := by
  obtain ⟨q, hq, hitems⟩ := h fd p hfd
  rw [hadded, List.flatMap_nil] at hitems
  have hfile : s.kernel.file? fd = some (.readEnd p) := (Kernel.file?_natCast ..).trans hfd
  unfold QnxEventfd.eventfdRead
  rw [Kernel.read_of_items_eq_nil 8 hfile hq hitems]
  exact ⟨rfl, rfl⟩

omit [DecidableEq υ] in
/-- **A read takes the oldest value.**  The other values stay in the pipe. -/
lemma eventfdRead_of_added_eq_cons (h : PipesHold added s.kernel)
    (hfd : s.kernel.descriptors.get? fd = some (.readEnd p)) {value : UInt64}
    {values : List UInt64} (hadded : added fd = value :: values) :
    (s.eventfdRead fd).1 = 0 ∧ (s.eventfdRead fd).2.1 = value ∧
      ∃ q : BoundedFifo UInt8, q.items = values.flatMap eventfdBytes ∧
        (s.eventfdRead fd).2.2 =
          { s with kernel := { s.kernel with pipes := s.kernel.pipes.set p q } } := by
  obtain ⟨q, hq, hitems⟩ := h fd p hfd
  rw [hadded, List.flatMap_cons] at hitems
  have hfile : s.kernel.file? fd = some (.readEnd p) := (Kernel.file?_natCast ..).trans hfd
  have htake : q.items.take 8 = eventfdBytes value := by
    rw [hitems, List.take_append_of_le_length (by simp)]
    exact List.take_of_length_le (by simp)
  have hdrop : q.items.drop 8 = values.flatMap eventfdBytes := by
    rw [hitems, List.drop_append_of_le_length (by simp), List.drop_of_length_le (by simp),
      List.nil_append]
  have hne : q.items ≠ [] := by
    intro hnil
    have hlength := congrArg List.length htake
    rw [hnil, length_eventfdBytes] at hlength
    cases hlength
  unfold QnxEventfd.eventfdRead
  rw [Kernel.read_of_items_ne_nil 8 hfile hq hne, htake]
  refine ⟨by simp, eventfdOfBytes_eventfdBytes value, (q.pop 8).2, ?_, rfl⟩
  rw [BoundedFifo.items_pop, hdrop]

/-- **A write adds its value at the end**, or fails and changes no pipe.  It fails when the table of
the translation unit does not have the write end of the pipe. -/
lemma eventfdWrite_cases (hrec : Recorded s.layout) (h : PipesHold added s.kernel)
    (hfd : s.kernel.descriptors.get? fd = some (.readEnd p)) (u : υ) (value : UInt64) :
    (s.eventfdWrite u fd value).1 = -1 ∧ (s.eventfdWrite u fd value).2.kernel = s.kernel ∨
      (s.eventfdWrite u fd value).1 = 0 ∧
        ∃ q : BoundedFifo UInt8, q.items = (added fd ++ [value]).flatMap eventfdBytes ∧
          (s.eventfdWrite u fd value).2.kernel =
            { s.kernel with pipes := s.kernel.pipes.set p q } := by
  obtain ⟨q, hq, hitems⟩ := h fd p hfd
  have hfile : s.kernel.file? fd = some (.readEnd p) := (Kernel.file?_natCast ..).trans hfd
  unfold QnxEventfd.eventfdWrite
  rcases hrec.eventfdWriteTarget_cases u fd with hself | ⟨p', htarget, hreaders⟩
  · rw [hself, Kernel.write_of_readEnd _ hfile]
    exact Or.inl ⟨rfl, rfl⟩
  · cases hreader : s.kernel.hasReader p' with
    | false =>
      rw [Kernel.write_of_hasReader_eq_false _ htarget hreader]
      exact Or.inl ⟨rfl, rfl⟩
    | true =>
      -- The pipe has a reader, so it is the pipe of this descriptor.
      obtain ⟨fd', hfd'⟩ := Kernel.exists_get?_of_hasReader hreader
      obtain rfl := hreaders fd' hfd'
      obtain rfl : p' = p := OpenFile.readEnd.inj (Option.some.inj (hfd'.symm.trans hfd))
      cases hpush : q.push? (eventfdBytes value) with
      | none =>
        rw [Kernel.write_of_push?_eq_none htarget hq hpush]
        exact Or.inl ⟨rfl, rfl⟩
      | some q' =>
        rw [Kernel.write_of_push? htarget hreader hq hpush]
        refine Or.inr ⟨by simp, q', ?_, rfl⟩
        rw [(BoundedFifo.push?_eq_some_iff.mp hpush).2.1, hitems, List.flatMap_append,
          List.flatMap_singleton]

end Live

/-! ## A new eventfd -/

/-- The first write to a new pipe. -/
lemma write_pipe (capacity : PipeCapacity) (k : Kernel) (value : UInt64) :
    ∃ q : BoundedFifo UInt8, q.items = eventfdBytes value ∧
      ((k.pipe capacity).2.write (k.pipe capacity).1.2 (eventfdBytes value)).2 =
        ⟨QnxEventfd.openEnds k.descriptors k.pipes.length, k.pipes ++ [q]⟩ := by
  set n := k.pipes.length with hn
  set opened := (k.pipe capacity).2 with hopened
  have hdescriptors : opened.descriptors = QnxEventfd.openEnds k.descriptors n := rfl
  have hfile : opened.file? (k.pipe capacity).1.2 = some (.writeEnd n) :=
    (Kernel.file?_natCast ..).trans (DescriptorTable.get?_set_self ..)
  have hread : opened.descriptors.get? k.descriptors.lowestFree = some (.readEnd n) := by
    rw [hdescriptors, QnxEventfd.get?_openEnds,
      if_neg (Ne.symm (QnxEventfd.writeFd_ne_lowestFree _ _)), if_pos rfl]
  have hreader : opened.hasReader n := Kernel.hasReader_of_get? hread
  obtain ⟨q, hq⟩ : ∃ q, opened.pipes[n]? = some q ∧ q.items = [] ∧ q.capacity = capacity.bytes :=
    ⟨_, List.getElem?_concat_length, rfl, rfl⟩
  have hfits : q.items.length + (eventfdBytes value).length ≤ q.capacity := by
    rw [hq.2.1, hq.2.2, length_eventfdBytes]
    exact le_trans (by decide) capacity.pipeBuf_le
  obtain ⟨q', hpush⟩ : ∃ q', q.push? (eventfdBytes value) = some q' := ⟨_, dif_pos hfits⟩
  refine ⟨q', ?_, ?_⟩
  · rw [(BoundedFifo.push?_eq_some_iff.mp hpush).2.1, hq.2.1, List.nil_append]
  · rw [Kernel.write_of_push? hfile hreader hq.1 hpush, hdescriptors]
    have hset : opened.pipes.set n q' = k.pipes ++ [q'] := by
      simp [hopened, Kernel.pipe, hn]
    rw [hset]

/-- The kernel after `qnx_eventfd`: two new descriptors and a pipe that holds the initial value. -/
lemma kernel_qnxEventfd (capacity : PipeCapacity) (s : QnxEventfd υ) (u : υ) (initval : UInt32) :
    ∃ q : BoundedFifo UInt8, q.items = (initialValues initval).flatMap eventfdBytes ∧
      (s.qnxEventfd capacity u initval true).2.kernel =
        ⟨QnxEventfd.openEnds s.kernel.descriptors s.kernel.pipes.length,
          s.kernel.pipes ++ [q]⟩ := by
  have hkernel : (s.qnxEventfd capacity u initval true).2.kernel =
      if 0 < initval then
        ((s.kernel.pipe capacity).2.write (s.kernel.pipe capacity).1.2
          (eventfdBytes initval.toUInt64)).2
      else (s.kernel.pipe capacity).2 := by
    unfold QnxEventfd.qnxEventfd
    rw [if_pos rfl, QnxEventfd.kernel_qnxEfdInitTable]
  rw [hkernel, initialValues]
  split_ifs
  · obtain ⟨q, hq, hwrite⟩ := write_pipe capacity s.kernel initval.toUInt64
    exact ⟨q, by rw [hq, List.flatMap_singleton], hwrite⟩
  · exact ⟨.empty capacity.bytes _, rfl, rfl⟩

/-- The pipe of a new eventfd holds its initial value, and the others hold what they held. -/
lemma PipesHold.create {added : ℕ → List UInt64} {s : QnxEventfd υ} (h : PipesHold added s.kernel)
    (hrec : Recorded s.layout) (capacity : PipeCapacity) (u : υ) (initval : UInt32) :
    PipesHold (Function.update added s.kernel.descriptors.lowestFree (initialValues initval))
      (s.qnxEventfd capacity u initval true).2.kernel := by
  obtain ⟨q, hq, hkernel⟩ := kernel_qnxEventfd capacity s u initval
  intro fd p hfd
  rw [hkernel] at hfd ⊢
  rcases QnxEventfd.get?_openEnds_eq_readEnd hfd with ⟨rfl, rfl⟩ | ⟨hne, hold⟩
  · refine ⟨q, List.getElem?_concat_length, ?_⟩
    rw [Function.update_self, hq]
  · obtain ⟨q', hq', hitems⟩ := h fd p hold
    refine ⟨q', ?_, ?_⟩
    · exact (List.getElem?_append_left (hrec.readEnd_lt hold)).trans hq'
    · rw [Function.update_of_ne hne, hitems]

/-! ## Readability -/

/-- A live eventfd is readable when its pipe is not empty. -/
lemma readable_eq {s : QnxEventfd υ} {fd p : ℕ} {q : BoundedFifo UInt8}
    (hfd : s.kernel.descriptors.get? fd = some (.readEnd p)) (hq : s.kernel.pipes[p]? = some q) :
    readable s fd = !q.items.isEmpty := by
  rw [readable, QnxEventfd.pipeOf?_eq_some_iff.mpr hfd]
  dsimp only
  rw [hq]
  rfl

/-- The invariant contains the property. -/
lemma PipesHoldCounters.countersCorrect {r : CounterRun υ} (h : r.PipesHoldCounters) :
    r.CountersCorrect := by
  refine ⟨h.value_eq, fun fd hadded => ?_⟩
  cases hp : r.efd.pipeOf? fd with
  | none => rw [readable, hp]
  | some p =>
    have hfd := QnxEventfd.pipeOf?_eq_some_iff.mp hp
    obtain ⟨q, hq, hitems⟩ := h.pipesHold fd p hfd
    rw [readable_eq hfd hq, hitems, hadded]
    rfl

/-- **What a successful read does.**  It records the oldest value added, clears the counter, and
leaves the other values in the pipe. -/
lemma step_eventfdRead_of_cons {capacity : PipeCapacity} {r r' : CounterRun υ} {fd : ℕ}
    (h : r.PipesHoldCounters) {value : UInt64} {values : List UInt64}
    (hadded : r.added fd = value :: values) (hstep : r.step capacity (.eventfdRead fd) = some r') :
    r'.reads = r.reads ++ [⟨value, r.counter fd⟩] ∧ r'.added fd = [] ∧
      readable r'.efd fd = !values.isEmpty ∧
      (values = [] → PipesHold r'.added r'.efd.kernel) := by
  obtain ⟨s', hs', rfl⟩ := Option.map_eq_some_iff.mp hstep
  obtain ⟨⟨p, hfd⟩, rfl⟩ := QnxEventfd.ite_isSome_pipeOf?_eq_some_iff.mp hs'
  obtain ⟨hok, hvalue, q, hq, hafter⟩ := eventfdRead_of_added_eq_cons h.pipesHold hfd hadded
  have hkernel : (r.efd.eventfdRead fd).2.2.kernel =
      { r.efd.kernel with pipes := r.efd.kernel.pipes.set p q } := by
    rw [hafter]
  have hpipe : (r.efd.eventfdRead fd).2.2.kernel.pipes[p]? = some q := by
    rw [hkernel]
    exact List.getElem?_set_self (h.recorded.readEnd_lt hfd)
  have hfd' : (r.efd.eventfdRead fd).2.2.kernel.descriptors.get? fd = some (.readEnd p) := by
    rw [hkernel]
    exact hfd
  rw [observe, if_pos hok]
  refine ⟨by rw [hvalue], Function.update_self .., ?_, ?_⟩
  · rw [readable_eq hfd' hpipe, hq]
    cases values <;> rfl
  · rintro rfl
    rw [hkernel]
    exact h.pipesHold.set h.recorded hfd hq

/-! ## Steps -/

lemma pipesHoldCounters_init : PipesHoldCounters (init : CounterRun υ) where
  recorded := QnxEventfd.tableExact_init.toRecorded
  pipesHold _ _ h := by cases h
  value_eq := List.forall_mem_nil _

/-- A call that meets the condition keeps the invariant. -/
lemma PipesHoldCounters.step {capacity : PipeCapacity} {r r' : CounterRun υ} {call : Call υ}
    (h : r.PipesHoldCounters) (hone : r.ReadsOneValue call)
    (hstep : r.step capacity call = some r') : r'.PipesHoldCounters := by
  obtain ⟨s', hs', rfl⟩ := Option.map_eq_some_iff.mp hstep
  have hrec : Recorded s'.layout := h.recorded.step hs'
  cases call with
  | eventfd u initval pipeOk =>
    cases pipeOk with
    | false =>
      cases hs'
      refine ⟨hrec, h.pipesHold.congr ?_ ?_, h.value_eq⟩
      all_goals exact congrArg _ (QnxEventfd.kernel_qnxEfdInitTable r.efd u)
    | true =>
      cases hs'
      exact ⟨hrec, h.pipesHold.create h.recorded capacity u initval, h.value_eq⟩
  | eventfdWrite u fd value =>
    obtain ⟨⟨p, hfd⟩, rfl⟩ := QnxEventfd.ite_isSome_pipeOf?_eq_some_iff.mp hs'
    rcases eventfdWrite_cases h.recorded h.pipesHold hfd u value with
      ⟨hfail, hk⟩ | ⟨hok, q, hq, hk⟩
    · rw [observe, if_neg (by rw [hfail]; decide)]
      refine ⟨hrec, ?_, h.value_eq⟩
      rw [hk]
      exact h.pipesHold
    · rw [observe, if_pos hok]
      refine ⟨hrec, ?_, h.value_eq⟩
      rw [hk]
      exact h.pipesHold.set h.recorded hfd hq
  | eventfdRead fd =>
    cases hadded : r.added fd with
    | nil =>
      obtain ⟨⟨p, hfd⟩, rfl⟩ := QnxEventfd.ite_isSome_pipeOf?_eq_some_iff.mp hs'
      obtain ⟨hfail, hsame⟩ := eventfdRead_of_added_eq_nil h.pipesHold hfd hadded
      rw [observe, if_neg (by rw [hfail]; decide)]
      refine ⟨hrec, ?_, h.value_eq⟩
      rw [hsame]
      exact h.pipesHold
    | cons value values =>
      have hnil : values = [] := by
        have hlength : (r.added fd).length ≤ 1 := hone
        rw [hadded, List.length_cons] at hlength
        exact List.eq_nil_of_length_eq_zero (by omega)
      obtain ⟨hreads, -, -, hpipes⟩ := step_eventfdRead_of_cons h hadded hstep
      refine ⟨?_, hpipes hnil, ?_⟩
      · rw [observe]
        split_ifs <;> exact hrec
      · rw [hreads, List.forall_mem_append]
        refine ⟨h.value_eq, List.forall_mem_singleton.mpr ?_⟩
        simp [counter, hadded, hnil]
  | close fd =>
    obtain ⟨-, rfl⟩ := Option.ite_some_none_eq_some.mp hs'
    exact ⟨hrec, h.pipesHold.setFile fd (by simp), h.value_eq⟩
  | openOther n =>
    cases hs'
    exact ⟨hrec, h.pipesHold.setFile _ (by simp), h.value_eq⟩
  | closeOther fd =>
    obtain ⟨-, rfl⟩ := Option.ite_some_none_eq_some.mp hs'
    exact ⟨hrec, h.pipesHold.setFile fd (by simp), h.value_eq⟩

/-- A read after two additions leaves the descriptor readable. -/
lemma PipesHoldCounters.not_countersCorrect {capacity : PipeCapacity} {r r' : CounterRun υ}
    {call : Call υ} (h : r.PipesHoldCounters) (hone : ¬ r.ReadsOneValue call)
    (hstep : r.step capacity call = some r') : ¬ r'.CountersCorrect := by
  cases call with
  | eventfdRead fd =>
    have hlength : ¬ (r.added fd).length ≤ 1 := hone
    match hadded : r.added fd with
    | [] => simp [hadded] at hlength
    | [value] => simp [hadded] at hlength
    | value :: value' :: values =>
      intro hcorrect
      obtain ⟨-, hcleared, hreadable, -⟩ := step_eventfdRead_of_cons h hadded hstep
      rw [hcorrect.not_readable fd hcleared] at hreadable
      cases hreadable
  | _ => exact absurd trivial hone

/-! ## Runs -/

/-- **Counters.**  Throughout a run every successful read returns the value of its counter and
leaves the eventfd unreadable until the next write, if and only if the run reads each eventfd before
a second value is added. -/
theorem countersCorrect_always_iff (capacity : PipeCapacity) (calls : List (Call υ)) :
    Always (step capacity) CountersCorrect init calls ↔
      StepsMeet (step capacity) ReadsOneValue init calls :=
  always_iff_stepsMeet pipesHoldCounters_init (fun _ h => h.countersCorrect)
    (fun _ _ _ h hone hstep => h.step hone hstep)
    (fun _ _ _ h hone hstep => h.not_countersCorrect hone hstep) calls

/-- After the values 1 and 2 have been written, a read returns 1. -/
theorem twoWrites_not_countersCorrect :
    ¬ ∀ (capacity : PipeCapacity) (calls : List (Call Unit)),
      Always (step capacity) CountersCorrect init calls := by
  intro h
  have hrun := always_iff_forall_prefix.mp
    (h ⟨512, le_rfl⟩
      [.eventfd () 0 true, .eventfdWrite () 0 1, .eventfdWrite () 0 2, .eventfdRead 0])
    _ List.prefix_rfl _ rfl
  exact absurd hrun.value_eq (by decide)

end CounterRun

end ChromiumQnx
