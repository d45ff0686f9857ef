import ChromiumQnx.Foundation.TransitionSystem
import ChromiumQnx.Foundation.BoundedFifo
import ChromiumQnx.Foundation.DescriptorTable
import Mathlib.Data.Nat.Digits.Defs
import Mathlib.Logic.Function.Basic

/-!
# The emulation of `eventfd`

QNX has no `eventfd`.  `qnx_platform.h` makes a pipe instead and returns its read end; the write end
is remembered in the table `qnx_efd_write_end`, which is indexed by the returned number and has 256
entries.  `eventfd_write` looks its descriptor up in this table and writes eight bytes to what it
finds there, or to the descriptor itself; `eventfd_read` reads eight bytes.  The functions and the
table are static variables and functions of a header, so each translation unit that includes it has
a table of its own.

`Kernel` is the part of the operating system the emulation rests on: a descriptor table with the
lowest free number for each new descriptor, and pipes that are bounded queues of bytes.
`QnxEventfd.step` is one call of a program that creates, writes, reads and closes emulated eventfds
and opens and closes other files in between.  The program does not know the write ends, so it does
not close them.

The tables are never cleared, and numbers from 256 on are not recorded in them.  What holds always
is `QnxEventfd.Recorded`: some table has the own write end of a live eventfd below 256, and what a
table has is a write end of the pipe that was read at that number.  That a write of any translation
unit goes nowhere else (`QnxEventfd.WritesToOwnPipe`) holds exactly as long as all numbers are below
256, no eventfd is closed, and eventfds are only made in a program with a single unit.
-/

namespace ChromiumQnx

open TransitionSystem

/-! ## The bytes of an `eventfd_t` -/

/-- The `k` low bytes of a number, the lowest first. -/
def lowBytes : ℕ → ℕ → List UInt8
  | 0, _ => []
  | k + 1, n => UInt8.ofNat n :: lowBytes k (n / 256)

/-- The number with the given bytes, the lowest first. -/
def ofLowBytes (bytes : List UInt8) : ℕ := Nat.ofDigits 256 (bytes.map UInt8.toNat)

@[simp] lemma length_lowBytes (k n : ℕ) : (lowBytes k n).length = k := by
  induction k generalizing n with
  | zero => rfl
  | succ k ih => rw [lowBytes, List.length_cons, ih]

/-- The low bytes of a number give the number back, up to what does not fit. -/
lemma ofLowBytes_lowBytes (k n : ℕ) : ofLowBytes (lowBytes k n) = n % 256 ^ k := by
  induction k generalizing n with
  | zero => rw [pow_zero, Nat.mod_one]; rfl
  | succ k ih =>
    have hlow : (UInt8.ofNat n).toNat = n % 256 := UInt8.toNat_ofNat
    calc ofLowBytes (lowBytes (k + 1) n)
        = (UInt8.ofNat n).toNat + 256 * ofLowBytes (lowBytes k (n / 256)) := rfl
      _ = n % 256 + 256 * (n / 256 % 256 ^ k) := by rw [ih, hlow]
      _ = n % 256 ^ (k + 1) := by rw [pow_succ', Nat.mod_mul]

/-- The object representation of an `eventfd_t`. -/
def eventfdBytes (value : UInt64) : List UInt8 := lowBytes 8 value.toNat

/-- The `eventfd_t` with the given object representation. -/
def eventfdOfBytes (bytes : List UInt8) : UInt64 := UInt64.ofNat (ofLowBytes bytes)

@[simp] lemma length_eventfdBytes (value : UInt64) : (eventfdBytes value).length = 8 :=
  length_lowBytes 8 _

@[simp] lemma eventfdOfBytes_eventfdBytes (value : UInt64) :
    eventfdOfBytes (eventfdBytes value) = value := by
  have hlt : value.toNat < 256 ^ 8 := value.toNat_lt
  rw [eventfdOfBytes, eventfdBytes, ofLowBytes_lowBytes, Nat.mod_eq_of_lt hlt]
  exact UInt64.ofNat_toNat

/-! ## The kernel -/

/-- What a descriptor refers to: an end of a pipe of the emulation, or some other open file. -/
inductive OpenFile
  | readEnd (p : ℕ)
  | writeEnd (p : ℕ)
  | other (n : ℕ)
  deriving DecidableEq, Repr

/-- The capacity of a pipe, which is at least the `PIPE_BUF` POSIX asks for. -/
structure PipeCapacity where
  bytes : ℕ
  pipeBuf_le : 512 ≤ bytes

/-- The descriptors of the process and the pipes they refer to. -/
structure Kernel where
  descriptors : DescriptorTable OpenFile
  pipes : List (BoundedFifo UInt8)

namespace Kernel

/-- The open file a descriptor argument refers to. -/
def file? (k : Kernel) (fd : ℤ) : Option OpenFile :=
  if 0 ≤ fd then k.descriptors.get? fd.toNat else none

/-- `pipe`: the two lowest free numbers become the read end and the write end of an empty pipe. -/
def pipe (capacity : PipeCapacity) (k : Kernel) : (ℕ × ℕ) × Kernel :=
  let readFd := k.descriptors.lowestFree
  let opened := k.descriptors.openLowest (.readEnd k.pipes.length)
  let writeFd := opened.lowestFree
  ((readFd, writeFd), ⟨opened.openLowest (.writeEnd k.pipes.length),
    k.pipes ++ [.empty capacity.bytes (Nat.lt_of_lt_of_le (by decide) capacity.pipeBuf_le)]⟩)

/-- Whether some descriptor is open on the read end of a pipe. -/
def hasReader (k : Kernel) (p : ℕ) : Bool := k.descriptors.slots.contains (some (.readEnd p))

/-- `write` with `O_NONBLOCK`, for at most `PIPE_BUF` bytes: all of them or none.  A pipe without a
reader gives `EPIPE`, a full one `EAGAIN`, and a read end `EBADF`. -/
def write (k : Kernel) (fd : ℤ) (bytes : List UInt8) : ℤ × Kernel :=
  match k.file? fd with
  | some (.writeEnd p) =>
    if k.hasReader p then
      match k.pipes[p]?.bind fun q => q.push? bytes with
      | some q => (bytes.length, { k with pipes := k.pipes.set p q })
      | none => (-1, k)
    else (-1, k)
  | some (.other _) => (bytes.length, k)
  | _ => (-1, k)

/-- `read` with `O_NONBLOCK` of at most `n` bytes, with the bytes read.  An empty pipe gives
`EAGAIN`. -/
def read (k : Kernel) (fd : ℤ) (n : ℕ) : ℤ × List UInt8 × Kernel :=
  match k.file? fd with
  | some (.readEnd p) =>
    match k.pipes[p]? with
    | some q =>
      if q.items = [] then (-1, [], k)
      else
        let r := q.pop n
        (r.1.length, r.1, { k with pipes := k.pipes.set p r.2 })
    | none => (-1, [], k)
  | _ => (-1, [], k)

/-- `close`. -/
def close (k : Kernel) (fd : ℕ) : Kernel := { k with descriptors := k.descriptors.set fd none }

/-- Open another file, at the lowest free number. -/
def openOther (k : Kernel) (n : ℕ) : Kernel :=
  { k with descriptors := k.descriptors.openLowest (.other n) }

@[simp] lemma file?_natCast (k : Kernel) (fd : ℕ) : k.file? fd = k.descriptors.get? fd := by
  rw [file?, if_pos (Int.natCast_nonneg fd), Int.toNat_natCast]

@[simp] lemma descriptors_write (k : Kernel) (fd : ℤ) (bytes : List UInt8) :
    (k.write fd bytes).2.descriptors = k.descriptors := by
  unfold write
  split
  · split
    · split <;> rfl
    · rfl
  · rfl
  · rfl

@[simp] lemma descriptors_read (k : Kernel) (fd : ℤ) (n : ℕ) :
    (k.read fd n).2.2.descriptors = k.descriptors := by
  unfold read
  split
  · split
    · split <;> rfl
    · rfl
  · rfl

@[simp] lemma length_pipes_write (k : Kernel) (fd : ℤ) (bytes : List UInt8) :
    (k.write fd bytes).2.pipes.length = k.pipes.length := by
  unfold write
  split
  · split
    · split
      · exact List.length_set
      · rfl
    · rfl
  · rfl
  · rfl

@[simp] lemma length_pipes_read (k : Kernel) (fd : ℤ) (n : ℕ) :
    (k.read fd n).2.2.pipes.length = k.pipes.length := by
  unfold read
  split
  · split
    · split
      · rfl
      · exact List.length_set
    · rfl
  · rfl

end Kernel

/-! ## The emulation -/

/-- `QNX_EFD_TABLE_SIZE`. -/
def qnxEfdTableSize : ℤ := 256

/-- The kernel and the static variables of the emulation in each translation unit of `υ`. -/
structure QnxEventfd (υ : Type*) where
  kernel : Kernel
  /-- `qnx_efd_write_end`. -/
  qnxEfdWriteEnd : υ → ℕ → ℤ
  /-- `qnx_efd_table_init`. -/
  qnxEfdTableInit : υ → Bool

namespace QnxEventfd

variable {υ : Type*} [DecidableEq υ]

/-- `qnx_efd_init_table` of a translation unit. -/
def qnxEfdInitTable (s : QnxEventfd υ) (u : υ) : QnxEventfd υ :=
  if s.qnxEfdTableInit u then s
  else
    { s with
      qnxEfdWriteEnd := Function.update s.qnxEfdWriteEnd u fun _ => -1
      qnxEfdTableInit := Function.update s.qnxEfdTableInit u true }

/-- `qnx_eventfd`; `pipeOk` says whether `pipe` succeeds. -/
def qnxEventfd (capacity : PipeCapacity) (s : QnxEventfd υ) (u : υ) (initval : UInt32)
    (pipeOk : Bool) : ℤ × QnxEventfd υ :=
  let s := s.qnxEfdInitTable u
  if pipeOk then
    let r := s.kernel.pipe capacity
    let table :=
      if (r.1.1 : ℤ) < qnxEfdTableSize then Function.update (s.qnxEfdWriteEnd u) r.1.1 r.1.2
      else s.qnxEfdWriteEnd u
    let kernel :=
      if 0 < initval then (r.2.write r.1.2 (eventfdBytes initval.toUInt64)).2 else r.2
    (r.1.1, ⟨kernel, Function.update s.qnxEfdWriteEnd u table, s.qnxEfdTableInit⟩)
  else (-1, s)

/-- The descriptor `eventfd_write` of a translation unit writes to. -/
def eventfdWriteTarget (s : QnxEventfd υ) (u : υ) (fd : ℤ) : ℤ :=
  let wfd :=
    if 0 ≤ fd ∧ fd < qnxEfdTableSize then (s.qnxEfdInitTable u).qnxEfdWriteEnd u fd.toNat else -1
  if wfd < 0 then fd else wfd

/-- `eventfd_write`. -/
def eventfdWrite (s : QnxEventfd υ) (u : υ) (fd : ℤ) (value : UInt64) : ℤ × QnxEventfd υ :=
  let r := s.kernel.write (s.eventfdWriteTarget u fd) (eventfdBytes value)
  (if r.1 = 8 then 0 else -1, { s.qnxEfdInitTable u with kernel := r.2 })

/-- `eventfd_read`, with the value it stores. -/
def eventfdRead (s : QnxEventfd υ) (fd : ℤ) : ℤ × UInt64 × QnxEventfd υ :=
  let r := s.kernel.read fd 8
  (if r.1 = 8 then 0 else -1, eventfdOfBytes r.2.1, { s with kernel := r.2.2 })

/-! ## Programs -/

/-- The calls of a program.  What uses a table is called in some translation unit. -/
inductive Call (υ : Type*)
  | eventfd (unit : υ) (initval : UInt32) (pipeOk : Bool)
  | eventfdWrite (unit : υ) (fd : ℕ) (value : UInt64)
  | eventfdRead (fd : ℕ)
  /-- Close an emulated eventfd. -/
  | close (fd : ℕ)
  /-- Open another file. -/
  | openOther (n : ℕ)
  /-- Close another file. -/
  | closeOther (fd : ℕ)
  deriving DecidableEq, Repr

omit [DecidableEq υ] in
/-- The pipe of a live emulated eventfd. -/
def pipeOf? (s : QnxEventfd υ) (fd : ℤ) : Option ℕ :=
  match s.kernel.file? fd with
  | some (.readEnd p) => some p
  | _ => none

omit [DecidableEq υ] in
/-- Whether a descriptor is open on a file that is no pipe of the emulation. -/
def isOther (s : QnxEventfd υ) (fd : ℕ) : Bool :=
  match s.kernel.descriptors.get? fd with
  | some (.other _) => true
  | _ => false

omit [DecidableEq υ] in
/-- The state before the first call: no emulated eventfd yet, and the static variables zero. -/
def init : QnxEventfd υ := ⟨⟨.empty, []⟩, fun _ _ => 0, fun _ => false⟩

/-- One call of a program.  It writes, reads and closes only eventfds that are live. -/
def step (capacity : PipeCapacity) (s : QnxEventfd υ) : Call υ → Option (QnxEventfd υ)
  | .eventfd u initval pipeOk => some (s.qnxEventfd capacity u initval pipeOk).2
  | .eventfdWrite u fd value =>
    if (s.pipeOf? fd).isSome then some (s.eventfdWrite u fd value).2 else none
  | .eventfdRead fd => if (s.pipeOf? fd).isSome then some (s.eventfdRead fd).2.2 else none
  | .close fd =>
    if (s.pipeOf? fd).isSome then some { s with kernel := s.kernel.close fd } else none
  | .openOther n => some { s with kernel := s.kernel.openOther n }
  | .closeOther fd => if s.isOther fd then some { s with kernel := s.kernel.close fd } else none

/-- A write to a live eventfd goes to the write end of its own pipe, and a write to any other
descriptor goes to that descriptor itself. -/
def WriteGoesHome (s : QnxEventfd υ) (u : υ) (fd : ℤ) : Prop :=
  (∀ p ∈ s.pipeOf? fd, s.kernel.file? (s.eventfdWriteTarget u fd) = some (.writeEnd p)) ∧
    (s.pipeOf? fd = none → s.eventfdWriteTarget u fd = fd)

instance (s : QnxEventfd υ) (u : υ) (fd : ℤ) : Decidable (s.WriteGoesHome u fd) :=
  inferInstanceAs (Decidable ((∀ p ∈ s.pipeOf? fd, _) ∧ (_ → _)))

/-- Writes go where they should, whatever the descriptor and the translation unit. -/
def WritesToOwnPipe (s : QnxEventfd υ) : Prop := ∀ (u : υ) (fd : ℤ), s.WriteGoesHome u fd

omit [DecidableEq υ] in
/-- The condition on a call: a new eventfd gets a number below 256 and is made in the only
translation unit there is, and no eventfd is closed. -/
def KeepsTableExact (s : QnxEventfd υ) : Call υ → Prop
  | .eventfd u _ pipeOk =>
    pipeOk → (s.kernel.descriptors.lowestFree : ℤ) < qnxEfdTableSize ∧ ∀ u', u' = u
  | .close _ => False
  | _ => True

/-! ## The layout -/

/-- What decides where a write goes: the descriptors, the number of pipes made so far, and the
tables as `eventfd_write` sees them in the translation units. -/
structure Layout (υ : Type*) where
  descriptors : DescriptorTable OpenFile
  pipeCount : ℕ
  writeEnd : υ → ℕ → ℤ

/-- The layout of a state. -/
def layout (s : QnxEventfd υ) : Layout υ :=
  ⟨s.kernel.descriptors, s.kernel.pipes.length,
    fun u => (s.qnxEfdInitTable u).qnxEfdWriteEnd u⟩

/-- The descriptors after `pipe` has opened the two ends of pipe number `n`. -/
def openEnds (descriptors : DescriptorTable OpenFile) (n : ℕ) : DescriptorTable OpenFile :=
  (descriptors.openLowest (.readEnd n)).openLowest (.writeEnd n)

/-- The number of the write end `pipe` opens. -/
def writeFd (descriptors : DescriptorTable OpenFile) (n : ℕ) : ℕ :=
  (descriptors.openLowest (.readEnd n)).lowestFree

/-- The layout after a translation unit has made a new eventfd. -/
def Layout.create (l : Layout υ) (u : υ) : Layout υ :=
  ⟨openEnds l.descriptors l.pipeCount, l.pipeCount + 1,
    if (l.descriptors.lowestFree : ℤ) < qnxEfdTableSize then
      Function.update l.writeEnd u
        (Function.update (l.writeEnd u) l.descriptors.lowestFree
          (writeFd l.descriptors l.pipeCount))
    else l.writeEnd⟩

omit [DecidableEq υ] in
/-- The layout after a descriptor has got another file, or none. -/
def Layout.setFile (l : Layout υ) (fd : ℕ) (file : Option OpenFile) : Layout υ :=
  { l with descriptors := l.descriptors.set fd file }

@[simp] lemma kernel_qnxEfdInitTable (s : QnxEventfd υ) (u : υ) :
    (s.qnxEfdInitTable u).kernel = s.kernel := by
  unfold qnxEfdInitTable
  split <;> rfl

/-- What `eventfd_write` sees in a table. -/
lemma layout_writeEnd (s : QnxEventfd υ) (u : υ) :
    s.layout.writeEnd u = if s.qnxEfdTableInit u then s.qnxEfdWriteEnd u else fun _ => -1 := by
  change (s.qnxEfdInitTable u).qnxEfdWriteEnd u = _
  unfold qnxEfdInitTable
  split_ifs
  · rfl
  · exact Function.update_self ..

/-- Another kernel state changes the layout in its descriptors and pipes only. -/
lemma layout_withKernel (s : QnxEventfd υ) (kernel : Kernel) :
    { s with kernel := kernel }.layout =
      ⟨kernel.descriptors, kernel.pipes.length, s.layout.writeEnd⟩ := by
  refine congrArg (Layout.mk _ _) (funext fun u => ?_)
  exact (layout_writeEnd _ u).trans (layout_writeEnd s u).symm

/-- The initialisation of one table does not change what `eventfd_write` sees in any. -/
lemma layout_qnxEfdInitTable (s : QnxEventfd υ) (u : υ) :
    (s.qnxEfdInitTable u).layout = s.layout := by
  unfold layout
  rw [kernel_qnxEfdInitTable]
  refine congrArg (Layout.mk _ _) (funext fun u' => ?_)
  refine (layout_writeEnd _ u').trans (Eq.trans ?_ (layout_writeEnd s u').symm)
  by_cases hu : s.qnxEfdTableInit u
  · rw [show s.qnxEfdInitTable u = s from if_pos hu]
  · rcases eq_or_ne u' u with rfl | hne <;> simp [qnxEfdInitTable, *]

lemma layout_eventfdWrite (s : QnxEventfd υ) (u : υ) (fd : ℤ) (value : UInt64) :
    (s.eventfdWrite u fd value).2.layout = s.layout := by
  refine (layout_withKernel (s.qnxEfdInitTable u) _).trans ?_
  rw [Kernel.descriptors_write, Kernel.length_pipes_write, layout_qnxEfdInitTable]
  rfl

lemma layout_eventfdRead (s : QnxEventfd υ) (fd : ℤ) :
    (s.eventfdRead fd).2.2.layout = s.layout := by
  refine (layout_withKernel s _).trans ?_
  rw [Kernel.descriptors_read, Kernel.length_pipes_read]
  rfl

lemma layout_close (s : QnxEventfd υ) (fd : ℕ) :
    { s with kernel := s.kernel.close fd }.layout = s.layout.setFile fd none :=
  layout_withKernel s _

lemma layout_openOther (s : QnxEventfd υ) (n : ℕ) :
    { s with kernel := s.kernel.openOther n }.layout =
      s.layout.setFile s.layout.descriptors.lowestFree (some (.other n)) :=
  layout_withKernel s _

lemma qnxEfdTableInit_qnxEfdInitTable (s : QnxEventfd υ) (u : υ) :
    (s.qnxEfdInitTable u).qnxEfdTableInit u = true := by
  unfold qnxEfdInitTable
  split
  · assumption
  · exact Function.update_self ..

/-- Another table of a translation unit whose table is initialised. -/
lemma layout_update {s : QnxEventfd υ} {u : υ} (h : s.qnxEfdTableInit u) (kernel : Kernel)
    (table : ℕ → ℤ) :
    (⟨kernel, Function.update s.qnxEfdWriteEnd u table, s.qnxEfdTableInit⟩ :
        QnxEventfd υ).layout =
      ⟨kernel.descriptors, kernel.pipes.length, Function.update s.layout.writeEnd u table⟩ := by
  refine congrArg (Layout.mk _ _) (funext fun u' => (layout_writeEnd _ u').trans ?_)
  dsimp only
  rcases eq_or_ne u' u with rfl | hne
  · rw [if_pos h, Function.update_self, Function.update_self]
  · rw [Function.update_of_ne hne, Function.update_of_ne hne, layout_writeEnd]

lemma layout_qnxEventfd (capacity : PipeCapacity) (s : QnxEventfd υ) (u : υ) (initval : UInt32)
    (pipeOk : Bool) :
    (s.qnxEventfd capacity u initval pipeOk).2.layout =
      if pipeOk then s.layout.create u else s.layout := by
  cases pipeOk with
  | false => exact layout_qnxEfdInitTable s u
  | true =>
    have hinit := qnxEfdTableInit_qnxEfdInitTable s u
    rw [if_pos rfl, ← layout_qnxEfdInitTable s u]
    refine (layout_update hinit _ _).trans ?_
    have hown : (s.qnxEfdInitTable u).layout.writeEnd u = (s.qnxEfdInitTable u).qnxEfdWriteEnd u :=
      (layout_writeEnd _ u).trans (if_pos hinit)
    generalize s.qnxEfdInitTable u = t at hown
    refine congr (congrArg₂ Layout.mk ?_ ?_) ?_
    · split_ifs <;> simp [Kernel.pipe, openEnds, layout]
    · split_ifs <;> simp [Kernel.pipe, layout]
    · rw [hown, apply_ite (Function.update t.layout.writeEnd u), ← hown, Function.update_eq_self]
      rfl

/-- The target of a write, from the layout. -/
lemma eventfdWriteTarget_natCast (s : QnxEventfd υ) (u : υ) (fd : ℕ) :
    s.eventfdWriteTarget u fd =
      if (fd : ℤ) < qnxEfdTableSize ∧ 0 ≤ s.layout.writeEnd u fd then s.layout.writeEnd u fd
      else fd := by
  have htable : (s.qnxEfdInitTable u).qnxEfdWriteEnd u = s.layout.writeEnd u := rfl
  unfold eventfdWriteTarget
  rw [Int.toNat_natCast, htable]
  by_cases hlt : (fd : ℤ) < qnxEfdTableSize
  · simp only [Int.natCast_nonneg, hlt, true_and, if_true]
    split_ifs <;> omega
  · simp [hlt]

/-- A negative number is not in the table. -/
lemma eventfdWriteTarget_of_neg (s : QnxEventfd υ) (u : υ) {fd : ℤ} (h : fd < 0) :
    s.eventfdWriteTarget u fd = fd := by
  have hrange : ¬ (0 ≤ fd ∧ fd < qnxEfdTableSize) := fun hr => absurd hr.1 (not_le.mpr h)
  simp [eventfdWriteTarget, hrange]

/-! ## The invariants -/

section OpenEnds

variable (t : DescriptorTable OpenFile) (n : ℕ)

lemma writeFd_ne_lowestFree : writeFd t n ≠ t.lowestFree := by
  have hopen : (t.openLowest (.readEnd n)).get? t.lowestFree = some (.readEnd n) :=
    DescriptorTable.get?_set_self ..
  exact fun h => DescriptorTable.ne_lowestFree hopen h.symm

lemma get?_openEnds (fd : ℕ) : (openEnds t n).get? fd =
    if fd = writeFd t n then some (.writeEnd n)
    else if fd = t.lowestFree then some (.readEnd n) else t.get? fd := by
  unfold openEnds writeFd DescriptorTable.openLowest
  rw [DescriptorTable.get?_set, DescriptorTable.get?_set]

lemma get?_writeFd : t.get? (writeFd t n) = none := by
  have hfree : (t.openLowest (.readEnd n)).get? (writeFd t n) = none :=
    DescriptorTable.get?_lowestFree _
  rwa [DescriptorTable.openLowest, DescriptorTable.get?_set_ne _ _ (writeFd_ne_lowestFree t n)]
    at hfree

variable {t n}

/-- A descriptor that was open is still open on the same file. -/
lemma get?_openEnds_of_some {fd : ℕ} {file : OpenFile} (h : t.get? fd = some file) :
    (openEnds t n).get? fd = some file := by
  have hwrite : fd ≠ writeFd t n := by
    rintro rfl
    rw [get?_writeFd] at h
    cases h
  rw [get?_openEnds, if_neg hwrite, if_neg (DescriptorTable.ne_lowestFree h), h]

/-- The read ends after `pipe`: the new one and the old ones. -/
lemma get?_openEnds_eq_readEnd {fd p : ℕ} (h : (openEnds t n).get? fd = some (.readEnd p)) :
    fd = t.lowestFree ∧ p = n ∨ fd ≠ t.lowestFree ∧ t.get? fd = some (.readEnd p) := by
  rw [get?_openEnds] at h
  split_ifs at h with hwrite hread
  · cases h
  · cases h
    exact Or.inl ⟨hread, rfl⟩
  · exact Or.inr ⟨hread, h⟩

end OpenEnds

/-- **The invariant of every run.**  Pipes are numbered as they are made, two live eventfds have
different pipes, some table has the write end of a live eventfd below 256, and an entry of any table
is the write end of a pipe that is read at this number, if it is read at all. -/
structure Recorded (l : Layout υ) : Prop where
  readEnd_lt {fd p : ℕ} : l.descriptors.get? fd = some (.readEnd p) → p < l.pipeCount
  readEnd_inj {fd fd' p : ℕ} : l.descriptors.get? fd = some (.readEnd p) →
    l.descriptors.get? fd' = some (.readEnd p) → fd = fd'
  entry {fd p : ℕ} : l.descriptors.get? fd = some (.readEnd p) → (fd : ℤ) < qnxEfdTableSize →
    ∃ (u : υ) (w : ℕ), l.writeEnd u fd = w ∧ l.descriptors.get? w = some (.writeEnd p)
  target {u : υ} {fd : ℕ} : 0 ≤ l.writeEnd u fd →
    ∃ w p : ℕ, l.writeEnd u fd = w ∧ l.descriptors.get? w = some (.writeEnd p) ∧
      p < l.pipeCount ∧ ∀ fd', l.descriptors.get? fd' = some (.readEnd p) → fd' = fd

/-- **The invariant of the runs that keep the tables exact.**  Moreover there is a live eventfd only
in a program with a single translation unit, all live eventfds are below 256, and the entries of all
other numbers are -1. -/
structure TableExact (l : Layout υ) : Prop extends Recorded l where
  sole {fd p : ℕ} : l.descriptors.get? fd = some (.readEnd p) → ∀ u u' : υ, u = u'
  readEnd_lt_size {fd p : ℕ} :
    l.descriptors.get? fd = some (.readEnd p) → (fd : ℤ) < qnxEfdTableSize
  writeEnd_eq {u : υ} {fd : ℕ} :
    (∀ p, l.descriptors.get? fd ≠ some (.readEnd p)) → l.writeEnd u fd = -1

/-- A new eventfd changes one table at most, at its own number. -/
lemma writeEnd_create (l : Layout υ) (u u' : υ) (fd : ℕ) :
    u' = u ∧ fd = l.descriptors.lowestFree ∧
        (l.create u).writeEnd u' fd = writeFd l.descriptors l.pipeCount ∨
      (l.create u).writeEnd u' fd = l.writeEnd u' fd := by
  unfold Layout.create
  dsimp only
  split_ifs
  · rcases eq_or_ne u' u with rfl | hunit
    · rw [Function.update_self]
      rcases eq_or_ne fd l.descriptors.lowestFree with rfl | hne
      · exact Or.inl ⟨rfl, rfl, Function.update_self ..⟩
      · exact Or.inr (Function.update_of_ne hne _ _)
    · rw [Function.update_of_ne hunit]
      exact Or.inr rfl
  · exact Or.inr rfl

/-- The tables after a new eventfd, at another number. -/
lemma writeEnd_create_of_ne (l : Layout υ) (u u' : υ) {fd : ℕ}
    (h : fd ≠ l.descriptors.lowestFree) :
    (l.create u).writeEnd u' fd = l.writeEnd u' fd := by
  rcases writeEnd_create l u u' fd with ⟨-, hfd, -⟩ | hsame
  · exact absurd hfd h
  · exact hsame

/-- The table of the translation unit after a new eventfd, at its own number. -/
lemma writeEnd_create_self {l : Layout υ} (u : υ)
    (h : (l.descriptors.lowestFree : ℤ) < qnxEfdTableSize) :
    (l.create u).writeEnd u l.descriptors.lowestFree = writeFd l.descriptors l.pipeCount := by
  unfold Layout.create
  dsimp only
  rw [if_pos h, Function.update_self, Function.update_self]

/-- The new eventfd. -/
lemma get?_create_lowestFree (l : Layout υ) (u : υ) :
    (l.create u).descriptors.get? l.descriptors.lowestFree = some (.readEnd l.pipeCount) := by
  rw [Layout.create, get?_openEnds, if_neg (Ne.symm (writeFd_ne_lowestFree _ _)), if_pos rfl]

/-- The write end of the new eventfd. -/
lemma get?_create_writeFd (l : Layout υ) (u : υ) :
    (l.create u).descriptors.get? (writeFd l.descriptors l.pipeCount) =
      some (.writeEnd l.pipeCount) :=
  (get?_openEnds ..).trans (if_pos rfl)

lemma Recorded.create {l : Layout υ} (h : Recorded l) (u : υ) : Recorded (l.create u) where
  readEnd_lt := by
    intro fd p hfd
    rcases get?_openEnds_eq_readEnd hfd with ⟨-, rfl⟩ | ⟨-, hold⟩
    · exact Nat.lt_succ_self _
    · exact (h.readEnd_lt hold).trans (Nat.lt_succ_self _)
  readEnd_inj := by
    intro fd fd' p hfd hfd'
    rcases get?_openEnds_eq_readEnd hfd with ⟨rfl, rfl⟩ | ⟨-, hold⟩
    · rcases get?_openEnds_eq_readEnd hfd' with ⟨rfl, -⟩ | ⟨-, hold'⟩
      · rfl
      · exact absurd (h.readEnd_lt hold') (lt_irrefl _)
    · rcases get?_openEnds_eq_readEnd hfd' with ⟨-, rfl⟩ | ⟨-, hold'⟩
      · exact absurd (h.readEnd_lt hold) (lt_irrefl _)
      · exact h.readEnd_inj hold hold'
  entry := by
    intro fd p hfd hlt
    rcases get?_openEnds_eq_readEnd hfd with ⟨rfl, rfl⟩ | ⟨hne, hold⟩
    · exact ⟨u, _, writeEnd_create_self u hlt, get?_create_writeFd l u⟩
    · obtain ⟨u', w, hw, hfile⟩ := h.entry hold hlt
      exact ⟨u', w, (writeEnd_create_of_ne l u u' hne).trans hw, get?_openEnds_of_some hfile⟩
  target := by
    intro u' fd hentry
    rcases writeEnd_create l u u' fd with ⟨-, rfl, hnew⟩ | hsame
    · refine ⟨_, l.pipeCount, hnew, get?_create_writeFd l u, Nat.lt_succ_self _, ?_⟩
      intro fd' hfd'
      rcases get?_openEnds_eq_readEnd hfd' with ⟨hfd', -⟩ | ⟨-, hold⟩
      · exact hfd'
      · exact absurd (h.readEnd_lt hold) (lt_irrefl _)
    · rw [hsame] at hentry ⊢
      obtain ⟨w, p, hw, hfile, hlt, hreader⟩ := h.target hentry
      refine ⟨w, p, hw, get?_openEnds_of_some hfile, hlt.trans (Nat.lt_succ_self _), ?_⟩
      intro fd' hfd'
      rcases get?_openEnds_eq_readEnd hfd' with ⟨-, rfl⟩ | ⟨-, hold⟩
      · exact absurd hlt (lt_irrefl _)
      · exact hreader fd' hold

omit [DecidableEq υ] in
/-- Another file at a number makes no descriptor a read end, unless it is one. -/
lemma get?_of_get?_setFile_eq_readEnd {l : Layout υ} {fd fd' p : ℕ} {file : Option OpenFile}
    (hnew : ∀ p, file ≠ some (.readEnd p))
    (h : (l.setFile fd file).descriptors.get? fd' = some (.readEnd p)) :
    l.descriptors.get? fd' = some (.readEnd p) := by
  rw [Layout.setFile, DescriptorTable.get?_set] at h
  split_ifs at h
  · exact absurd h (hnew p)
  · exact h

omit [DecidableEq υ] in
/-- Opening and closing descriptors other than write ends keeps the records. -/
lemma Recorded.setFile {l : Layout υ} (h : Recorded l) {fd : ℕ} {file : Option OpenFile}
    (hold : ∀ p, l.descriptors.get? fd ≠ some (.writeEnd p))
    (hnew : ∀ p, file ≠ some (.readEnd p)) :
    Recorded (l.setFile fd file) := by
  have hwrite {w p : ℕ} (hw : l.descriptors.get? w = some (.writeEnd p)) :
      (l.setFile fd file).descriptors.get? w = some (.writeEnd p) := by
    have hne : w ≠ fd := by
      rintro rfl
      exact hold _ hw
    rw [Layout.setFile, DescriptorTable.get?_set_ne _ _ hne, hw]
  have hread {fd' p : ℕ} (hfd' : (l.setFile fd file).descriptors.get? fd' = some (.readEnd p)) :
      l.descriptors.get? fd' = some (.readEnd p) := get?_of_get?_setFile_eq_readEnd hnew hfd'
  refine ⟨fun hfd' => h.readEnd_lt (hread hfd'),
    fun hfd' hfd'' => h.readEnd_inj (hread hfd') (hread hfd''), fun hfd' hlt => ?_,
    fun hentry => ?_⟩
  · obtain ⟨u, w, hw, hfile⟩ := h.entry (hread hfd') hlt
    exact ⟨u, w, hw, hwrite hfile⟩
  · obtain ⟨w, p, hw, hfile, hlt, hreader⟩ := h.target hentry
    exact ⟨w, p, hw, hwrite hfile, hlt, fun fd' hfd' => hreader fd' (hread hfd')⟩

lemma TableExact.create {l : Layout υ} (h : TableExact l) {u : υ}
    (hlt : (l.descriptors.lowestFree : ℤ) < qnxEfdTableSize) (hsole : ∀ u', u' = u) :
    TableExact (l.create u) where
  toRecorded := h.toRecorded.create u
  sole _ u₁ u₂ := (hsole u₁).trans (hsole u₂).symm
  readEnd_lt_size := by
    intro fd p hfd
    rcases get?_openEnds_eq_readEnd hfd with ⟨rfl, -⟩ | ⟨-, hold⟩
    · exact hlt
    · exact h.readEnd_lt_size hold
  writeEnd_eq := by
    intro u' fd hfile
    have hne : fd ≠ l.descriptors.lowestFree := by
      rintro rfl
      exact hfile l.pipeCount (get?_create_lowestFree l u)
    rw [writeEnd_create_of_ne l u u' hne]
    exact h.writeEnd_eq fun p hp => hfile p (get?_openEnds_of_some hp)

omit [DecidableEq υ] in
/-- Opening and closing other files keeps the tables exact. -/
lemma TableExact.setFile {l : Layout υ} (h : TableExact l) {fd : ℕ} {file : Option OpenFile}
    (hold : ∀ p, l.descriptors.get? fd ≠ some (.writeEnd p) ∧
      l.descriptors.get? fd ≠ some (.readEnd p)) (hnew : ∀ p, file ≠ some (.readEnd p)) :
    TableExact (l.setFile fd file) where
  toRecorded := h.toRecorded.setFile (fun p => (hold p).1) hnew
  sole hfd := h.sole (get?_of_get?_setFile_eq_readEnd hnew hfd)
  readEnd_lt_size hfd := h.readEnd_lt_size (get?_of_get?_setFile_eq_readEnd hnew hfd)
  writeEnd_eq := by
    intro u fd' hfile
    refine h.writeEnd_eq fun p hp => hfile p ?_
    have hne : fd' ≠ fd := by
      rintro rfl
      exact (hold p).2 hp
    rwa [Layout.setFile, DescriptorTable.get?_set_ne _ _ hne]

/-! ## Steps -/

lemma pipeOf?_eq_some_iff {s : QnxEventfd υ} {fd p : ℕ} :
    s.pipeOf? fd = some p ↔ s.layout.descriptors.get? fd = some (.readEnd p) := by
  unfold pipeOf? layout
  rw [Kernel.file?_natCast]
  split <;> simp_all

lemma isOther_iff {s : QnxEventfd υ} {fd : ℕ} :
    s.isOther fd ↔ ∃ n, s.layout.descriptors.get? fd = some (.other n) := by
  unfold isOther layout
  split <;> simp_all

/-- A call on an eventfd needs a live one. -/
lemma ite_isSome_pipeOf?_eq_some_iff {s s' s'' : QnxEventfd υ} {fd : ℕ} :
    (if (s.pipeOf? fd).isSome then some s'' else none) = some s' ↔
      (∃ p, s.layout.descriptors.get? fd = some (.readEnd p)) ∧ s'' = s' := by
  rw [Option.ite_some_none_eq_some, Option.isSome_iff_exists]
  simp only [pipeOf?_eq_some_iff]

/-- What a call does to the layout. -/
def Layout.Next (l l' : Layout υ) : Call υ → Prop
  | .eventfd u _ pipeOk => l' = if pipeOk then l.create u else l
  | .eventfdWrite _ _ _ | .eventfdRead _ => l' = l
  | .close fd => (∃ p, l.descriptors.get? fd = some (.readEnd p)) ∧ l' = l.setFile fd none
  | .openOther n => l' = l.setFile l.descriptors.lowestFree (some (.other n))
  | .closeOther fd => (∃ n, l.descriptors.get? fd = some (.other n)) ∧ l' = l.setFile fd none

lemma layout_next {capacity : PipeCapacity} {s s' : QnxEventfd υ} {call : Call υ}
    (hstep : s.step capacity call = some s') : s.layout.Next s'.layout call := by
  cases call with
  | eventfd u initval pipeOk =>
    cases hstep
    exact layout_qnxEventfd capacity s u initval pipeOk
  | eventfdWrite u fd value =>
    obtain ⟨-, rfl⟩ := ite_isSome_pipeOf?_eq_some_iff.mp hstep
    exact layout_eventfdWrite s u fd value
  | eventfdRead fd =>
    obtain ⟨-, rfl⟩ := ite_isSome_pipeOf?_eq_some_iff.mp hstep
    exact layout_eventfdRead s fd
  | close fd =>
    obtain ⟨hlive, rfl⟩ := ite_isSome_pipeOf?_eq_some_iff.mp hstep
    exact ⟨hlive, layout_close s fd⟩
  | openOther n =>
    cases hstep
    exact layout_openOther s n
  | closeOther fd =>
    obtain ⟨hother, rfl⟩ := Option.ite_some_none_eq_some.mp hstep
    exact ⟨isOther_iff.mp hother, layout_close s fd⟩

lemma tableExact_init : TableExact (init : QnxEventfd υ).layout where
  readEnd_lt h := by cases h
  readEnd_inj h := by cases h
  entry h := by cases h
  target {u _} h := by
    rw [layout_writeEnd] at h
    cases h
  sole h := by cases h
  readEnd_lt_size h := by cases h
  writeEnd_eq {u _} _ := by
    rw [layout_writeEnd]
    rfl

/-- Every call keeps the records. -/
lemma Recorded.step {capacity : PipeCapacity} {s s' : QnxEventfd υ} {call : Call υ}
    (h : Recorded s.layout) (hstep : s.step capacity call = some s') : Recorded s'.layout := by
  have hlayout := layout_next hstep
  cases call with
  | eventfd u initval pipeOk =>
    rw [hlayout]
    split
    · exact h.create u
    · exact h
  | eventfdWrite u fd value => rwa [hlayout]
  | eventfdRead fd => rwa [hlayout]
  | close fd =>
    obtain ⟨⟨p, hp⟩, hlayout⟩ := hlayout
    rw [hlayout]
    exact h.setFile (by simp [hp]) (by simp)
  | openOther n =>
    rw [hlayout]
    exact h.setFile (by simp [DescriptorTable.get?_lowestFree]) (by simp)
  | closeOther fd =>
    obtain ⟨⟨n, hn⟩, hlayout⟩ := hlayout
    rw [hlayout]
    exact h.setFile (by simp [hn]) (by simp)

/-- In every run of every program the tables are recorded. -/
theorem recorded_of_reachable {capacity : PipeCapacity} {s : QnxEventfd υ}
    (h : Reachable (step capacity) init s) : Recorded s.layout :=
  h.invariant (I := fun s => Recorded s.layout) tableExact_init.toRecorded
    fun _ _ _ h hstep => h.step hstep

/-- A call that meets the condition keeps the tables exact. -/
lemma TableExact.step {capacity : PipeCapacity} {s s' : QnxEventfd υ} {call : Call υ}
    (h : TableExact s.layout) (hkeeps : s.KeepsTableExact call)
    (hstep : s.step capacity call = some s') : TableExact s'.layout := by
  have hlayout := layout_next hstep
  cases call with
  | eventfd u initval pipeOk =>
    rw [hlayout]
    split
    · rename_i hok
      exact h.create (hkeeps hok).1 (hkeeps hok).2
    · exact h
  | eventfdWrite u fd value => rwa [hlayout]
  | eventfdRead fd => rwa [hlayout]
  | close fd => exact hkeeps.elim
  | openOther n =>
    rw [hlayout]
    exact h.setFile (by simp [DescriptorTable.get?_lowestFree]) (by simp)
  | closeOther fd =>
    obtain ⟨⟨n, hn⟩, hlayout⟩ := hlayout
    rw [hlayout]
    exact h.setFile (by simp [hn]) (by simp)

/-- A write goes to the descriptor itself, or to the write end of a pipe that is read at this
descriptor, if it is read at all. -/
lemma Recorded.eventfdWriteTarget_cases {s : QnxEventfd υ} (h : Recorded s.layout) (u : υ)
    (fd : ℕ) :
    s.eventfdWriteTarget u fd = fd ∨
      ∃ p, s.kernel.file? (s.eventfdWriteTarget u fd) = some (.writeEnd p) ∧
        ∀ fd', s.layout.descriptors.get? fd' = some (.readEnd p) → fd' = fd := by
  rw [eventfdWriteTarget_natCast]
  split_ifs with hrange
  · obtain ⟨w, p, hw, hfile, -, hreader⟩ := h.target hrange.2
    refine Or.inr ⟨p, ?_, hreader⟩
    rw [hw, Kernel.file?_natCast]
    exact hfile
  · exact Or.inl rfl

/-- A write goes to the descriptor itself if its number is not in the table of the translation
unit. -/
lemma eventfdWriteTarget_eq_self {s : QnxEventfd υ} {u : υ} {fd : ℕ}
    (h : (fd : ℤ) < qnxEfdTableSize → s.layout.writeEnd u fd = -1) :
    s.eventfdWriteTarget u fd = fd := by
  rw [eventfdWriteTarget_natCast]
  refine if_neg fun hr => ?_
  have hentry := hr.2
  rw [h hr.1] at hentry
  exact absurd hentry (by decide)

/-- A descriptor that is no live eventfd. -/
lemma get?_ne_readEnd {s : QnxEventfd υ} {fd : ℕ} (h : s.pipeOf? fd = none) (p : ℕ) :
    s.layout.descriptors.get? fd ≠ some (.readEnd p) := by
  intro hread
  rw [pipeOf?_eq_some_iff.mpr hread] at h
  cases h

/-- The invariant contains the property. -/
lemma TableExact.writesToOwnPipe {s : QnxEventfd υ} (h : TableExact s.layout) :
    s.WritesToOwnPipe := by
  intro u fd
  rcases lt_or_ge fd 0 with hneg | hnonneg
  · have hpipe : s.pipeOf? fd = none := by
      rw [pipeOf?, Kernel.file?, if_neg (not_le.mpr hneg)]
    exact ⟨by simp [hpipe], fun _ => eventfdWriteTarget_of_neg s u hneg⟩
  · obtain ⟨fd, rfl⟩ := Int.eq_ofNat_of_zero_le hnonneg
    refine ⟨fun p hp => ?_, fun hpipe => ?_⟩
    · have hread := pipeOf?_eq_some_iff.mp hp
      have hlt := h.readEnd_lt_size hread
      obtain ⟨u', w, hw, hfile⟩ := h.entry hread hlt
      obtain rfl := h.sole hread u u'
      rw [eventfdWriteTarget_natCast, hw, if_pos ⟨hlt, Int.natCast_nonneg w⟩, Kernel.file?_natCast]
      exact hfile
    · exact eventfdWriteTarget_eq_self fun _ => h.writeEnd_eq (get?_ne_readEnd hpipe)

/-- A write to a live eventfd that goes to the read end itself does not reach the pipe. -/
lemma not_writeGoesHome_of_eq_self {s : QnxEventfd υ} {u : υ} {fd p : ℕ}
    (hread : s.layout.descriptors.get? fd = some (.readEnd p))
    (hself : s.eventfdWriteTarget u fd = fd) : ¬ s.WriteGoesHome u fd := by
  intro hown
  have hfd := hown.1 p (pipeOf?_eq_some_iff.mpr hread)
  rw [hself, Kernel.file?_natCast] at hfd
  cases hread.symm.trans hfd

/-- A call that does not meet the condition leaves a descriptor whose writes go astray. -/
lemma TableExact.not_writesToOwnPipe {capacity : PipeCapacity} {s s' : QnxEventfd υ}
    {call : Call υ} (h : TableExact s.layout) (hkeeps : ¬ s.KeepsTableExact call)
    (hstep : s.step capacity call = some s') : ¬ s'.WritesToOwnPipe := by
  have hlayout := layout_next hstep
  intro hown
  cases call with
  | eventfd u initval pipeOk =>
    obtain ⟨hok, hnot⟩ := Classical.not_imp.mp hkeeps
    rw [Layout.Next, if_pos hok] at hlayout
    have hread := get?_create_lowestFree s.layout u
    rw [← hlayout] at hread
    by_cases hsize : (s.layout.descriptors.lowestFree : ℤ) < qnxEfdTableSize
    · -- The table of another translation unit does not have the new eventfd.
      obtain ⟨u', hne⟩ := not_forall.mp fun hsole => hnot ⟨hsize, hsole⟩
      refine not_writeGoesHome_of_eq_self hread (eventfdWriteTarget_eq_self fun _ => ?_) (hown u' _)
      rcases writeEnd_create s.layout u u' s.layout.descriptors.lowestFree with
        ⟨hunit, -, -⟩ | hsame
      · exact absurd hunit hne
      · rw [hlayout, hsame]
        exact h.writeEnd_eq (by simp [DescriptorTable.get?_lowestFree])
    · -- The new eventfd is above the table.
      exact not_writeGoesHome_of_eq_self hread
        (eventfdWriteTarget_eq_self fun hlt => absurd hlt hsize) (hown u _)
  | close fd =>
    -- The entry of the closed eventfd still names the write end.
    obtain ⟨⟨p, hp⟩, hlayout⟩ := hlayout
    have hlt := h.readEnd_lt_size hp
    obtain ⟨u, w, hw, hfile⟩ := h.entry hp hlt
    have hclosed : s'.layout.descriptors.get? fd = none := by
      rw [hlayout, Layout.setFile, DescriptorTable.get?_set_self]
    have hpipe : s'.pipeOf? fd = none := by
      refine Option.eq_none_iff_forall_ne_some.mpr fun p' hp' => ?_
      cases hclosed.symm.trans (pipeOf?_eq_some_iff.mp hp')
    have hentry : s'.layout.writeEnd u fd = w := by rw [hlayout, Layout.setFile, hw]
    have hfd := (hown u fd).2 hpipe
    rw [eventfdWriteTarget_natCast, hentry, if_pos ⟨hlt, Int.natCast_nonneg w⟩] at hfd
    rw [Int.ofNat.inj hfd, hp] at hfile
    cases hfile
  | _ => exact hkeeps trivial

/-! ## Runs -/

/-- **Where writes go.**  Throughout a run every write to a live eventfd goes to its own pipe and
every other write to its own descriptor, whatever the translation unit that writes, if and only if
the run gives new eventfds only numbers below 256, makes them only in a program with a single
translation unit, and closes none. -/
theorem writesToOwnPipe_always_iff (capacity : PipeCapacity) (calls : List (Call υ)) :
    Always (step capacity) WritesToOwnPipe init calls ↔
      StepsMeet (step capacity) KeepsTableExact init calls :=
  always_iff_stepsMeet (I := fun s : QnxEventfd υ => TableExact s.layout) tableExact_init
    (fun _ h => h.writesToOwnPipe) (fun _ _ _ h hkeeps hstep => h.step hkeeps hstep)
    (fun _ _ _ h hkeeps hstep => h.not_writesToOwnPipe hkeeps hstep) calls

/-- With stdio open the first eventfd is 3.  After it has been closed and its number taken by
another file, a write to 3 goes to descriptor 4, the write end left behind. -/
theorem closedEventfd_not_writesToOwnPipe :
    ¬ ∀ (capacity : PipeCapacity) (calls : List (Call Unit)),
      Always (step capacity) WritesToOwnPipe init calls := by
  intro h
  have hrun := always_iff_forall_prefix.mp
    (h ⟨512, le_rfl⟩ [.openOther 0, .openOther 1, .openOther 2, .eventfd () 0 true, .close 3,
      .openOther 7]) _ List.prefix_rfl _ rfl
  exact absurd (hrun () 3) (by decide)

end QnxEventfd

end ChromiumQnx
