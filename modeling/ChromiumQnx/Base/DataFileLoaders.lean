import ChromiumQnx.Foundation.CHeap
import ChromiumQnx.Foundation.TransitionSystem
import Mathlib.Data.List.Perm.Basic
import Mathlib.Data.List.TakeWhile
import Mathlib.Data.Nat.Digits.Defs

/-!
# Loading the data files

On QNX the V8 snapshot and the ICU data are read into allocated memory with the functions of the C
library.  The snapshot is read once and its buffer is never given back; every failure ends the
process.  The ICU data may be read several times, and a failure gives back what was taken.

`dataFiles_right` says what holds after any sequence of the calls, whatever the system answers: no
access goes wrong, nothing that was taken is lost, and V8 and ICU only ever get complete files.
-/

namespace ChromiumQnx

open TransitionSystem

/-! ## The loaders -/

/-- What the system answers the calls of one load: whether `fopen` and the allocations succeed, what
`ftell` returns at the end of the file, and the bytes that `fread` finds. -/
structure FileAnswers where
  fopen : Bool
  ftell : Int32
  posixMemalign : Bool
  malloc : Bool
  bytes : List UInt8
  deriving DecidableEq, Repr

/-- `gin::V8SnapshotFileType`. -/
inductive V8SnapshotFileType
  | default
  | withAdditionalContext
  deriving DecidableEq, Repr

/-- What a process has of its data files: open streams, allocated memory, the globals of
`v8_initializer.cc`, the blob that V8 was given, and the buffers that ICU was given.  A process that
logged a fatal error is not alive. -/
structure DataFiles where
  streams : ℕ
  heap : CHeap UInt8
  /-- `g_qnx_snapshot_buf`. -/
  snapshotBuf : Option ℕ
  /-- `g_qnx_snapshot_size`. -/
  snapshotSize : ℕ
  /-- `g_snapshot_file_type`. -/
  snapshotFileType : Option V8SnapshotFileType
  /-- `v8_is_initialized`. -/
  v8IsInitialized : Bool
  snapshotBlob : Option (ℕ × ℕ)
  icuData : List ℕ
  alive : Bool

namespace DataFiles

/-- A process at its start. -/
def start : DataFiles where
  streams := 0
  heap := .empty
  snapshotBuf := none
  snapshotSize := 0
  snapshotFileType := none
  v8IsInitialized := false
  snapshotBlob := none
  icuData := []
  alive := true

/-- `LOG(FATAL)`. -/
def logFatal (s : DataFiles) : DataFiles := { s with alive := false }

/-- A successful `fopen`. -/
def openStream (s : DataFiles) : DataFiles := { s with streams := s.streams + 1 }

/-- `fclose`: there must be an open stream. -/
def fclose (s : DataFiles) : Option DataFiles :=
  if 0 < s.streams then some { s with streams := s.streams - 1 } else none

/-- The size of the aligned allocation, in 32 bits. -/
def alignedSize (size : ℕ) : ℕ := if size % 64 ≠ 0 then (size / 64 + 1) * 64 % 2 ^ 32 else size

/-- The allocation for the snapshot: aligned, or else not. -/
def allocateSnapshot (a : FileAnswers) (fileSize : ℕ) (heap : CHeap UInt8) :
    Option (CHeap UInt8) :=
  if a.posixMemalign then some (heap.malloc (alignedSize fileSize))
  else if a.malloc then some (heap.malloc fileSize)
  else none

/-- What `fread` reads of a file of a given size. -/
def fread (a : FileAnswers) (fileSize : ℕ) : List UInt8 := a.bytes.take fileSize

/-- The end of `LoadV8Snapshot`, from the call of `fread` into the new buffer on. -/
def readSnapshot (type : V8SnapshotFileType) (a : FileAnswers) (size p : ℕ) (s : DataFiles) :
    Option DataFiles :=
  (s.heap.store p (fread a size)).bind fun heap =>
    (fclose { s with heap := heap }).bind fun s =>
      if (fread a size).length ≠ size then some s.logFatal
      else some { s with snapshotSize := size, snapshotFileType := some type }

/-- `V8Initializer::LoadV8Snapshot`.  There is no result when memory or a stream is used wrongly. -/
def loadV8Snapshot (type : V8SnapshotFileType) (a : FileAnswers) (s : DataFiles) :
    Option DataFiles :=
  if s.snapshotBuf.isSome then some s
  else if a.fopen then
    let s := s.openStream
    if a.ftell.toInt ≤ 0 then some s.logFatal
    else
      let size := a.ftell.toInt.toNat
      match allocateSnapshot a size s.heap with
      | none => some s.logFatal
      | some heap =>
        readSnapshot type a size s.heap.next
          { s with heap := heap, snapshotBuf := some s.heap.next }
  else some s.logFatal

/-- The end of `InitializeICUFromDataFile`, from the call of `fread` into the new buffer on, with
the answers of `udata_setCommonData` and `udata_setFileAccess`. -/
def readICU (a : FileAnswers) (setCommonData setFileAccess : Bool) (size buf : ℕ) (s : DataFiles) :
    Option (Bool × DataFiles) :=
  (s.heap.store buf (fread a size)).bind fun heap =>
    (fclose { s with heap := heap }).bind fun s =>
      if (fread a size).length ≠ size then
        (s.heap.free buf).map fun heap => (false, { s with heap := heap })
      else if setCommonData then
        some (setFileAccess, { s with icuData := s.icuData ++ [buf] })
      else (s.heap.free buf).map fun heap => (false, { s with heap := heap })

/-- `InitializeICUFromDataFile`: what it returns, and the process after it. -/
def initializeICUFromDataFile (a : FileAnswers) (setCommonData setFileAccess : Bool)
    (s : DataFiles) : Option (Bool × DataFiles) :=
  if a.fopen then
    let s := s.openStream
    if a.ftell.toInt ≤ 0 then s.fclose.map fun s => (false, s)
    else
      let size := a.ftell.toInt.toNat
      if a.malloc then
        readICU a setCommonData setFileAccess size s.heap.next
          { s with heap := s.heap.malloc size }
      else s.fclose.map fun s => (false, s)
  else some (false, s)

/-- `V8Initializer::GetV8ExternalSnapshotData`: the data and their size, an `int`. -/
def getV8ExternalSnapshotData (s : DataFiles) : Option (ℕ × ℕ) :=
  s.snapshotBuf.map fun p => (p, s.snapshotSize)

/-- The part of `V8Initializer::Initialize` that hands the snapshot to V8, once. -/
def initializeV8 (s : DataFiles) : DataFiles :=
  if s.v8IsInitialized then s
  else
    { s with
      snapshotBlob := s.snapshotBuf.map fun p => (p, s.snapshotSize)
      v8IsInitialized := true }

/-- The calls. -/
inductive Call
  | loadV8Snapshot (type : V8SnapshotFileType) (a : FileAnswers)
  | initializeV8
  | initializeICUFromDataFile (a : FileAnswers) (setCommonData setFileAccess : Bool)
  deriving DecidableEq, Repr

/-- One call, in a process that is alive. -/
def step (s : DataFiles) (call : Call) : Option DataFiles :=
  if s.alive then
    match call with
    | .loadV8Snapshot type a => s.loadV8Snapshot type a
    | .initializeV8 => some s.initializeV8
    | .initializeICUFromDataFile a setCommonData setFileAccess =>
      (s.initializeICUFromDataFile a setCommonData setFileAccess).map Prod.snd
  else some s

/-! ## What a process should have -/

/-- The size that `ftell` tells. -/
def fileSize (a : FileAnswers) : ℕ := a.ftell.toInt.toNat

/-- The file was opened, is not empty, and was read as a whole. -/
def ReadWhole (a : FileAnswers) : Prop :=
  a.fopen ∧ 0 < fileSize a ∧ (fread a (fileSize a)).length = fileSize a

/-- A load of the snapshot that succeeds. -/
def SnapshotLoads (a : FileAnswers) : Prop := ReadWhole a ∧ (a.posixMemalign ∨ a.malloc)

instance (a : FileAnswers) : Decidable (ReadWhole a) := inferInstanceAs (Decidable (_ ∧ _ ∧ _))

instance (a : FileAnswers) : Decidable (SnapshotLoads a) := inferInstanceAs (Decidable (_ ∧ _))

/-- A load of the snapshot. -/
def snapshotLoad : Call → Option (V8SnapshotFileType × FileAnswers)
  | .loadV8Snapshot type a => some (type, a)
  | _ => none

/-- The first load of the snapshot. -/
def firstLoad (calls : List Call) : Option (V8SnapshotFileType × FileAnswers) :=
  calls.findSome? snapshotLoad

/-- The content of the file that a call gives to ICU. -/
def icuFile : Call → Option (List UInt8)
  | .initializeICUFromDataFile a setCommonData _ =>
    if ReadWhole a ∧ a.malloc ∧ setCommonData then some (fread a (fileSize a)) else none
  | _ => none

/-- V8 is initialized, and a load of the snapshot came before that. -/
def GivesSnapshot (calls : List Call) : Prop :=
  .initializeV8 ∈ calls ∧ (firstLoad (calls.takeWhile (· ≠ .initializeV8))).isSome

instance (calls : List Call) : Decidable (GivesSnapshot calls) :=
  inferInstanceAs (Decidable (_ ∧ _))

/-- The content of a buffer. -/
def content (s : DataFiles) (p : ℕ) : Option (List UInt8) := (s.heap.block? p).map Block.stored

/-- What a process that is alive has of its data files after the calls. -/
structure Holds (calls : List Call) (s : DataFiles) : Prop where
  /-- No stream is open. -/
  streams : s.streams = 0
  /-- What is allocated is the snapshot's buffer and those of ICU. -/
  blocks : (s.heap.blocks.map Prod.fst).Perm (s.snapshotBuf.toList ++ s.icuData)
  /-- The snapshot is the file of the first load, as a whole. -/
  snapshot : s.snapshotBuf.map s.content =
    (firstLoad calls).map fun load => some (fread load.2 (fileSize load.2))
  snapshotSize : ∀ load ∈ firstLoad calls, s.snapshotSize = fileSize load.2
  snapshotFileType : s.snapshotFileType = (firstLoad calls).map Prod.fst
  /-- V8 was given the snapshot if it was there when V8 was initialized. -/
  v8IsInitialized : s.v8IsInitialized = true ↔ .initializeV8 ∈ calls
  snapshotBlob : s.snapshotBlob = if GivesSnapshot calls then s.getV8ExternalSnapshotData else none
  /-- ICU was given the files that were read as a whole and that it took. -/
  icuData : s.icuData.map s.content = (calls.filterMap icuFile).map some

/-- What holds after the calls: the process is alive if the first load of the snapshot succeeded. -/
structure Right (calls : List Call) (s : DataFiles) : Prop where
  alive_iff : s.alive = true ↔ ∀ load ∈ firstLoad calls, SnapshotLoads load.2
  holds : s.alive = true → Holds calls s

lemma start_right : Right [] start where
  alive_iff := iff_of_true rfl fun _ hload => absurd hload (Option.not_mem_none _)
  holds _ :=
    { streams := rfl
      blocks := List.Perm.nil
      snapshot := rfl
      snapshotSize := fun _ hload => absurd hload (Option.not_mem_none _)
      snapshotFileType := rfl
      v8IsInitialized := by decide
      snapshotBlob := rfl
      icuData := rfl }

/-! ## One more call -/

lemma firstLoad_concat (calls : List Call) (c : Call) :
    firstLoad (calls ++ [c]) = (firstLoad calls).or (snapshotLoad c) := by
  rw [firstLoad, List.findSome?_append, List.findSome?_singleton]
  rfl

lemma firstLoad_concat_of_none {c : Call} (calls : List Call) (h : snapshotLoad c = none) :
    firstLoad (calls ++ [c]) = firstLoad calls := by
  rw [firstLoad_concat, h, Option.or_none]

lemma filterMap_icuFile_concat (calls : List Call) (c : Call) :
    (calls ++ [c]).filterMap icuFile = calls.filterMap icuFile ++ (icuFile c).toList := by
  rw [List.filterMap_append]
  cases h : icuFile c with
  | none => rw [List.filterMap_cons_none h]; rfl
  | some file => rw [List.filterMap_cons_some h]; rfl

/-- What comes before the first initialization stays the same once V8 is initialized. -/
lemma takeWhile_concat_of_mem {calls : List Call} (h : .initializeV8 ∈ calls) (c : Call) :
    (calls ++ [c]).takeWhile (· ≠ .initializeV8) = calls.takeWhile (· ≠ .initializeV8) := by
  rw [List.takeWhile_append, if_neg]
  intro hlength
  have hself := (List.takeWhile_prefix fun c => decide (c ≠ Call.initializeV8)).eq_of_length hlength
  exact of_decide_eq_true (List.takeWhile_eq_self_iff.mp hself _ h) rfl

lemma initializeV8_mem_concat {c : Call} (calls : List Call) (hc : c ≠ .initializeV8) :
    .initializeV8 ∈ calls ++ [c] ↔ .initializeV8 ∈ calls := by
  rw [List.mem_append, List.mem_singleton]
  exact or_iff_left_of_imp fun h => absurd h.symm hc

lemma givesSnapshot_concat_of_mem {calls : List Call} (h : .initializeV8 ∈ calls) (c : Call) :
    GivesSnapshot (calls ++ [c]) ↔ GivesSnapshot calls := by
  unfold GivesSnapshot
  rw [takeWhile_concat_of_mem h, List.mem_append]
  exact and_congr_left' (or_iff_left_of_imp fun _ => h)

lemma givesSnapshot_concat_of_ne {c : Call} (calls : List Call) (hc : c ≠ .initializeV8) :
    GivesSnapshot (calls ++ [c]) ↔ GivesSnapshot calls := by
  by_cases h : .initializeV8 ∈ calls
  · exact givesSnapshot_concat_of_mem h c
  · exact iff_of_false (fun hgives => h ((initializeV8_mem_concat calls hc).mp hgives.1))
      fun hgives => h hgives.1

lemma givesSnapshot_concat_initializeV8 {calls : List Call} (h : .initializeV8 ∉ calls) :
    GivesSnapshot (calls ++ [.initializeV8]) ↔ (firstLoad calls).isSome := by
  have hne : ∀ c ∈ calls, decide (c ≠ Call.initializeV8) = true := fun c hc =>
    decide_eq_true fun heq => h (heq ▸ hc)
  have htake : (calls ++ [Call.initializeV8]).takeWhile (· ≠ .initializeV8) = calls := by
    rw [List.takeWhile_append_of_pos hne]
    exact List.append_nil calls
  unfold GivesSnapshot
  rw [htake]
  exact and_iff_right (List.mem_append_right _ (List.mem_singleton_self _))

lemma GivesSnapshot.firstLoad_isSome {calls : List Call} (h : GivesSnapshot calls) :
    (firstLoad calls).isSome := by
  obtain ⟨rest, hrest⟩ := List.takeWhile_prefix (l := calls) fun c => decide (c ≠ .initializeV8)
  have hsome := h.2
  rw [← hrest, firstLoad, List.findSome?_append]
  obtain ⟨load, hload⟩ := Option.isSome_iff_exists.mp hsome
  rw [show List.findSome? snapshotLoad _ = some load from hload]
  rfl

namespace Holds

variable {calls : List Call} {s : DataFiles}

/-- The snapshot's buffer is there once a load was. -/
lemma snapshotBuf_isSome (h : Holds calls s) :
    s.snapshotBuf.isSome = (firstLoad calls).isSome := by
  have hmap := congrArg Option.isSome h.snapshot
  rwa [Option.isSome_map, Option.isSome_map] at hmap

/-- A call that loads nothing and does not initialize V8 may add a buffer for ICU, or leave what is
allocated as it is. -/
lemma of_icu (h : Holds calls s) {heap : CHeap UInt8} {c : Call} {added : List ℕ}
    (hload : snapshotLoad c = none) (hc : c ≠ .initializeV8)
    (hkeys : heap.blocks.map Prod.fst = s.heap.blocks.map Prod.fst ++ added)
    (hcontent : ∀ p ∈ s.heap.blocks.map Prod.fst,
      (heap.block? p).map Block.stored = s.content p)
    (hadded : added.map (fun p => (heap.block? p).map Block.stored) =
      (icuFile c).toList.map some) :
    Holds (calls ++ [c]) { s with heap := heap, icuData := s.icuData ++ added } := by
  have hheld : ∀ p ∈ s.snapshotBuf.toList ++ s.icuData,
      (heap.block? p).map Block.stored = s.content p := fun p hp =>
    hcontent p (h.blocks.mem_iff.mpr hp)
  constructor
  · exact h.streams
  · rw [hkeys]
    refine (h.blocks.append_right added).trans ?_
    rw [List.append_assoc]
  · rw [firstLoad_concat_of_none calls hload, ← h.snapshot]
    refine Option.map_congr fun p hp => hheld p (List.mem_append_left _ ?_)
    exact Option.mem_toList.mpr hp
  · rw [firstLoad_concat_of_none calls hload]
    exact h.snapshotSize
  · rw [firstLoad_concat_of_none calls hload]
    exact h.snapshotFileType
  · exact h.v8IsInitialized.trans (initializeV8_mem_concat calls hc).symm
  · refine h.snapshotBlob.trans (if_ctx_congr ?_ (fun _ => rfl) fun _ => rfl)
    exact (givesSnapshot_concat_of_ne calls hc).symm
  · rw [filterMap_icuFile_concat, List.map_append, List.map_append, ← h.icuData, ← hadded]
    refine congrArg₂ (· ++ ·) (List.map_congr_left fun p hp => ?_) rfl
    exact hheld p (List.mem_append_right _ hp)

end Holds

/-! ## The calls -/

lemma fileSize_lt (a : FileAnswers) : fileSize a < 2 ^ 31 := by
  have hlt := Int32.toInt_lt a.ftell
  unfold fileSize
  omega

lemma le_alignedSize {n : ℕ} (h : n < 2 ^ 31) : n ≤ alignedSize n := by
  unfold alignedSize
  split <;> omega

lemma length_fread_le (a : FileAnswers) (n : ℕ) : (fread a n).length ≤ n := List.length_take_le _ _

/-- The block that is allocated for the snapshot holds the file. -/
lemma allocateSnapshot_of_or {a : FileAnswers} (h : a.posixMemalign ∨ a.malloc)
    (heap : CHeap UInt8) :
    ∃ size, fileSize a ≤ size ∧ allocateSnapshot a (fileSize a) heap = some (heap.malloc size) := by
  unfold allocateSnapshot
  by_cases haligned : a.posixMemalign
  · exact ⟨_, le_alignedSize (fileSize_lt a), if_pos haligned⟩
  · refine ⟨_, le_refl _, ?_⟩
    rw [if_neg haligned, if_pos (h.resolve_left haligned)]

lemma fileSize_pos_iff (a : FileAnswers) : 0 < fileSize a ↔ ¬ a.ftell.toInt ≤ 0 := by
  unfold fileSize
  omega

/-- The end of a load, in a process with the new buffer. -/
lemma readSnapshot_eq {s : DataFiles} {heap : CHeap UInt8} {size p : ℕ} {a : FileAnswers}
    (hstore : s.heap.store p (fread a size) = some heap) (hstreams : 0 < s.streams)
    (type : V8SnapshotFileType) :
    readSnapshot type a size p s =
      if (fread a size).length ≠ size then
        some (logFatal { s with heap := heap, streams := s.streams - 1 })
      else
        some
          { s with
            heap := heap
            streams := s.streams - 1
            snapshotSize := size
            snapshotFileType := some type } := by
  rw [readSnapshot, hstore, Option.bind_some, fclose, if_pos hstreams, Option.bind_some]

/-- The load of a snapshot when there is none, from its answers. -/
lemma loadV8Snapshot_of_none {s : DataFiles} (hbuf : s.snapshotBuf = none)
    (type : V8SnapshotFileType) (a : FileAnswers) :
    s.loadV8Snapshot type a =
      if a.fopen then
        if 0 < fileSize a then
          match allocateSnapshot a (fileSize a) s.heap with
          | none => some s.openStream.logFatal
          | some heap =>
            readSnapshot type a (fileSize a) s.heap.next
              { s.openStream with heap := heap, snapshotBuf := some s.heap.next }
        else some s.openStream.logFatal
      else some s.logFatal := by
  have hnone : ¬ s.snapshotBuf.isSome = true := by
    rw [hbuf]
    exact Bool.false_ne_true
  rw [loadV8Snapshot, if_neg hnone]
  refine if_ctx_congr Iff.rfl (fun _ => ?_) fun _ => rfl
  by_cases hsize : a.ftell.toInt ≤ 0
  · rw [if_neg fun h => (fileSize_pos_iff a).mp h hsize]
    exact if_pos hsize
  · rw [if_pos ((fileSize_pos_iff a).mpr hsize)]
    exact if_neg hsize

/-- The first load of the snapshot keeps the file when it succeeds. -/
lemma loadV8Snapshot_of_loads {s : DataFiles} (hbuf : s.snapshotBuf = none)
    (type : V8SnapshotFileType) {a : FileAnswers} (h : SnapshotLoads a) :
    ∃ heap size, s.loadV8Snapshot type a =
        some
          { s with
            heap := heap
            snapshotBuf := some s.heap.next
            snapshotSize := fileSize a
            snapshotFileType := some type } ∧
      heap.blocks = s.heap.blocks ++ [(s.heap.next, ⟨size, fread a (fileSize a)⟩)] := by
  obtain ⟨⟨hopen, hsize, hread⟩, halloc⟩ := h
  obtain ⟨size, hle, hmalloc⟩ := allocateSnapshot_of_or halloc s.heap
  obtain ⟨heap, hstore, hblocks, -⟩ :=
    CHeap.store_malloc (h := s.heap) ((length_fread_le a (fileSize a)).trans hle)
  refine ⟨heap, size, ?_, hblocks⟩
  rw [loadV8Snapshot_of_none hbuf, if_pos hopen, if_pos hsize, hmalloc]
  refine (readSnapshot_eq hstore (Nat.succ_pos _) type).trans ?_
  rw [if_neg (not_not.mpr hread)]
  rfl

/-- The process ends when the first load of the snapshot does not succeed. -/
lemma loadV8Snapshot_of_not_loads {s : DataFiles} (hbuf : s.snapshotBuf = none)
    (type : V8SnapshotFileType) {a : FileAnswers} (h : ¬ SnapshotLoads a) :
    ∃ s', s.loadV8Snapshot type a = some s' ∧ s'.alive = false := by
  rw [loadV8Snapshot_of_none hbuf]
  by_cases hopen : a.fopen
  swap
  · exact ⟨_, if_neg hopen, rfl⟩
  rw [if_pos hopen]
  by_cases hsize : 0 < fileSize a
  swap
  · exact ⟨_, if_neg hsize, rfl⟩
  rw [if_pos hsize]
  by_cases halloc : a.posixMemalign ∨ a.malloc
  swap
  · have hnull : allocateSnapshot a (fileSize a) s.heap = none := by
      rw [allocateSnapshot, if_neg fun h => halloc (Or.inl h), if_neg fun h => halloc (Or.inr h)]
    rw [hnull]
    exact ⟨_, rfl, rfl⟩
  obtain ⟨size, hle, hmalloc⟩ := allocateSnapshot_of_or halloc s.heap
  obtain ⟨heap, hstore, -⟩ :=
    CHeap.store_malloc (h := s.heap) ((length_fread_le a (fileSize a)).trans hle)
  have hread : (fread a (fileSize a)).length ≠ fileSize a := fun heq =>
    h ⟨⟨hopen, hsize, heq⟩, halloc⟩
  rw [hmalloc]
  refine ⟨_, (readSnapshot_eq hstore (Nat.succ_pos _) type).trans (if_pos hread), rfl⟩

/-- The end of a load of the ICU data, in a process with the new buffer. -/
lemma readICU_eq {s : DataFiles} {heap : CHeap UInt8} {size buf : ℕ} {a : FileAnswers}
    (hstore : s.heap.store buf (fread a size) = some heap) (hstreams : 0 < s.streams)
    (setCommonData setFileAccess : Bool) :
    readICU a setCommonData setFileAccess size buf s =
      if (fread a size).length = size ∧ setCommonData then
        some (setFileAccess,
          { s with heap := heap, streams := s.streams - 1, icuData := s.icuData ++ [buf] })
      else
        (heap.free buf).map fun heap =>
          (false, { s with heap := heap, streams := s.streams - 1 }) := by
  rw [readICU, hstore, Option.bind_some, fclose, if_pos hstreams, Option.bind_some]
  by_cases hread : (fread a size).length = size
  · rw [if_neg (not_not.mpr hread)]
    exact if_congr (and_iff_right hread).symm rfl rfl
  · rw [if_pos hread, if_neg fun h => hread h.1]

lemma fclose_openStream (s : DataFiles) : s.openStream.fclose = some s := rfl

/-- The load of the ICU data, from its answers. -/
lemma initializeICUFromDataFile_eq (a : FileAnswers) (setCommonData setFileAccess : Bool)
    (s : DataFiles) :
    s.initializeICUFromDataFile a setCommonData setFileAccess =
      if a.fopen ∧ 0 < fileSize a ∧ a.malloc then
        readICU a setCommonData setFileAccess (fileSize a) s.heap.next
          { s.openStream with heap := s.heap.malloc (fileSize a) }
      else some (false, s) := by
  unfold initializeICUFromDataFile
  by_cases hopen : a.fopen
  swap
  · rw [if_neg hopen, if_neg fun h => hopen h.1]
  rw [if_pos hopen]
  dsimp only
  by_cases hsize : a.ftell.toInt ≤ 0
  · rw [if_pos hsize, if_neg fun h => (fileSize_pos_iff a).mp h.2.1 hsize, fclose_openStream]
    rfl
  rw [if_neg hsize]
  by_cases hmalloc : a.malloc
  · rw [if_pos hmalloc, if_pos ⟨hopen, (fileSize_pos_iff a).mpr hsize, hmalloc⟩]
    rfl
  · rw [if_neg hmalloc, if_neg fun h => hmalloc h.2.2, fclose_openStream]
    rfl

/-- A load of the ICU data adds a buffer with the file when ICU takes it, and otherwise leaves what
is allocated as it was. -/
lemma initializeICUFromDataFile_added (a : FileAnswers) (setCommonData setFileAccess : Bool)
    (s : DataFiles) :
    ∃ result heap added, s.initializeICUFromDataFile a setCommonData setFileAccess =
        some (result, { s with heap := heap, icuData := s.icuData ++ added }) ∧
      heap.blocks =
        s.heap.blocks ++ added.map (fun p => (p, ⟨fileSize a, fread a (fileSize a)⟩)) ∧
      added.map (fun _ => fread a (fileSize a)) =
        (icuFile (.initializeICUFromDataFile a setCommonData setFileAccess)).toList := by
  have hsame : s = { s with heap := s.heap, icuData := s.icuData ++ [] } := by
    rw [List.append_nil]
  rw [initializeICUFromDataFile_eq, icuFile]
  by_cases halloc : a.fopen ∧ 0 < fileSize a ∧ a.malloc
  swap
  · rw [if_neg halloc, if_neg fun h => halloc ⟨h.1.1, h.1.2.1, h.2.1⟩]
    exact ⟨false, s.heap, [], congrArg (fun s => some (false, s)) hsame,
      (List.append_nil _).symm, rfl⟩
  obtain ⟨heap, hstore, hblocks, -⟩ :=
    CHeap.store_malloc (h := s.heap) (length_fread_le a (fileSize a))
  rw [if_pos halloc, readICU_eq (s := { s.openStream with heap := s.heap.malloc (fileSize a) })
    hstore (Nat.succ_pos _)]
  obtain ⟨hopen, hsize, hmalloc⟩ := halloc
  by_cases htaken : (fread a (fileSize a)).length = fileSize a ∧ setCommonData
  · rw [if_pos htaken, if_pos ⟨⟨hopen, hsize, htaken.1⟩, hmalloc, htaken.2⟩]
    exact ⟨setFileAccess, heap, [s.heap.next], rfl, hblocks, rfl⟩
  · obtain ⟨heap', hfree, hblocks', -⟩ := CHeap.free_last hblocks
    rw [if_neg htaken, if_neg fun h => htaken ⟨h.1.2.2, h.2.2⟩, hfree]
    refine ⟨false, heap', [], ?_, hblocks'.trans (List.append_nil _).symm, rfl⟩
    rw [List.append_nil]
    rfl

/-! ## What a process has -/

namespace Holds

variable {calls : List Call} {s : DataFiles}

/-- After a load of the ICU data. -/
lemma icu (h : Holds calls s) (a : FileAnswers) (setCommonData setFileAccess : Bool) :
    ∃ s', (s.initializeICUFromDataFile a setCommonData setFileAccess).map Prod.snd = some s' ∧
      s'.alive = s.alive ∧
      Holds (calls ++ [.initializeICUFromDataFile a setCommonData setFileAccess]) s' := by
  obtain ⟨result, heap, added, heq, hblocks, hfile⟩ :=
    initializeICUFromDataFile_added a setCommonData setFileAccess s
  rw [heq]
  refine ⟨_, rfl, rfl, h.of_icu rfl Call.noConfusion ?_ (fun p hp => ?_) ?_⟩
  · rw [hblocks, List.map_append, List.map_map]
    exact congrArg _ (List.map_id _)
  · rw [content, CHeap.block?_of_append hblocks hp]
  · rw [← hfile, List.map_map]
    refine List.map_congr_left fun p hp => ?_
    rw [CHeap.block?_of_added hblocks (List.mem_map_of_mem hp)]
    rfl

/-- After the initialization of V8. -/
lemma v8 (h : Holds calls s) : Holds (calls ++ [.initializeV8]) s.initializeV8 := by
  have hload : firstLoad (calls ++ [.initializeV8]) = firstLoad calls :=
    firstLoad_concat_of_none calls rfl
  have hicu : (calls ++ [Call.initializeV8]).filterMap icuFile = calls.filterMap icuFile :=
    (filterMap_icuFile_concat calls .initializeV8).trans (List.append_nil _)
  have hmem : Call.initializeV8 ∈ calls ++ [Call.initializeV8] :=
    List.mem_append_right _ (List.mem_singleton_self _)
  unfold initializeV8
  by_cases hdone : s.v8IsInitialized = true
  · have hin := h.v8IsInitialized.mp hdone
    rw [if_pos hdone]
    exact
      { streams := h.streams
        blocks := h.blocks
        snapshot := by rw [hload]; exact h.snapshot
        snapshotSize := by rw [hload]; exact h.snapshotSize
        snapshotFileType := by rw [hload]; exact h.snapshotFileType
        v8IsInitialized := iff_of_true hdone hmem
        snapshotBlob := h.snapshotBlob.trans
          (if_congr (givesSnapshot_concat_of_mem hin _).symm rfl rfl)
        icuData := by rw [hicu]; exact h.icuData }
  · have hnot : .initializeV8 ∉ calls := fun hin => hdone (h.v8IsInitialized.mpr hin)
    rw [if_neg hdone]
    refine
      { streams := h.streams
        blocks := h.blocks
        snapshot := by rw [hload]; exact h.snapshot
        snapshotSize := by rw [hload]; exact h.snapshotSize
        snapshotFileType := by rw [hload]; exact h.snapshotFileType
        v8IsInitialized := iff_of_true rfl hmem
        snapshotBlob := ?_
        icuData := by rw [hicu]; exact h.icuData }
    rw [if_congr (givesSnapshot_concat_initializeV8 hnot) rfl rfl, ← h.snapshotBuf_isSome]
    change s.snapshotBuf.map _ = if _ then s.snapshotBuf.map _ else none
    cases s.snapshotBuf <;> rfl

/-- After a load of the snapshot when there is one. -/
lemma load_again (h : Holds calls s) (hload : (firstLoad calls).isSome) (type : V8SnapshotFileType)
    (a : FileAnswers) : Holds (calls ++ [.loadV8Snapshot type a]) s := by
  obtain ⟨load, hfirst⟩ := Option.isSome_iff_exists.mp hload
  have hsame : firstLoad (calls ++ [.loadV8Snapshot type a]) = firstLoad calls := by
    rw [firstLoad_concat, hfirst]
    rfl
  have hicu : (calls ++ [Call.loadV8Snapshot type a]).filterMap icuFile =
      calls.filterMap icuFile :=
    (filterMap_icuFile_concat calls _).trans (List.append_nil _)
  exact
    { streams := h.streams
      blocks := h.blocks
      snapshot := by rw [hsame]; exact h.snapshot
      snapshotSize := by rw [hsame]; exact h.snapshotSize
      snapshotFileType := by rw [hsame]; exact h.snapshotFileType
      v8IsInitialized :=
        h.v8IsInitialized.trans (initializeV8_mem_concat calls Call.noConfusion).symm
      snapshotBlob := h.snapshotBlob.trans
        (if_congr (givesSnapshot_concat_of_ne calls Call.noConfusion).symm rfl rfl)
      icuData := by rw [hicu]; exact h.icuData }

/-- After the first load of the snapshot. -/
lemma load_first (h : Holds calls s) (hload : firstLoad calls = none) (type : V8SnapshotFileType)
    {a : FileAnswers} {heap : CHeap UInt8} {size : ℕ}
    (hblocks : heap.blocks = s.heap.blocks ++ [(s.heap.next, ⟨size, fread a (fileSize a)⟩)]) :
    Holds (calls ++ [.loadV8Snapshot type a])
      { s with
        heap := heap
        snapshotBuf := some s.heap.next
        snapshotSize := fileSize a
        snapshotFileType := some type } := by
  have hbuf : s.snapshotBuf = none := by
    have hsome := h.snapshotBuf_isSome
    rw [hload] at hsome
    exact Option.isNone_iff_eq_none.mp (by simpa using hsome)
  have hfirst : firstLoad (calls ++ [.loadV8Snapshot type a]) = some (type, a) := by
    rw [firstLoad_concat, hload]
    rfl
  have hicu : (calls ++ [Call.loadV8Snapshot type a]).filterMap icuFile =
      calls.filterMap icuFile :=
    (filterMap_icuFile_concat calls _).trans (List.append_nil _)
  have hnotGives : ¬ GivesSnapshot calls := fun hgives => by
    have hsome := hgives.firstLoad_isSome
    rw [hload] at hsome
    cases hsome
  have hnew : heap.block? s.heap.next = some ⟨size, fread a (fileSize a)⟩ :=
    CHeap.block?_of_added hblocks (List.mem_singleton_self _)
  refine
    { streams := h.streams
      blocks := ?_
      snapshot := ?_
      snapshotSize := ?_
      snapshotFileType := ?_
      v8IsInitialized := ?_
      snapshotBlob := ?_
      icuData := ?_ }
  · have hold := h.blocks
    rw [hbuf, Option.toList_none, List.nil_append] at hold
    rw [hblocks, List.map_append]
    exact List.perm_append_comm.trans (hold.append_left [s.heap.next])
  · rw [hfirst, Option.map_some, Option.map_some, content, hnew]
    rfl
  · rw [hfirst]
    rintro load ⟨⟩
    rfl
  · rw [hfirst]
    rfl
  · exact h.v8IsInitialized.trans (initializeV8_mem_concat calls Call.noConfusion).symm
  · rw [if_congr (givesSnapshot_concat_of_ne calls Call.noConfusion) rfl rfl, if_neg hnotGives]
    exact h.snapshotBlob.trans (if_neg hnotGives)
  · rw [hicu, ← h.icuData]
    refine List.map_congr_left fun p hp => ?_
    have hmem : p ∈ s.heap.blocks.map Prod.fst :=
      h.blocks.mem_iff.mpr (List.mem_append_right _ hp)
    rw [content, content, CHeap.block?_of_append hblocks hmem]

end Holds

/-- One more call. -/
lemma Right.call {calls : List Call} {s : DataFiles} (h : Right calls s) (c : Call) :
    ∃ s', step s c = some s' ∧ Right (calls ++ [c]) s' := by
  unfold step
  by_cases halive : s.alive = true
  swap
  · -- the first load failed, and stays the first one
    rw [if_neg halive]
    refine ⟨s, rfl, iff_of_false halive fun hloads => halive (h.alive_iff.mpr ?_), fun h' =>
      absurd h' halive⟩
    intro load hload
    refine hloads load ?_
    rw [firstLoad_concat, Option.mem_def.mp hload]
    rfl
  rw [if_pos halive]
  have hloads := h.alive_iff.mp halive
  have hholds := h.holds halive
  cases c with
  | loadV8Snapshot type a =>
    cases hfirst : firstLoad calls with
    | some load =>
      have hsome : (firstLoad calls).isSome := by
        rw [hfirst]
        rfl
      refine ⟨s, if_pos (hholds.snapshotBuf_isSome.trans hsome), ?_, fun _ =>
        hholds.load_again hsome type a⟩
      rw [firstLoad_concat, hfirst, Option.some_or, ← hfirst]
      exact h.alive_iff
    | none =>
      have hbuf : s.snapshotBuf = none := by
        have hsome := hholds.snapshotBuf_isSome
        rw [hfirst] at hsome
        exact Option.isNone_iff_eq_none.mp (by simpa using hsome)
      have hnow : firstLoad (calls ++ [.loadV8Snapshot type a]) = some (type, a) := by
        rw [firstLoad_concat, hfirst]
        rfl
      by_cases hok : SnapshotLoads a
      · obtain ⟨heap, size, hload, hblocks⟩ := loadV8Snapshot_of_loads hbuf type hok
        refine ⟨_, hload, iff_of_true halive ?_, fun _ => hholds.load_first hfirst type hblocks⟩
        rw [hnow]
        rintro load ⟨⟩
        exact hok
      · obtain ⟨s', hload, hdead⟩ := loadV8Snapshot_of_not_loads hbuf type hok
        have hnot : ¬ s'.alive = true := by
          rw [hdead]
          exact Bool.false_ne_true
        refine ⟨s', hload, iff_of_false hnot fun hloads => hok ?_, fun h' => absurd h' hnot⟩
        rw [hnow] at hloads
        exact hloads _ rfl
  | initializeV8 =>
    refine ⟨_, rfl, ?_, fun _ => hholds.v8⟩
    rw [firstLoad_concat_of_none calls rfl]
    refine iff_of_true ?_ hloads
    unfold initializeV8
    split <;> exact halive
  | initializeICUFromDataFile a setCommonData setFileAccess =>
    obtain ⟨s', hcall, hsame, hholds'⟩ := hholds.icu a setCommonData setFileAccess
    refine ⟨s', hcall, ?_, fun _ => hholds'⟩
    rw [firstLoad_concat_of_none calls rfl]
    exact iff_of_true (hsame.trans halive) hloads

/-- **The data files of a process.**  Whatever is called, in whatever order, and whatever the system
answers, no call uses memory or a stream wrongly.  The process is alive if and only if its first
load of the snapshot succeeded; it then has no stream open and no memory but the snapshot and what
ICU holds, the snapshot is the whole file of the first load, V8 was given it if it was there in
time, and ICU was given exactly the files that were read as a whole. -/
theorem dataFiles_right (calls : List Call) :
    ∃ s, runFrom step start calls = some s ∧ Right calls s := by
  induction calls using List.reverseRecOn with
  | nil => exact ⟨start, rfl, start_right⟩
  | append_singleton calls c ih =>
    obtain ⟨s, hrun, hright⟩ := ih
    obtain ⟨s', hstep, hright'⟩ := hright.call c
    refine ⟨s', ?_, hright'⟩
    rw [runFrom_concat, hrun]
    exact hstep

end DataFiles

end ChromiumQnx
