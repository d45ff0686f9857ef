import ChromiumQnx.Content.ChildProcessFds
import ChromiumQnx.Foundation.CHeap
import Mathlib.Data.Nat.Digits.Defs

/-!
# Processes on QNX

`GetProcessMemoryInfo` asks for the number of mappings of a process, allocates an array for them,
asks for the mappings, and adds up as many entries as the second answer says.  `SpawnProcess` starts
a program with up to three streams, which it copies to the standard descriptors one after the other.

`getProcessMemoryInfo_iff` says when the entries that are added up are those that were stored, and
`spawnProcess_streams_iff` for which descriptors the program starts with the streams it was given.
-/

namespace ChromiumQnx

open SequentialCopies

namespace ProcessQnx

/-! ## The memory of a process -/

/-- The fields of `procfs_mapinfo` that are read. -/
structure MapInfo where
  size : ℕ
  mapPrivate : Bool
  deriving DecidableEq, Repr

/-- What the system answers: whether the file of the process opens, the number of mappings, whether
the array can be allocated, and the mappings, which may be more or fewer by then. -/
structure ProcAnswers where
  opens : Bool
  mapInfo : Option Int32
  malloc : Bool
  pageData : Option (List MapInfo)

/-- The open descriptors of the caller, counted, and its memory. -/
structure ProcState where
  openFds : ℕ
  heap : CHeap MapInfo

/-- A successful `open`. -/
def ProcState.openFd (s : ProcState) : ProcState := { s with openFds := s.openFds + 1 }

/-- `close` of an open descriptor. -/
def ProcState.close (s : ProcState) : ProcState := { s with openFds := s.openFds - 1 }

/-- The entries for which `malloc(num_maps * sizeof(procfs_mapinfo))` has room, in 32 bits. -/
def capacity (entrySize : ℕ) (numMaps : Int32) : ℕ :=
  (numMaps.toInt % 2 ^ 32).toNat * entrySize % 2 ^ 32 / entrySize

/-- One round of the loop: the private size and the whole size. -/
def addMap (sums : ℕ × ℕ) (map : MapInfo) : ℕ × ℕ :=
  (if map.mapPrivate then (sums.1 + map.size) % 2 ^ 32 else sums.1, (sums.2 + map.size) % 2 ^ 32)

/-- The loop from the index `i` on, with the rounds that are left.  It has no result when it reads
an entry that was not stored. -/
def sumMaps (stored : List MapInfo) : ℕ → ℕ → ℕ × ℕ → Option (ℕ × ℕ)
  | 0, _, sums => some sums
  | rounds + 1, i, sums =>
    stored[i]?.bind fun map => sumMaps stored rounds (i + 1) (addMap sums map)

/-- The end of `GetProcessMemoryInfo`, with the array allocated at `maps`. -/
def readMaps (capacity : ℕ) (pageData : Option (List MapInfo)) (maps : ℕ) (s : ProcState) :
    Option (Option (ℕ × ℕ) × ProcState) :=
  match pageData with
  | none => (s.heap.free maps).map fun heap => (none, { s with heap := heap }.close)
  | some entries =>
    (s.heap.store maps (entries.take capacity)).bind fun heap =>
      (sumMaps (entries.take capacity) entries.length 0 (0, 0)).bind fun sums =>
        (heap.free maps).map fun heap => (some sums, { s with heap := heap }.close)

/-- `GetProcessMemoryInfo`: the sizes it finds, if it finds them, and the caller after it. -/
def getProcessMemoryInfo (entrySize : ℕ) (a : ProcAnswers) (s : ProcState) :
    Option (Option (ℕ × ℕ) × ProcState) :=
  if a.opens then
    let s := s.openFd
    match a.mapInfo with
    | none => some (none, s.close)
    | some numMaps =>
      if a.malloc then
        readMaps (capacity entrySize numMaps) a.pageData s.heap.next
          { s with heap := s.heap.malloc (capacity entrySize numMaps) }
      else some (none, s.close)
  else some (none, s)

/-- What the function should find: the sums over all mappings, when all calls succeed. -/
def expectedInfo (a : ProcAnswers) : Option (ℕ × ℕ) :=
  if a.opens ∧ a.mapInfo.isSome ∧ a.malloc then
    a.pageData.map fun entries => entries.foldl addMap (0, 0)
  else none

/-- The array has room for the mappings that there are in the end. -/
def HasRoom (entrySize : ℕ) (a : ProcAnswers) : Prop :=
  a.opens → a.malloc → ∀ numMaps ∈ a.mapInfo, ∀ entries ∈ a.pageData,
    entries.length ≤ capacity entrySize numMaps

/-- The loop adds up what it is told to when so much was stored. -/
lemma sumMaps_eq (stored : List MapInfo) (rounds i : ℕ) (sums : ℕ × ℕ) :
    sumMaps stored rounds i sums =
      if rounds = 0 ∨ i + rounds ≤ stored.length then
        some (((stored.drop i).take rounds).foldl addMap sums)
      else none := by
  induction rounds generalizing i sums with
  | zero => rw [if_pos (Or.inl rfl), List.take_zero]; rfl
  | succ rounds ih =>
    rw [sumMaps]
    by_cases hi : i < stored.length
    · rw [List.getElem?_eq_getElem hi, Option.bind_some, ih, List.drop_eq_getElem_cons hi,
        List.take_succ_cons, List.foldl_cons]
      exact if_congr (by omega) rfl rfl
    · rw [List.getElem?_eq_none (by omega), Option.bind_none, if_neg (by omega)]

/-- The loop over all entries of the second answer. -/
lemma sumMaps_take (n : ℕ) (entries : List MapInfo) :
    sumMaps (entries.take n) entries.length 0 (0, 0) =
      if entries.length ≤ n then some (entries.foldl addMap (0, 0)) else none := by
  rw [sumMaps_eq, List.length_take]
  by_cases hroom : entries.length ≤ n
  · rw [if_pos (by omega), if_pos hroom, List.take_of_length_le hroom, List.drop_zero,
      List.take_length]
  · rw [if_neg (by omega), if_neg hroom]

/-- The end of the function, when the array was just allocated. -/
lemma readMaps_malloc (n : ℕ) (pageData : Option (List MapInfo)) (s : ProcState) :
    (∃ s', readMaps n pageData s.heap.next { s.openFd with heap := s.heap.malloc n } =
        some (pageData.map fun entries => entries.foldl addMap (0, 0), s') ∧
      s'.openFds = s.openFds ∧ s'.heap.blocks = s.heap.blocks) ↔
      ∀ entries ∈ pageData, entries.length ≤ n := by
  cases pageData with
  | none =>
    have hadded : (s.heap.malloc n).blocks = s.heap.blocks ++ [(s.heap.next, ⟨n, []⟩)] := rfl
    obtain ⟨heap, hfree, hblocks, -⟩ := CHeap.free_last hadded
    refine iff_of_true ⟨{ s with heap := heap }, ?_, rfl, hblocks⟩ fun _ h =>
      absurd h (Option.not_mem_none _)
    change ((s.heap.malloc n).free s.heap.next).map _ = _
    rw [hfree]
    rfl
  | some entries =>
    obtain ⟨heap, hstore, hblocks, -⟩ :=
      CHeap.store_malloc (h := s.heap) (List.length_take_le n entries)
    obtain ⟨heap', hfree, hblocks', -⟩ := CHeap.free_last hblocks
    have hread : readMaps n (some entries) s.heap.next
        { s.openFd with heap := s.heap.malloc n } =
          if entries.length ≤ n then
            some (some (entries.foldl addMap (0, 0)), { s with heap := heap' })
          else none := by
      change ((s.heap.malloc n).store s.heap.next (entries.take n)).bind _ = _
      rw [hstore, Option.bind_some, sumMaps_take]
      by_cases hroom : entries.length ≤ n
      · rw [if_pos hroom, if_pos hroom, Option.bind_some, hfree]
        rfl
      · rw [if_neg hroom, if_neg hroom, Option.bind_none]
    rw [hread]
    constructor
    · rintro ⟨s', heq, -⟩ _ ⟨⟩
      by_contra hroom
      rw [if_neg hroom] at heq
      cases heq
    · intro hroom
      exact ⟨_, if_pos (hroom entries rfl), rfl, hblocks'⟩

/-- **The memory of a process.**  The function gets through, gives back the descriptor and the
array, and finds the sums over all mappings, if and only if the array has room for the mappings that
the second answer counts. -/
theorem getProcessMemoryInfo_iff (entrySize : ℕ) (a : ProcAnswers) (s : ProcState) :
    (∃ s', getProcessMemoryInfo entrySize a s = some (expectedInfo a, s') ∧
      s'.openFds = s.openFds ∧ s'.heap.blocks = s.heap.blocks) ↔ HasRoom entrySize a := by
  unfold getProcessMemoryInfo expectedInfo HasRoom
  by_cases hopens : a.opens
  swap
  · rw [if_neg hopens, if_neg fun h => hopens h.1]
    exact iff_of_true ⟨s, rfl, rfl, rfl⟩ fun h => absurd h hopens
  rw [if_pos hopens]
  cases hcount : a.mapInfo with
  | none =>
    refine iff_of_true ⟨s, ?_, rfl, rfl⟩ fun _ _ _ h => absurd h (Option.not_mem_none _)
    rw [if_neg fun h => Bool.false_ne_true h.2.1]
    rfl
  | some numMaps =>
    by_cases hmalloc : a.malloc
    · have hall : a.opens ∧ (some numMaps).isSome ∧ a.malloc := ⟨hopens, rfl, hmalloc⟩
      rw [if_pos hall]
      dsimp only
      rw [if_pos hmalloc]
      refine (readMaps_malloc (capacity entrySize numMaps) a.pageData s).trans ?_
      constructor
      · rintro h - - _ ⟨⟩
        exact h
      · exact fun h => h hopens hmalloc numMaps rfl
    · rw [if_neg fun h => hmalloc h.2.2]
      dsimp only
      rw [if_neg hmalloc]
      exact iff_of_true ⟨s, rfl, rfl, rfl⟩ fun _ h => absurd h hmalloc

/-! ## Starting a program -/

variable {F : Type*}

/-- The streams of a call of `SpawnProcess`.  A negative one is not given, and the others are open
in the parent. -/
structure SpawnStreams (parent : ParentFds F) where
  stdinFd : Int32
  stdoutFd : Int32
  stderrFd : Int32
  stdin_open : 0 ≤ stdinFd.toInt → (parent.table.get? stdinFd.toInt.toNat).isSome
  stdout_open : 0 ≤ stdoutFd.toInt → (parent.table.get? stdoutFd.toInt.toNat).isSome
  stderr_open : 0 ≤ stderrFd.toInt → (parent.table.get? stderrFd.toInt.toNat).isSome

/-- A stream that is given, and the standard descriptor it is for. -/
def given (fd : Int32) (target : ℕ) : List (ℕ × ℕ) :=
  if 0 ≤ fd.toInt then [(fd.toInt.toNat, target)] else []

namespace SpawnStreams

variable {parent : ParentFds F} (s : SpawnStreams parent)

/-- The streams that are given. -/
def remaps : List (ℕ × ℕ) := given s.stdinFd 0 ++ given s.stdoutFd 1 ++ given s.stderrFd 2

/-- `SpawnProcess`: the descriptors of the new process, when `posix_spawn` succeeds. -/
def spawnProcess : Option (ℕ → Option (ChildFile F)) :=
  posixSpawn parent.table (s.remaps.map fun remap => .adddup2 remap.1 remap.2)

/-- **The descriptors the program should start with**: the streams that were given, and otherwise
what it inherits. -/
def expectedFds (fd : ℕ) : Option (ChildFile F) :=
  match s.remaps.find? fun remap => remap.2 = fd with
  | some remap => parentFile parent.table remap.1
  | none => execFile (inheritFds parent.table) fd

/-- No stream is a standard descriptor that an earlier stream with another file was copied to, and a
stream that stays where it is survives `exec`. -/
structure StreamsSafe : Prop where
  stdout_kept : 0 ≤ s.stdinFd.toInt → s.stdoutFd.toInt = 0 →
    parentFile parent.table s.stdinFd.toInt.toNat = parentFile parent.table 0
  stderr_kept : 0 ≤ s.stdinFd.toInt → s.stderrFd.toInt = 0 →
    parentFile parent.table s.stdinFd.toInt.toNat = parentFile parent.table 0
  stderr_kept' : 0 ≤ s.stdoutFd.toInt → s.stderrFd.toInt = 1 →
    parentFile parent.table s.stdoutFd.toInt.toNat = parentFile parent.table 1
  self_inheritable : ∀ remap ∈ s.remaps, remap.1 = remap.2 → Inheritable parent.table remap.1

lemma mem_given {fd : Int32} {target : ℕ} {remap : ℕ × ℕ} :
    remap ∈ given fd target ↔ 0 ≤ fd.toInt ∧ remap = (fd.toInt.toNat, target) := by
  unfold given
  split
  · rename_i h
    rw [List.mem_singleton]
    exact (and_iff_right h).symm
  · rename_i h
    exact iff_of_false List.not_mem_nil fun hmem => h hmem.1

lemma remaps_open : ∀ remap ∈ s.remaps, (parent.table.get? remap.1).isSome := by
  intro remap h
  rw [remaps, List.mem_append, List.mem_append, mem_given, mem_given, mem_given] at h
  obtain (⟨hnonneg, rfl⟩ | ⟨hnonneg, rfl⟩) | ⟨hnonneg, rfl⟩ := h
  · exact s.stdin_open hnonneg
  · exact s.stdout_open hnonneg
  · exact s.stderr_open hnonneg

lemma remaps_nodup : (s.remaps.map Prod.snd).Nodup := by
  unfold remaps given
  split_ifs <;> simp

/-- The condition on a list with a stream that may be given. -/
lemma sourcesKept_append_given {f : ℕ → Option (ChildFile F)} {cs : List (ℕ × ℕ)} {fd : Int32}
    {target : ℕ} :
    SourcesKept f f (cs ++ given fd target) ↔
      SourcesKept f f cs ∧ (0 ≤ fd.toInt → ∀ e ∈ cs.find? (fun e => e.2 = fd.toInt.toNat),
        f e.1 = f fd.toInt.toNat) := by
  unfold given
  split
  · rename_i hnonneg
    rw [sourcesKept_concat, SourceKept]
    refine and_congr_right fun _ => ?_
    cases cs.find? fun e => e.2 = fd.toInt.toNat with
    | none => exact iff_of_true rfl fun _ _ h => absurd h (Option.not_mem_none _)
    | some e =>
      refine ⟨fun h _ e' he' => ?_, fun h => h hnonneg e rfl⟩
      rwa [← Option.some.inj he']
  · rename_i hneg
    rw [List.append_nil]
    exact (and_iff_left fun h => absurd h hneg).symm

/-- What is said of the stream that was copied to a descriptor. -/
lemma forall_find?_given {fd : Int32} {target k : ℕ} {P : ℕ × ℕ → Prop} :
    (∀ e ∈ (given fd target).find? (fun e => e.2 = k), P e) ↔
      (0 ≤ fd.toInt → target = k → P (fd.toInt.toNat, target)) := by
  unfold given
  split
  · rename_i hnonneg
    rw [List.find?_singleton]
    by_cases hk : target = k
    · rw [if_pos (decide_eq_true hk)]
      exact ⟨fun h _ _ => h _ rfl, fun h e he => Option.some.inj he ▸ h hnonneg hk⟩
    · rw [if_neg fun h => hk (of_decide_eq_true h)]
      exact iff_of_true (fun e he => absurd he (Option.not_mem_none e)) fun _ h => absurd h hk
  · rename_i hneg
    rw [List.find?_nil]
    exact iff_of_true (fun e he => absurd he (Option.not_mem_none e)) fun h => absurd h hneg

/-- The same for two streams with different destinations. -/
lemma forall_find?_append_given {fd fd' : Int32} {target target' k : ℕ} {P : ℕ × ℕ → Prop}
    (hne : target ≠ target') :
    (∀ e ∈ (given fd target ++ given fd' target').find? (fun e => e.2 = k), P e) ↔
      (0 ≤ fd.toInt → target = k → P (fd.toInt.toNat, target)) ∧
        (∀ e ∈ (given fd' target').find? (fun e => e.2 = k), P e) := by
  rw [← forall_find?_given, List.find?_append]
  cases hfind : (given fd target).find? fun e => e.2 = k with
  | none =>
    rw [Option.none_or]
    exact (and_iff_right fun e he => absurd he (Option.not_mem_none e)).symm
  | some e =>
    rw [Option.some_or]
    have hk : e.2 = k :=
      of_decide_eq_true (List.find?_some (p := fun e : ℕ × ℕ => decide (e.2 = k)) hfind)
    obtain ⟨-, rfl⟩ := mem_given.mp (List.mem_of_find?_eq_some hfind)
    refine (and_iff_left ?_).symm
    rw [forall_find?_given]
    exact fun _ h => absurd (hk.trans h.symm) hne

/-- The streams are kept when none is a descriptor that was overwritten. -/
lemma sourcesKept_iff :
    SourcesKept (parentFile parent.table) (parentFile parent.table) s.remaps ↔
      (0 ≤ s.stdinFd.toInt → s.stdoutFd.toInt = 0 →
        parentFile parent.table s.stdinFd.toInt.toNat = parentFile parent.table 0) ∧
      (0 ≤ s.stdinFd.toInt → s.stderrFd.toInt = 0 →
        parentFile parent.table s.stdinFd.toInt.toNat = parentFile parent.table 0) ∧
      (0 ≤ s.stdoutFd.toInt → s.stderrFd.toInt = 1 →
        parentFile parent.table s.stdoutFd.toInt.toNat = parentFile parent.table 1) := by
  have hnil : SourcesKept (parentFile parent.table) (parentFile parent.table)
      (given s.stdinFd 0) := by
    rw [← List.nil_append (given s.stdinFd 0), sourcesKept_append_given]
    refine ⟨fun earlier c later h => by simp at h, fun _ e he => ?_⟩
    rw [List.find?_nil] at he
    exact absurd he (Option.not_mem_none e)
  rw [remaps, sourcesKept_append_given, sourcesKept_append_given, and_iff_right hnil,
    forall_find?_given, forall_find?_append_given Nat.zero_ne_one, forall_find?_given]
  constructor
  · rintro ⟨hout, herr⟩
    refine ⟨fun hin h => ?_, fun hin h => ?_, fun ho h => ?_⟩
    · simpa [h] using hout (by omega) hin (by omega)
    · simpa [h] using (herr (by omega)).1 hin (by omega)
    · simpa [h] using (herr (by omega)).2 ho (by omega)
  · rintro ⟨hout, herr, herr'⟩
    refine ⟨fun ho hin h => ?_, fun he => ⟨fun hin h => ?_, fun ho h => ?_⟩⟩
    · rw [hout hin (by omega), ← h]
    · rw [herr hin (by omega), ← h]
    · rw [herr' ho (by omega), ← h]

/-- What the new process has before the copies. -/
lemma fileView_inheritFds (t : DescriptorTable (FdEntry F)) :
    fileView (inheritFds t) = parentFile t := by
  funext fd
  rw [fileView, inheritFds, DescriptorTable.get?_map, Option.map_map]
  rfl

/-- The flag of a destination whose source is open. -/
lemma cloexec_iff {t : DescriptorTable (FdEntry F)} {remap : ℕ × ℕ}
    (hopen : (t.get? remap.1).isSome) :
    (if remap.1 = remap.2 then ((inheritFds t).get? remap.2).map FdEntry.cloexec
      else some false) = some false ↔ (remap.1 = remap.2 → Inheritable t remap.1) := by
  obtain ⟨entry, hentry⟩ := Option.isSome_iff_exists.mp hopen
  by_cases hself : remap.1 = remap.2
  · rw [if_pos hself, ← hself, inheritFds, DescriptorTable.get?_map, Inheritable, hentry]
    simp
  · exact iff_of_true (if_neg hself) fun h => absurd h hself

lemma expectedFds_of_mem {remap : ℕ × ℕ} (h : remap ∈ s.remaps) :
    s.expectedFds remap.2 = parentFile parent.table remap.1 := by
  unfold expectedFds
  cases hfind : s.remaps.find? fun e => e.2 = remap.2 with
  | none => exact absurd (decide_eq_true rfl) (List.find?_eq_none.mp hfind remap h)
  | some e =>
    have hdst : e.2 = remap.2 := by simpa using List.find?_some hfind
    rw [List.inj_on_of_nodup_map s.remaps_nodup (List.mem_of_find?_eq_some hfind) h hdst]

lemma expectedFds_of_notMem {fd : ℕ} (h : fd ∉ s.remaps.map Prod.snd) :
    s.expectedFds fd = execFile (inheritFds parent.table) fd := by
  have hfind : s.remaps.find? (fun e => e.2 = fd) = none :=
    List.find?_eq_none.mpr fun e he hdst =>
      h (List.mem_map.mpr ⟨e, he, of_decide_eq_true hdst⟩)
  rw [expectedFds, hfind]

/-- **The streams of a program.**  The program starts with the streams it was given, and everything
else as it would inherit it, if and only if no stream is a standard descriptor that an earlier
stream with another file was copied to, and the streams that stay where they are survive `exec`. -/
theorem spawnProcess_streams_iff :
    StartsWith s.spawnProcess s.expectedFds ↔ s.StreamsSafe := by
  have hopen : ∀ remap ∈ s.remaps, ((inheritFds parent.table).get? remap.1).isSome := by
    intro remap hremap
    rw [inheritFds, DescriptorTable.get?_map, Option.isSome_map]
    exact s.remaps_open remap hremap
  obtain ⟨t, hfold, hview, hframe, hcloexec⟩ := foldlM_adddup2 hopen s.remaps_nodup
  have hspawn : s.spawnProcess = some (execFile t) := by
    rw [spawnProcess, posixSpawn, hfold]
    rfl
  -- a stream arrives when its copy is right and survives `exec`
  have harrives : ∀ remap ∈ s.remaps, (execFile t remap.2 = s.expectedFds remap.2 ↔
      copies (parentFile parent.table) s.remaps remap.2 = parentFile parent.table remap.1 ∧
        (remap.1 = remap.2 → Inheritable parent.table remap.1)) := by
    intro remap hremap
    obtain ⟨entry, hentry⟩ := Option.isSome_iff_exists.mp (s.remaps_open remap hremap)
    have hsource : parentFile parent.table remap.1 = some (.inherited entry.file) := by
      rw [parentFile, hentry]
      rfl
    rw [s.expectedFds_of_mem hremap, ← cloexec_iff (s.remaps_open remap hremap),
      ← hcloexec remap hremap, ← fileView_inheritFds, ← hview, fileView_inheritFds, hsource]
    exact execFile_eq_some_iff
  have hall : StartsWith s.spawnProcess s.expectedFds ↔
      ∀ remap ∈ s.remaps, execFile t remap.2 = s.expectedFds remap.2 := by
    rw [hspawn]
    constructor
    · rintro ⟨fds, hfds, heq⟩ remap -
      rw [Option.some.inj hfds]
      exact heq remap.2
    · refine fun h => ⟨execFile t, rfl, fun fd => ?_⟩
      by_cases hmem : fd ∈ s.remaps.map Prod.snd
      · obtain ⟨remap, hremap, rfl⟩ := List.mem_map.mp hmem
        exact h remap hremap
      · rw [s.expectedFds_of_notMem hmem, execFile, execFile, hframe fd hmem]
  rw [hall, forall₂_congr harrives, forall₂_and, forall_copies_iff s.remaps_nodup, sourcesKept_iff]
  exact ⟨fun h => ⟨h.1.1, h.1.2.1, h.1.2.2, h.2⟩, fun h =>
    ⟨⟨h.stdout_kept, h.stderr_kept, h.stderr_kept'⟩, h.self_inheritable⟩⟩

/-- Two open descriptors are given as stdin and stdout, and no stderr. -/
def sampleStreams : SpawnStreams parentExample where
  stdinFd := 5
  stdoutFd := 6
  stderrFd := -1
  stdin_open := by decide
  stdout_open := by decide
  stderr_open := by decide

/-- They arrive. -/
theorem spawnProcess_streams_iff_sample :
    StartsWith sampleStreams.spawnProcess sampleStreams.expectedFds := by
  refine sampleStreams.spawnProcess_streams_iff.mpr ⟨?_, ?_, ?_, ?_⟩
  · exact fun _ hout => absurd hout (by decide)
  · exact fun _ herr => absurd herr (by decide)
  · exact fun _ herr => absurd herr (by decide)
  · have hmoved : ∀ remap ∈ sampleStreams.remaps, remap.1 ≠ remap.2 := by decide
    exact fun remap hremap hself => absurd hself (hmoved remap hremap)

end SpawnStreams

end ProcessQnx

end ChromiumQnx
