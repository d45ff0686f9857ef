import ChromiumQnx.Foundation.TransitionSystem

/-!
# Memory mapped files with the malloc fallback

On QNX `MemoryMappedFile::MapFileRegionToMemory` falls back to `fopen`, `malloc` and `fread` when
`mmap` fails, and `CloseHandles` has to release the region with `munmap` or with `free`
accordingly.  Which of the two it calls is decided by `g_qnx_used_malloc_fallback`, one flag for
the whole process.

`mapFileRegionToMemory` and `closeHandles` follow the two functions on one object and the flag;
`MappedFiles` is a process with any number of such objects, and `log` records, newest first, the
regions obtained and released.  The flag is shown to say whether a fallback mapping was made since
the last release (`MappedFiles.flag_eq_of_reachable`), and this settles for which runs every
release uses the right releaser (`MappedFiles.releasersMatch_iff_closesInTurn`).
-/

namespace ChromiumQnx

open TransitionSystem

/-! ## One object -/

/-- How the region an object exposes was obtained. -/
inductive RegionOrigin
  | mmap
  | mallocFallback
  deriving DecidableEq, Repr

/-- The two functions that release a region. -/
inductive Releaser
  | munmap
  | free
  deriving DecidableEq, Repr

/-- The releaser that belongs to a region. -/
def RegionOrigin.releaser : RegionOrigin → Releaser
  | mmap => .munmap
  | mallocFallback => .free

/-- The values of `data_`: the null pointer, `MAP_FAILED`, or a pointer `offset` bytes into a region
with the given bytes. -/
inductive DataPtr
  | null
  | mapFailed
  | region (origin : RegionOrigin) (bytes : List UInt8) (offset : ℕ)
  deriving DecidableEq, Repr

/-- The fields of a `MemoryMappedFile` that mapping and closing read and write. -/
structure MemoryMappedFile where
  /-- `data_`. -/
  data : DataPtr
  /-- `length_`. -/
  length : ℕ
  /-- `qnx_file_path_`. -/
  qnxFilePath : String
  deriving DecidableEq, Repr

/-- A `MemoryMappedFile` after construction. -/
def MemoryMappedFile.new : MemoryMappedFile := ⟨.null, 0, ""⟩

/-- The page-aligned request computed from the region before `mmap` is called: `map_start`,
`map_size`, `data_offset` and the value `length_` was set to. -/
structure MapRequest where
  mapStart : ℕ
  mapSize : ℕ
  dataOffset : ℕ
  length : ℕ
  deriving DecidableEq, Repr

/-- What the system calls of one mapping attempt answer. -/
structure MapWorld where
  /-- The bytes `mmap` exposes, or `none` for `MAP_FAILED`. -/
  mmap : Option (List UInt8)
  /-- The contents `fopen(path, "rb")` opens, or `none` when it fails. -/
  fopen : String → Option (List UInt8)
  /-- What `ftell` reports at the end of the opened file. -/
  ftell : List UInt8 → ℤ
  /-- Whether `malloc` of a size succeeds. -/
  malloc : ℕ → Bool
  /-- The bytes `fread` delivers from those it is asked for. -/
  fread : List UInt8 → List UInt8

/-- `MemoryMappedFile::MapFileRegionToMemory` from the `mmap` call on: the returned value, the
object and the process-wide flag `g_qnx_used_malloc_fallback`. -/
def mapFileRegionToMemory (w : MapWorld) (r : MapRequest) (f : MemoryMappedFile) (flag : Bool) :
    Bool × MemoryMappedFile × Bool :=
  let f := { f with length := r.length }
  match w.mmap with
  | some bytes => (true, { f with data := .region .mmap bytes r.dataOffset }, flag)
  | none =>
    let f := { f with data := .mapFailed }
    if f.qnxFilePath.isEmpty then (false, f, flag)
    else
      match w.fopen f.qnxFilePath with
      | none => (false, f, flag)
      | some content =>
        let actualSize := w.ftell content
        if actualSize ≤ 0 then (false, f, flag)
        else
          -- the size of the whole file replaces the requested one
          let (mapSize, f) :=
            if actualSize.toNat ≠ r.mapSize then
              (actualSize.toNat, { f with length := actualSize.toNat })
            else (r.mapSize, f)
          if !w.malloc mapSize then (false, f, flag)
          else
            let buf := w.fread ((content.drop r.mapStart).take mapSize)
            if buf.length ≠ mapSize then (false, f, flag)
            else (true, { f with data := .region .mallocFallback buf r.dataOffset }, true)

/-- `MemoryMappedFile::CloseHandles`: the object, the flag, and the release that was made, with the
pointer it was given. -/
def closeHandles (f : MemoryMappedFile) (flag : Bool) :
    MemoryMappedFile × Bool × Option (Releaser × DataPtr) :=
  let closed := { f with data := .null, length := 0 }
  if f.data ≠ .null then
    if flag then (closed, false, some (.free, f.data))
    else (closed, flag, some (.munmap, f.data))
  else (closed, flag, none)

/-- The three ways a mapping attempt ends: through `mmap`, through the fallback, which sets the
flag, or in failure, which leaves `MAP_FAILED` in `data_`. -/
lemma mapFileRegionToMemory_cases (w : MapWorld) (r : MapRequest) (f : MemoryMappedFile)
    (flag : Bool) :
    (∃ f' bytes offset, mapFileRegionToMemory w r f flag = (true, f', flag) ∧
        f'.data = .region .mmap bytes offset) ∨
      (∃ f' bytes offset, mapFileRegionToMemory w r f flag = (true, f', true) ∧
        f'.data = .region .mallocFallback bytes offset) ∨
      ∃ f', mapFileRegionToMemory w r f flag = (false, f', flag) ∧ f'.data = .mapFailed := by
  unfold mapFileRegionToMemory
  cases w.mmap with
  | some bytes => exact Or.inl ⟨_, bytes, r.dataOffset, rfl, rfl⟩
  | none =>
    dsimp only
    split
    · exact Or.inr (Or.inr ⟨_, rfl, rfl⟩)
    · split
      · exact Or.inr (Or.inr ⟨_, rfl, rfl⟩)
      · split
        · exact Or.inr (Or.inr ⟨_, rfl, rfl⟩)
        · -- The size `ftell` reports makes no difference from here on.
          split
          all_goals
            split
            · exact Or.inr (Or.inr ⟨_, rfl, rfl⟩)
            · split
              · exact Or.inr (Or.inr ⟨_, rfl, rfl⟩)
              · exact Or.inr (Or.inl ⟨_, _, _, rfl, rfl⟩)

/-- The releaser `CloseHandles` calls. -/
def flagReleaser (flag : Bool) : Releaser := if flag then .free else .munmap

/-- The flag calls for the releaser of a region when it says how the region was obtained. -/
lemma flagReleaser_eq_iff (flag : Bool) (origin : RegionOrigin) :
    flagReleaser flag = origin.releaser ↔ (origin = .mallocFallback ↔ flag = true) := by
  cases flag <;> cases origin <;> decide

/-- Closing an object that exposes nothing releases nothing. -/
lemma closeHandles_of_null {f : MemoryMappedFile} (h : f.data = .null) (flag : Bool) :
    closeHandles f flag = ({ f with data := .null, length := 0 }, flag, none) := by
  rw [closeHandles, if_neg (not_not.mpr h)]

/-- Closing any other object releases its pointer as the flag says, and clears the flag. -/
lemma closeHandles_of_ne_null {f : MemoryMappedFile} (h : f.data ≠ .null) (flag : Bool) :
    closeHandles f flag =
      ({ f with data := .null, length := 0 }, false, some (flagReleaser flag, f.data)) := by
  rw [closeHandles, if_pos h]
  cases flag <;> rfl

/-! ## A process with any number of objects -/

/-- A region obtained or released.  A release of `MAP_FAILED` has no region. -/
inductive RegionAction (ι : Type*)
  | mapped (o : ι) (origin : RegionOrigin)
  | closed (o : ι) (origin : Option RegionOrigin) (releaser : Releaser)
  deriving DecidableEq, Repr

/-- A release is right when it uses the releaser of the region it releases. -/
def RegionAction.Matches {ι : Type*} : RegionAction ι → Prop
  | .mapped _ _ => True
  | .closed _ none _ => True
  | .closed _ (some origin) releaser => releaser = origin.releaser

instance {ι : Type*} : DecidablePred (RegionAction.Matches (ι := ι))
  | .mapped _ _ => inferInstanceAs (Decidable True)
  | .closed _ none _ => inferInstanceAs (Decidable True)
  | .closed _ (some origin) releaser => inferInstanceAs (Decidable (releaser = origin.releaser))

/-- The objects of a process, its flag `g_qnx_used_malloc_fallback`, and the regions obtained and
released so far, newest first. -/
structure MappedFiles (ι : Type*) where
  file : ι → MemoryMappedFile
  gQnxUsedMallocFallback : Bool
  log : List (RegionAction ι)

/-- The calls on the objects: `SetQNXPath`, `MapFileRegionToMemory` and `CloseHandles`. -/
inductive MappedFileCall (ι : Type*)
  | setQnxPath (o : ι) (path : String)
  | mapFileRegionToMemory (o : ι) (w : MapWorld) (r : MapRequest)
  | closeHandles (o : ι)

/-- The origin of the region a data pointer points into, if it points into one. -/
def DataPtr.origin? : DataPtr → Option RegionOrigin
  | .region origin _ _ => some origin
  | _ => none

namespace MappedFiles

variable {ι : Type*} [DecidableEq ι]

/-- The process before the first call: no region is mapped and the flag is `false`. -/
def init : MappedFiles ι := ⟨fun _ => .new, false, []⟩

/-- The entry of the log for a mapping attempt that left `data` in `data_`. -/
def mapEntry (o : ι) (data : DataPtr) : List (RegionAction ι) :=
  (data.origin?.map (RegionAction.mapped o)).toList

/-- The entry of the log for the release a close has made. -/
def closeEntry (o : ι) (released : Option (Releaser × DataPtr)) : List (RegionAction ι) :=
  (released.map fun q => RegionAction.closed o q.2.origin? q.1).toList

/-- One call; every call is possible in every state. -/
def step (s : MappedFiles ι) : MappedFileCall ι → Option (MappedFiles ι)
  | .setQnxPath o path =>
    some { s with file := Function.update s.file o { s.file o with qnxFilePath := path } }
  | .mapFileRegionToMemory o w r =>
    let result := mapFileRegionToMemory w r (s.file o) s.gQnxUsedMallocFallback
    some ⟨Function.update s.file o result.2.1, result.2.2, mapEntry o result.2.1.data ++ s.log⟩
  | .closeHandles o =>
    let result := closeHandles (s.file o) s.gQnxUsedMallocFallback
    some ⟨Function.update s.file o result.1, result.2.1, closeEntry o result.2.2 ++ s.log⟩

/-- Every release made so far used the releaser that matches how its region was obtained. -/
def ReleasersMatch (s : MappedFiles ι) : Prop := ∀ a ∈ s.log, a.Matches

instance : DecidablePred (ReleasersMatch (ι := ι)) :=
  fun s => inferInstanceAs (Decidable (∀ a ∈ s.log, a.Matches))

/-- Whether a fallback mapping was made since the last release. -/
def fallbackSinceClose : List (RegionAction ι) → Bool
  | [] => false
  | .mapped _ .mallocFallback :: _ => true
  | .mapped _ .mmap :: log => fallbackSinceClose log
  | .closed _ _ _ :: _ => false

/-- The condition on a call: an object with a fallback region is closed only if some fallback
mapping was made since the last release, an object with an `mmap` region only if none was. -/
def ClosesInTurn (s : MappedFiles ι) : MappedFileCall ι → Prop
  | .closeHandles o => ∀ origin ∈ (s.file o).data.origin?,
      (origin = .mallocFallback ↔ fallbackSinceClose s.log = true)
  | _ => True

/-! ## The flag -/

/-- The flag says whether a fallback mapping was made since the last release. -/
lemma flag_eq_of_step {s s' : MappedFiles ι} {c : MappedFileCall ι}
    (h : s.gQnxUsedMallocFallback = fallbackSinceClose s.log) (hstep : step s c = some s') :
    s'.gQnxUsedMallocFallback = fallbackSinceClose s'.log := by
  cases c with
  | setQnxPath o path => rw [← Option.some.inj hstep]; exact h
  | mapFileRegionToMemory o w r =>
    rw [← Option.some.inj hstep]
    rcases mapFileRegionToMemory_cases w r (s.file o) s.gQnxUsedMallocFallback with
      ⟨f, bytes, offset, hmap, hdata⟩ | ⟨f, bytes, offset, hmap, hdata⟩ | ⟨f, hmap, hdata⟩
    · simp only [hmap, hdata]
      exact h
    · simp only [hmap, hdata]
      rfl
    · simp only [hmap, hdata]
      exact h
  | closeHandles o =>
    rw [← Option.some.inj hstep]
    by_cases hnull : (s.file o).data = .null
    · simp only [closeHandles_of_null hnull]
      exact h
    · simp only [closeHandles_of_ne_null hnull]
      rfl

/-- In every reachable state the flag says whether a fallback mapping was made since the last
release. -/
theorem flag_eq_of_reachable {s : MappedFiles ι} (h : Reachable step init s) :
    s.gQnxUsedMallocFallback = fallbackSinceClose s.log :=
  h.invariant (I := fun s => s.gQnxUsedMallocFallback = fallbackSinceClose s.log) rfl
    fun _ _ _ => flag_eq_of_step

/-! ## Runs -/

/-- A call that is not a close adds no release to the log. -/
lemma releasersMatch_of_not_close {s s' : MappedFiles ι} {c : MappedFileCall ι}
    (h : ReleasersMatch s) (hc : ∀ o, c ≠ .closeHandles o) (hstep : step s c = some s') :
    ReleasersMatch s' := by
  cases c with
  | setQnxPath o path => rw [← Option.some.inj hstep]; exact h
  | mapFileRegionToMemory o w r =>
    rw [← Option.some.inj hstep]
    intro a ha
    rcases List.mem_append.mp ha with ha | ha
    · simp only [mapEntry, Option.mem_toList, Option.map_eq_some_iff] at ha
      obtain ⟨origin, -, rfl⟩ := ha
      trivial
    · exact h a ha
  | closeHandles o => exact absurd rfl (hc o)

/-- Closing an object with a region keeps all releases right exactly when the flag names the origin
of the region. -/
lemma releasersMatch_closeHandles_iff {s s' : MappedFiles ι} {o : ι} (h : ReleasersMatch s)
    (hstep : step s (.closeHandles o) = some s') :
    ReleasersMatch s' ↔ ∀ origin ∈ (s.file o).data.origin?,
      (origin = .mallocFallback ↔ s.gQnxUsedMallocFallback = true) := by
  rw [← Option.some.inj hstep]
  have hmatches : ∀ log, (∀ a ∈ log ++ s.log, a.Matches) ↔ ∀ a ∈ log, a.Matches :=
    fun log => List.forall_mem_append.trans (and_iff_left h)
  refine (hmatches _).trans ?_
  by_cases hnull : (s.file o).data = .null
  · rw [closeHandles_of_null hnull, hnull]
    exact iff_of_true (List.forall_mem_nil _) nofun
  · rw [closeHandles_of_ne_null hnull]
    refine List.forall_mem_singleton.trans ?_
    dsimp only
    cases (s.file o).data.origin? with
    | none => exact iff_of_true trivial nofun
    | some origin =>
      simp only [Option.mem_some_iff, forall_eq', ← flagReleaser_eq_iff]
      exact Iff.rfl

/-- **When the releasers match.**  Over any number of objects and any outcomes of the mappings,
every close of a run releases its region with the matching releaser if and only if each close of a
fallback region comes after a fallback mapping made since the previous release, and each close of an
`mmap` region does not. -/
theorem releasersMatch_iff_closesInTurn (calls : List (MappedFileCall ι)) :
    Always step ReleasersMatch (init : MappedFiles ι) calls ↔
      StepsMeet step ClosesInTurn init calls := by
  refine always_iff_stepsMeet
    (I := fun s => ReleasersMatch s ∧ s.gQnxUsedMallocFallback = fallbackSinceClose s.log)
    ⟨fun a ha => absurd ha List.not_mem_nil, rfl⟩ (fun _ h => h.1) ?_ ?_ calls
  · rintro s c s' ⟨hmatch, hflag⟩ hC hstep
    refine ⟨?_, flag_eq_of_step hflag hstep⟩
    by_cases hc : ∃ o, c = .closeHandles o
    · obtain ⟨o, rfl⟩ := hc
      rw [releasersMatch_closeHandles_iff hmatch hstep, hflag]
      exact hC
    · exact releasersMatch_of_not_close hmatch (fun o ho => hc ⟨o, ho⟩) hstep
  · rintro s c s' ⟨hmatch, hflag⟩ hC hstep hmatch'
    cases c with
    | closeHandles o =>
      rw [releasersMatch_closeHandles_iff hmatch hstep, hflag] at hmatch'
      exact hC hmatch'
    | setQnxPath o path => exact hC trivial
    | mapFileRegionToMemory o w r => exact hC trivial

/-- A one-byte file, for which `mmap` works or fails so that the fallback is used. -/
def oneByteWorld (mmapWorks : Bool) : MapWorld where
  mmap := if mmapWorks then some [7] else none
  fopen _ := some [7]
  ftell content := content.length
  malloc _ := true
  fread := id

/-- A file is mapped through the fallback, a second one through `mmap`, and the second is closed. -/
def crossedClose : List (MappedFileCall ℕ) :=
  [.setQnxPath 0 "icudtl.dat", .mapFileRegionToMemory 0 (oneByteWorld false) ⟨0, 1, 0, 1⟩,
    .mapFileRegionToMemory 1 (oneByteWorld true) ⟨0, 1, 0, 1⟩, .closeHandles 1]

/-- Closing the object with the `mmap` region passes its pointer to `free`. -/
theorem crossedClose_not_releasersMatch :
    ¬ Always step ReleasersMatch (init : MappedFiles ℕ) crossedClose := by
  decide

end MappedFiles

end ChromiumQnx
