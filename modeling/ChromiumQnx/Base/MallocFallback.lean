import ChromiumQnx.Base.MemoryMappedFile

/-!
# What the malloc fallback exposes

When `mmap` fails, `MapFileRegionToMemory` reads the file with `fread` instead, into a buffer of the
size of the whole file.  It replaces the requested size by that of the file, seeks to `map_start`,
and moves `data_` by `data_offset` from the pointer `malloc` returned.

`MapRegion` is a request for a part of a file, aligned to pages and inside the file, together with
the file's contents.  The fallback is compared with what the mapping of the same request exposes; it
does the same exactly for the request of a whole, non-empty file.
-/

namespace ChromiumQnx

/-- A request for the bytes from `mapStart + dataOffset` to `mapStart + mapSize` of a file, which
lie inside the file; the start is on a page boundary and the offset inside a page. -/
structure MapRegion where
  content : List UInt8
  pageSize : ℕ
  mapStart : ℕ
  mapSize : ℕ
  dataOffset : ℕ
  aligned : pageSize ∣ mapStart
  offset_in_page : dataOffset < pageSize
  offset_le : dataOffset ≤ mapSize
  inside : mapStart + mapSize ≤ content.length

namespace MapRegion

/-- The request as `MapFileRegionToMemory` computes it; the length is that of the region. -/
def request (r : MapRegion) : MapRequest where
  mapStart := r.mapStart
  mapSize := r.mapSize
  dataOffset := r.dataOffset
  length := r.mapSize - r.dataOffset

/-- The bytes of the region. -/
def bytes (r : MapRegion) : List UInt8 :=
  (r.content.drop (r.mapStart + r.dataOffset)).take (r.mapSize - r.dataOffset)

/-- A system whose `mmap` maps the request. -/
def mmapWorld (r : MapRegion) : MapWorld where
  mmap := some ((r.content.drop r.mapStart).take r.mapSize)
  fopen := fun _ => some r.content
  ftell := fun content => content.length
  malloc := fun _ => true
  fread := id

/-- A system whose `mmap` fails, and on which opening and reading the file and `malloc` work. -/
def fallbackWorld (r : MapRegion) : MapWorld := { r.mmapWorld with mmap := none }

end MapRegion

/-- The bytes at `data_[0..length_)`, when they lie inside the region `data_` points to. -/
def MemoryMappedFile.exposed (f : MemoryMappedFile) : Option (List UInt8) :=
  match f.data with
  | .region _ bytes offset =>
    if offset + f.length ≤ bytes.length then some ((bytes.drop offset).take f.length) else none
  | _ => none

/-- The start of the region `data_` points into: the pointer `mmap` or `malloc` returned. -/
def DataPtr.regionStart : DataPtr → DataPtr
  | .region origin bytes _ => .region origin bytes 0
  | p => p

/-- An object that points into a region with enough bytes exposes those from its offset on. -/
lemma exposed_region {f : MemoryMappedFile} {origin : RegionOrigin} {bytes : List UInt8}
    {offset : ℕ} (hdata : f.data = .region origin bytes offset)
    (hle : offset + f.length ≤ bytes.length) :
    f.exposed = some ((bytes.drop offset).take f.length) := by
  unfold MemoryMappedFile.exposed
  rw [hdata]
  exact if_pos hle

/-- The mapping exposes the bytes of the region. -/
theorem exposed_mmapWorld (r : MapRegion) (f : MemoryMappedFile) (flag : Bool) :
    (mapFileRegionToMemory r.mmapWorld r.request f flag).2.1.exposed = some r.bytes := by
  have hlen : ((r.content.drop r.mapStart).take r.mapSize).length = r.mapSize := by
    have := r.inside
    rw [List.length_take, List.length_drop]
    omega
  have hoffset := r.offset_le
  have hle : r.dataOffset + (r.mapSize - r.dataOffset) ≤
      ((r.content.drop r.mapStart).take r.mapSize).length := by omega
  refine (exposed_region rfl hle).trans ?_
  change some ((((r.content.drop r.mapStart).take r.mapSize).drop r.dataOffset).take
    (r.mapSize - r.dataOffset)) = some r.bytes
  rw [MapRegion.bytes, List.drop_take, List.drop_drop, List.take_take, Nat.min_self]

/-- The fallback does what the mapping does: it succeeds, exposes the bytes the mapping exposes with
the length of the region, and closing the object frees the pointer that `malloc` returned. -/
structure FallbackLikeMmap (r : MapRegion) (f : MemoryMappedFile) (flag : Bool) : Prop where
  succeeds : (mapFileRegionToMemory r.fallbackWorld r.request f flag).1 = true
  exposed : (mapFileRegionToMemory r.fallbackWorld r.request f flag).2.1.exposed =
    (mapFileRegionToMemory r.mmapWorld r.request f flag).2.1.exposed
  length : (mapFileRegionToMemory r.fallbackWorld r.request f flag).2.1.length =
    r.mapSize - r.dataOffset
  freed : (closeHandles (mapFileRegionToMemory r.fallbackWorld r.request f flag).2.1
      (mapFileRegionToMemory r.fallbackWorld r.request f flag).2.2).2.2 =
    some (.free, (mapFileRegionToMemory r.fallbackWorld r.request f flag).2.1.data.regionStart)

/-- The request is for a whole file that is not empty, and the object knows the file's path. -/
structure WholeFile (r : MapRegion) (f : MemoryMappedFile) : Prop where
  path : f.qnxFilePath.isEmpty = false
  start : r.mapStart = 0
  offset : r.dataOffset = 0
  size : r.mapSize = r.content.length
  nonempty : r.content ≠ []

variable {r : MapRegion} {f : MemoryMappedFile} {flag : Bool}

/-- The fallback on a file whose path is known: it fails on an empty file and for a part that does
not start at the file's beginning, and otherwise reads the whole file, takes its size for the length
unless that is the requested size, and points `data_` at the requested offset. -/
lemma fallback_of_path (r : MapRegion) (flag : Bool) (hpath : f.qnxFilePath.isEmpty = false) :
    (r.content = [] ∨ r.mapStart ≠ 0) ∧
        (mapFileRegionToMemory r.fallbackWorld r.request f flag).1 = false ∨
      r.content ≠ [] ∧ r.mapStart = 0 ∧
        mapFileRegionToMemory r.fallbackWorld r.request f flag =
          (true,
            { f with
              length := if r.content.length ≠ r.mapSize then r.content.length
                else r.mapSize - r.dataOffset
              data := .region .mallocFallback r.content r.dataOffset },
            true) := by
  have hworld : r.fallbackWorld = ⟨none, fun _ => some r.content, fun content => content.length,
    fun _ => true, id⟩ := rfl
  unfold mapFileRegionToMemory
  rw [hworld]
  by_cases hempty : r.content = []
  · refine Or.inl ⟨Or.inl hempty, ?_⟩
    simp [hpath, hempty]
  · have hpos := List.length_pos_iff.mpr hempty
    by_cases hstart : r.mapStart = 0
    · refine Or.inr ⟨hempty, hstart, ?_⟩
      by_cases hsize : r.content.length = r.mapSize
      · simp [hpath, hempty, hstart, ← hsize, MapRegion.request]
      · simp [hpath, hempty, hstart, hsize, MapRegion.request]
    · refine Or.inl ⟨Or.inr hstart, ?_⟩
      -- the seek leaves fewer bytes to read than the file has
      have hshort : r.content.length - r.mapStart ≠ r.content.length := by omega
      by_cases hsize : r.content.length = r.mapSize
      · simp [hpath, hempty, ← hsize, hshort, MapRegion.request]
      · simp [hpath, hempty, hsize, hshort, MapRegion.request]

/-- Only the request of a whole file is served as the mapping would serve it. -/
lemma FallbackLikeMmap.wholeFile (h : FallbackLikeMmap r f flag) : WholeFile r f := by
  cases hpath : f.qnxFilePath.isEmpty with
  | true =>
    -- without a path nothing is read
    have hfails : (mapFileRegionToMemory r.fallbackWorld r.request f flag).1 = false := by
      simp [mapFileRegionToMemory, MapRegion.fallbackWorld, hpath]
    exact Bool.noConfusion (h.succeeds.symm.trans hfails)
  | false =>
    rcases fallback_of_path r flag hpath with ⟨-, hfails⟩ | ⟨hne, hstart, heq⟩
    · exact Bool.noConfusion (h.succeeds.symm.trans hfails)
    · have hoffset : r.dataOffset = 0 := by
        have hfreed := h.freed
        rw [heq, closeHandles_of_ne_null (by simp)] at hfreed
        simpa [DataPtr.regionStart, flagReleaser] using hfreed
      refine ⟨hpath, hstart, hoffset, ?_, hne⟩
      have hlength := h.length
      rw [heq] at hlength
      by_contra hsize
      simp only [ne_eq, Ne.symm hsize, not_false_eq_true, if_true, hoffset] at hlength
      omega

/-- On the request of a whole file the fallback takes the file's size for the length, and that is
the requested size. -/
lemma WholeFile.fallback_eq (h : WholeFile r f) :
    mapFileRegionToMemory r.fallbackWorld r.request f flag =
      (true,
        { f with length := r.content.length, data := .region .mallocFallback r.content 0 },
        true) := by
  rcases fallback_of_path r flag h.path with ⟨hpart, -⟩ | ⟨-, -, heq⟩
  · exact absurd hpart (not_or.mpr ⟨h.nonempty, not_not.mpr h.start⟩)
  · rw [heq, h.offset, h.size]
    simp

/-- The request of a whole file is served as the mapping would serve it. -/
lemma WholeFile.fallbackLikeMmap (h : WholeFile r f) : FallbackLikeMmap r f flag where
  succeeds := by rw [h.fallback_eq]
  exposed := by
    rw [exposed_mmapWorld, h.fallback_eq]
    refine (exposed_region rfl (Nat.zero_add _).le).trans ?_
    simp [MapRegion.bytes, h.start, h.offset, h.size]
  length := by
    rw [h.fallback_eq, h.offset, h.size]
    rfl
  freed := by
    rw [h.fallback_eq, closeHandles_of_ne_null (by simp)]
    rfl

/-- **Exactness of the fallback.**  When `mmap` fails and everything else works, the fallback does
what the mapping would do, if and only if the request is for a whole, non-empty file whose path is
known. -/
theorem fallbackLikeMmap_iff (r : MapRegion) (f : MemoryMappedFile) (flag : Bool) :
    FallbackLikeMmap r f flag ↔ WholeFile r f :=
  ⟨FallbackLikeMmap.wholeFile, WholeFile.fallbackLikeMmap⟩

/-- The bytes 2 and 3 of a file of eight bytes, on pages of four. -/
def innerRegion : MapRegion where
  content := [0, 1, 2, 3, 4, 5, 6, 7]
  pageSize := 4
  mapStart := 0
  mapSize := 4
  dataOffset := 2
  aligned := by decide
  offset_in_page := by decide
  offset_le := by decide
  inside := by decide

/-- The request for a part of a file gets the length of the whole file, so that `data_[0..length_)`
reaches beyond the buffer, and frees a pointer inside it. -/
theorem innerRegion_not_likeMmap :
    ¬ FallbackLikeMmap innerRegion { MemoryMappedFile.new with qnxFilePath := "f" } false := by
  intro h
  exact absurd h.length (by decide)

end ChromiumQnx
