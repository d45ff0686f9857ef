import ChromiumQnx.Foundation.ByteMemory
import ChromiumQnx.Foundation.CharBuffer

/-!
# The platform stubs of the shell

`qnx_platform_stubs.cc` defines `strncpy` for the whole binary: one loop copies up to the first NUL
or up to `n` bytes, and a second one goes on at the same index and stores NULs.

Source and destination are addresses in one memory, which faults at addresses that are not mapped.
The main result says that for every call that the C standard defines the function returns, what it
reads and writes, and that it leaves what the standard says.
-/

namespace ChromiumQnx

open ByteMemory Snprintf

/-! ## `strncpy` -/

/-- `for (; i < n && src[i] != '\0'; ++i) dst[i] = src[i];`, with the index behind the loop. -/
def strncpyCopyLoop (dst src n i : ℕ) (m : ByteMemory) : Option (ℕ × ByteMemory) :=
  if i < n then do
    let (c, m) ← m.load (src + i)
    if c ≠ 0 then do
      let (c, m) ← m.load (src + i)
      let m ← m.store (dst + i) c
      strncpyCopyLoop dst src n (i + 1) m
    else some (i, m)
  else some (i, m)
termination_by n - i

/-- `for (; i < n; ++i) dst[i] = '\0';`. -/
def strncpyPadLoop (dst n i : ℕ) (m : ByteMemory) : Option ByteMemory :=
  if i < n then do
    let m ← m.store (dst + i) 0
    strncpyPadLoop dst n (i + 1) m
  else some m
termination_by n - i

/-- `qnx_strncpy_impl`, which is linked under the name `strncpy`: the pointer it returns and the
memory it leaves, if it does not fault. -/
def qnxStrncpyImpl (dst src n : ℕ) (m : ByteMemory) : Option (ℕ × ByteMemory) := do
  let (i, m) ← strncpyCopyLoop dst src n 0 m
  let m ← strncpyPadLoop dst n i m
  some (dst, m)

/-! ## What the C standard says -/

/-- What `strncpy` leaves in the `n` bytes of the destination: the characters of the source up to
its first NUL, but not more than `n`, and NULs behind them. -/
def standardStrncpy (n : ℕ) (source : List UInt8) : List UInt8 :=
  (cString source).take n ++ List.replicate (n - (cString source).length) 0

/-- A call that the C standard defines.  The source array holds a NUL or at least `n` bytes, the `n`
bytes of the destination are there, and the copy does not overwrite what it has yet to read.  The
standard asks for more, that the bytes read and the bytes written do not overlap. -/
structure StrncpyCall (byte : ℕ → Option UInt8) (dst src n : ℕ) (source : List UInt8) : Prop where
  holds : HoldsAt byte src source
  bounded : 0 ∈ source ∨ n ≤ source.length
  mapped : ∀ i < n, (byte (dst + i)).isSome
  apart : dst ≤ src ∨ src + min n ((cString source).length + 1) ≤ dst

variable {byte : ℕ → Option UInt8} {dst src n i : ℕ} {source : List UInt8} {m : ByteMemory}

lemma length_standardStrncpy (n : ℕ) (source : List UInt8) :
    (standardStrncpy n source).length = n := by
  rw [standardStrncpy, List.length_append, List.length_take, List.length_replicate]
  omega

/-- In front of the first NUL of the source stands a character of it. -/
lemma getElem?_standardStrncpy_of_lt (hi : i < n) (hlt : i < (cString source).length) :
    (standardStrncpy n source)[i]? = source[i]? := by
  obtain ⟨rest, hrest⟩ : cString source <+: source := List.takeWhile_prefix _
  have hsource : source[i]? = (cString source ++ rest)[i]? := by rw [hrest]
  rw [standardStrncpy, List.getElem?_append_left (by rw [List.length_take]; omega),
    List.getElem?_take_of_lt hi, hsource, List.getElem?_append_left hlt]

/-- Behind it stands a NUL. -/
lemma getElem?_standardStrncpy_of_le (hi : i < n) (hle : (cString source).length ≤ i) :
    (standardStrncpy n source)[i]? = some 0 := by
  rw [standardStrncpy, List.getElem?_append_right (by rw [List.length_take]; omega),
    List.getElem?_replicate, if_pos (by rw [List.length_take]; omega)]

/-- Up to its first NUL the source has characters, and only the last of them is NUL. -/
lemma exists_source_eq (hbounded : 0 ∈ source ∨ n ≤ source.length) (hi : i < n)
    (hle : i ≤ (cString source).length) :
    ∃ c, source[i]? = some c ∧ (c ≠ 0 ↔ i < (cString source).length) := by
  by_cases hzero : 0 ∈ source
  · obtain ⟨text, rest, rfl, htext⟩ := List.eq_append_cons_of_mem hzero
    rw [cString_append_zero, cString_eq_self htext] at hle ⊢
    rcases Nat.lt_or_eq_of_le hle with hlt | rfl
    · refine ⟨text[i], ?_, ?_⟩
      · rw [List.getElem?_append_left hlt, List.getElem?_eq_getElem hlt]
      · exact iff_of_true (fun h => htext (h ▸ List.getElem_mem hlt)) hlt
    · refine ⟨0, ?_, iff_of_false (fun h => h rfl) (Nat.lt_irrefl _)⟩
      rw [List.getElem?_append_right (Nat.le_refl _), Nat.sub_self, List.getElem?_cons_zero]
  · rw [cString_eq_self hzero]
    have hlt : i < source.length := Nat.lt_of_lt_of_le hi (hbounded.resolve_left hzero)
    refine ⟨source[i], List.getElem?_eq_getElem hlt, ?_⟩
    exact iff_of_true (fun h => hzero (h ▸ List.getElem_mem hlt)) hlt

/-! ## The loops -/

/-- The invariant of both loops: the first `i` bytes of the destination are in place, written one
after the other, and of the source nothing was read behind the first NUL or from `n` on. -/
structure Copied (byte : ℕ → Option UInt8) (dst src n : ℕ) (source : List UInt8) (i : ℕ)
    (m : ByteMemory) : Prop where
  byte_eq : m.byte = overlay byte dst ((standardStrncpy n source).take i)
  reads : ∀ a ∈ m.reads, ∃ j, a = src + j ∧ j < n ∧ j ≤ (cString source).length
  writes_eq : m.writes = List.range' dst i

lemma copied_start (byte : ℕ → Option UInt8) (dst src n : ℕ) (source : List UInt8) :
    Copied byte dst src n source 0 (start byte) where
  byte_eq := (overlay_nil byte dst).symm
  reads _ ha := absurd ha List.not_mem_nil
  writes_eq := rfl

lemma length_take_standardStrncpy (source : List UInt8) (hi : i ≤ n) :
    ((standardStrncpy n source).take i).length = i := by
  rw [List.length_take, length_standardStrncpy]
  omega

/-- A byte of the source is read as it was at the beginning. -/
lemma Copied.load (hm : Copied byte dst src n source i m) (h : StrncpyCall byte dst src n source)
    (hi : i < n) (hle : i ≤ (cString source).length) {c : UInt8} (hc : source[i]? = some c) :
    ∃ m', m.load (src + i) = some (c, m') ∧ Copied byte dst src n source i m' := by
  obtain ⟨hlt, rfl⟩ := List.getElem?_eq_some_iff.mp hc
  have hbyte : m.byte (src + i) = some source[i] := by
    rw [hm.byte_eq, overlay_outside, h.holds i hlt]
    -- the bytes written so far do not reach it
    rw [length_take_standardStrncpy source (Nat.le_of_lt hi)]
    have hapart := h.apart
    omega
  refine ⟨_, load_of_eq_some hbyte, hm.byte_eq, fun a ha => ?_, hm.writes_eq⟩
  rcases List.mem_append.mp ha with hold | hnew
  · exact hm.reads a hold
  · exact ⟨i, List.mem_singleton.mp hnew, hi, hle⟩

/-- The next byte of the destination is written. -/
lemma Copied.store (hm : Copied byte dst src n source i m)
    (h : StrncpyCall byte dst src n source) (hi : i < n) {c : UInt8}
    (hc : (standardStrncpy n source)[i]? = some c) :
    ∃ m', m.store (dst + i) c = some m' ∧ Copied byte dst src n source (i + 1) m' := by
  have hlen := length_take_standardStrncpy source (Nat.le_of_lt hi)
  have hstore := store_overlay hm.byte_eq (hlen.symm ▸ h.mapped i hi) c
  rw [hlen] at hstore
  obtain ⟨hlt, rfl⟩ := List.getElem?_eq_some_iff.mp hc
  refine ⟨_, hstore, ?_, hm.reads, ?_⟩
  · rw [List.take_append_getElem hlt]
  · change m.writes ++ [dst + i] = _
    rw [hm.writes_eq, List.range'_concat, Nat.one_mul]

/-- The first loop ends at the first NUL of the source, or at `n`. -/
lemma strncpyCopyLoop_spec (h : StrncpyCall byte dst src n source)
    (hm : Copied byte dst src n source i m) (hi : i ≤ n) (hle : i ≤ (cString source).length) :
    ∃ m', strncpyCopyLoop dst src n i m = some (min n (cString source).length, m') ∧
      Copied byte dst src n source (min n (cString source).length) m' := by
  induction hleft : n - i generalizing i m with
  | zero =>
    obtain rfl : i = n := by omega
    rw [Nat.min_eq_left hle, strncpyCopyLoop, if_neg (Nat.lt_irrefl i)]
    exact ⟨m, rfl, hm⟩
  | succ left ih =>
    have hlt : i < n := by omega
    obtain ⟨c, hsource, hc⟩ := exists_source_eq h.bounded hlt hle
    obtain ⟨m₁, hload₁, hm₁⟩ := hm.load h hlt hle hsource
    rw [strncpyCopyLoop, if_pos hlt, hload₁]
    by_cases hzero : c = 0
    · -- the first NUL: the index stays
      have hend : (cString source).length = i :=
        Nat.le_antisymm (Nat.le_of_not_lt fun hnext => hc.mpr hnext hzero) hle
      refine ⟨m₁, ?_, ?_⟩
      · rw [hend, Nat.min_eq_right hi]
        exact if_neg (not_not.mpr hzero)
      · rw [hend, Nat.min_eq_right hi]
        exact hm₁
    · have hnext := hc.mp hzero
      obtain ⟨m₂, hload₂, hm₂⟩ := hm₁.load h hlt hle hsource
      obtain ⟨m₃, hstore, hm₃⟩ :=
        hm₂.store h hlt ((getElem?_standardStrncpy_of_lt hlt hnext).trans hsource)
      obtain ⟨m', hloop, hm'⟩ := ih hm₃ hlt hnext (by omega)
      refine ⟨m', ?_, hm'⟩
      rw [Option.bind_eq_bind, Option.bind_some]
      dsimp only
      rw [if_pos hzero, hload₂]
      simp only [Option.bind_eq_bind, Option.bind_some]
      rw [hstore, Option.bind_some, hloop]

/-- The second loop fills the rest of the destination. -/
lemma strncpyPadLoop_spec (h : StrncpyCall byte dst src n source)
    (hm : Copied byte dst src n source i m) (hi : i ≤ n)
    (hle : i < n → (cString source).length ≤ i) :
    ∃ m', strncpyPadLoop dst n i m = some m' ∧ Copied byte dst src n source n m' := by
  induction hleft : n - i generalizing i m with
  | zero =>
    obtain rfl : i = n := by omega
    rw [strncpyPadLoop, if_neg (Nat.lt_irrefl i)]
    exact ⟨m, rfl, hm⟩
  | succ left ih =>
    have hlt : i < n := by omega
    obtain ⟨m₁, hstore, hm₁⟩ := hm.store h hlt (getElem?_standardStrncpy_of_le hlt (hle hlt))
    obtain ⟨m', hloop, hm'⟩ := ih hm₁ hlt (fun _ => Nat.le_succ_of_le (hle hlt)) (by omega)
    refine ⟨m', ?_, hm'⟩
    rw [strncpyPadLoop, if_pos hlt, hstore]
    exact hloop

/-- The function returns its first argument without a fault, with all bytes in place. -/
lemma qnxStrncpyImpl_spec (h : StrncpyCall byte dst src n source) :
    ∃ m, qnxStrncpyImpl dst src n (start byte) = some (dst, m) ∧
      Copied byte dst src n source n m := by
  obtain ⟨m₁, hcopy, hm₁⟩ :=
    strncpyCopyLoop_spec h (copied_start byte dst src n source) (Nat.zero_le n) (Nat.zero_le _)
  obtain ⟨m, hpad, hm⟩ := strncpyPadLoop_spec h hm₁ (Nat.min_le_left _ _) (by omega)
  refine ⟨m, ?_, hm⟩
  rw [qnxStrncpyImpl, hcopy, Option.bind_eq_bind, Option.bind_some]
  dsimp only
  rw [hpad]
  rfl

lemma Copied.byte_eq_overlay (hm : Copied byte dst src n source n m) :
    m.byte = overlay byte dst (standardStrncpy n source) := by
  rw [hm.byte_eq, List.take_of_length_le (Nat.le_of_eq (length_standardStrncpy n source))]

/-- **`strncpy`.**  For every call that the C standard defines, the function returns its first
argument without a fault.  It reads no byte of the source behind the first NUL, nor from `n` on; it
writes the `n` bytes of the destination, one after the other, and leaves in them what the standard
says and in all others what was there. -/
theorem qnxStrncpyImpl_standard (h : StrncpyCall byte dst src n source) :
    ∃ m, qnxStrncpyImpl dst src n (start byte) = some (dst, m) ∧
      (∀ a ∈ m.reads, ∃ j, a = src + j ∧ j < n ∧ j ≤ (cString source).length) ∧
      m.writes = List.range' dst n ∧
      m.byte = overlay byte dst (standardStrncpy n source) := by
  obtain ⟨m, hresult, hm⟩ := qnxStrncpyImpl_spec h
  exact ⟨m, hresult, hm.reads, hm.writes_eq, hm.byte_eq_overlay⟩

/-- A memory with the string `ab` at 100 and five bytes at 200. -/
def twoArrays : ℕ → Option UInt8 :=
  overlay (overlay (fun _ => none) 100 [97, 98, 0]) 200 [1, 1, 1, 1, 1]

/-- The string `ab` is copied with three NULs. -/
theorem qnxStrncpyImpl_short :
    ∃ m, qnxStrncpyImpl 200 100 5 (start twoArrays) = some (200, m) ∧
      (∀ a ∈ m.reads, ∃ j, a = 100 + j ∧ j < 5 ∧ j ≤ 2) ∧
      m.writes = [200, 201, 202, 203, 204] ∧ m.byte = overlay twoArrays 200 [97, 98, 0, 0, 0] :=
  qnxStrncpyImpl_standard
    { holds := (by decide : HoldsAt twoArrays 100 [97, 98, 0])
      bounded := Or.inl (by decide)
      mapped := by decide
      apart := Or.inr (by decide) }

/-! ## Arrays of a caller -/

lemma cString_memory (s : StringSearch.CString) : cString s.memory = s.chars :=
  (cString_append_zero s.chars []).trans (cString_eq_self s.nul_free)

/-- A copy into an array of the caller, with as many bytes as it has at most, does to the array what
`CharBuffer.strncpy` says. -/
theorem qnxStrncpyImpl_charBuffer {size : ℕ} (b : CharBuffer size) (s : StringSearch.CString)
    (hn : n ≤ size) (hdst : HoldsAt byte dst b.bytes) (hsrc : HoldsAt byte src s.memory)
    (hapart : dst ≤ src ∨ src + min n (s.chars.length + 1) ≤ dst) :
    ∃ m, qnxStrncpyImpl dst src n (start byte) = some (dst, m) ∧
      HoldsAt m.byte dst (b.strncpy s n).bytes := by
  have hsize := b.length_bytes
  have hcall : StrncpyCall byte dst src n s.memory :=
    { holds := hsrc
      bounded := Or.inl (List.mem_append_right s.chars List.mem_cons_self)
      mapped := fun i hi => by
        rw [hdst i (by omega)]
        rfl
      apart := by
        rw [cString_memory]
        exact hapart }
  obtain ⟨m, hresult, hm⟩ := qnxStrncpyImpl_spec hcall
  have hlen := length_standardStrncpy n s.memory
  have hbytes : (b.strncpy s n).bytes = standardStrncpy n s.memory ++ b.bytes.drop n := by
    rw [CharBuffer.strncpy, ← cString_memory s]
    change (b.write (standardStrncpy n s.memory)).bytes = _
    rw [b.bytes_write (by omega), hlen]
  refine ⟨m, hresult, fun i hi => ?_⟩
  rw [hm.byte_eq_overlay]
  have hget : (b.strncpy s n).bytes[i]? =
      (standardStrncpy n s.memory ++ b.bytes.drop n)[i]? := by rw [hbytes]
  rw [← List.getElem?_eq_getElem hi, hget]
  by_cases hin : i < n
  · rw [List.getElem?_append_left (by omega), holdsAt_overlay byte dst _ i (by omega),
      List.getElem?_eq_getElem]
  · -- behind the `n` bytes the array is as it was
    have hi' : i < b.bytes.length := by
      rw [(b.strncpy s n).length_bytes] at hi
      omega
    rw [overlay_outside (by omega), hdst i hi', List.getElem?_append_right (by omega),
      List.getElem?_drop, hlen, Nat.add_sub_cancel' (Nat.le_of_not_lt hin),
      List.getElem?_eq_getElem]

end ChromiumQnx
