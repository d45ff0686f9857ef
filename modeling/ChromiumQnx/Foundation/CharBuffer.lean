import ChromiumQnx.Foundation.Snprintf
import Mathlib.Data.List.DropRight

/-!
# Strings in a character array

`CharBuffer n` is an array of `n` bytes.  The string it holds ends at the first NUL, and only an
array that is `Terminated` has one.  `put` and `write` store bytes into the array, `strncpy` and
`getcwd` are given by them; for each there is a lemma that says what string the array holds
afterwards.

`strncat` stores a string behind the one that is there.  `strrchr` finds the last occurrence of a
character, `strstr` the first occurrence of a string.
-/

/-- An array of `n` bytes. -/
structure CharBuffer (n : ℕ) where
  bytes : List UInt8
  length_bytes : bytes.length = n

namespace CharBuffer

open Snprintf StringSearch

variable {n : ℕ}

/-- The string in the array. -/
def text (b : CharBuffer n) : List UInt8 := cString b.bytes

/-- The array holds a NUL. -/
def Terminated (b : CharBuffer n) : Prop := 0 ∈ b.bytes

/-- `b[i]`. -/
def get (b : CharBuffer n) (i : ℕ) : UInt8 := b.bytes.getD i 0

/-- `b[i] = c`. -/
def put (b : CharBuffer n) (i : ℕ) (c : UInt8) : CharBuffer n where
  bytes := b.bytes.set i c
  length_bytes := by rw [List.length_set, b.length_bytes]

/-- Bytes stored at the front of the array, as far as they fit. -/
def write (b : CharBuffer n) (data : List UInt8) : CharBuffer n where
  bytes := (data ++ b.bytes.drop data.length).take n
  length_bytes := by
    have hlen := b.length_bytes
    rw [List.length_take, List.length_append, List.length_drop]
    omega

/-- `strncpy(b, s, k)`: the first `k` bytes of the string, and NULs up to `k` bytes. -/
def strncpy (b : CharBuffer n) (s : CString) (k : ℕ) : CharBuffer n :=
  b.write (s.chars.take k ++ List.replicate (k - s.chars.length) 0)

/-- `getcwd(b, n)`: the path of the current directory with its terminator, or a failure when there
is none or it does not fit. -/
def getcwd (b : CharBuffer n) (cwd : Option CString) : Option (CharBuffer n) :=
  match cwd with
  | some path => if path.chars.length < n then some (b.write path.memory) else none
  | none => none

/-! ## The string after a store -/

/-- A terminated array holds a string that is shorter than the array. -/
lemma Terminated.length_text_lt {b : CharBuffer n} (h : b.Terminated) : b.text.length < n := by
  have hprefix : b.text <+: b.bytes := List.takeWhile_prefix _
  have hle := hprefix.length_le
  rw [b.length_bytes] at hle
  refine lt_of_le_of_ne hle fun hlen => ?_
  have hself : cString b.bytes = b.bytes := hprefix.eq_of_length (hlen.trans b.length_bytes.symm)
  have hnul := zero_notMem_cString b.bytes
  rw [hself] at hnul
  exact hnul h

/-- The first byte is NUL exactly when the string is empty. -/
lemma get_zero_eq_zero_iff (b : CharBuffer n) : b.get 0 = 0 ↔ b.text = [] := by
  obtain ⟨bytes, hlen⟩ := b
  change bytes.getD 0 0 = 0 ↔ cString bytes = []
  cases bytes with
  | nil => exact iff_of_true rfl rfl
  | cons c rest =>
    unfold cString
    rw [List.getD_cons_zero, List.takeWhile_cons]
    by_cases hc : c = 0
    · simp [hc]
    · simp [hc]

lemma cString_set_zero (s : List UInt8) (i : ℕ) : cString (s.set i 0) = (cString s).take i := by
  induction s generalizing i with
  | nil => exact List.take_nil.symm
  | cons c s ih =>
    cases i with
    | zero => rfl
    | succ i =>
      unfold cString at ih ⊢
      rw [List.set_cons_succ, List.takeWhile_cons, List.takeWhile_cons]
      split
      · rw [List.take_succ_cons, ih i]
      · rfl

/-- **A stored NUL** cuts the string off. -/
lemma text_put_zero (b : CharBuffer n) (i : ℕ) : (b.put i 0).text = b.text.take i :=
  cString_set_zero b.bytes i

lemma terminated_put_zero (b : CharBuffer n) {i : ℕ} (hi : i < n) : (b.put i 0).Terminated :=
  List.mem_set (b.length_bytes.symm ▸ hi) 0

/-- A NUL that is stored elsewhere terminates the array as well. -/
lemma Terminated.put_zero {b : CharBuffer n} (h : b.Terminated) (i : ℕ) :
    (b.put i 0).Terminated := by
  by_cases hi : i < n
  · exact b.terminated_put_zero hi
  · have hlen := b.length_bytes
    have hbytes : (b.put i 0).bytes = b.bytes := List.set_eq_of_length_le (by omega)
    unfold Terminated
    rw [hbytes]
    exact h

/-- The bytes after a store that fits. -/
lemma bytes_write (b : CharBuffer n) {data : List UInt8} (hlen : data.length ≤ n) :
    (b.write data).bytes = data ++ b.bytes.drop data.length := by
  apply List.take_of_length_le
  have hb := b.length_bytes
  rw [List.length_append, List.length_drop]
  omega

/-- **A string stored with its terminator.** -/
lemma write_append_zero (b : CharBuffer n) (s r : List UInt8)
    (hlen : (s ++ 0 :: r).length ≤ n) :
    (b.write (s ++ 0 :: r)).text = cString s ∧ (b.write (s ++ 0 :: r)).Terminated := by
  unfold text Terminated
  rw [bytes_write b hlen, List.append_assoc, List.cons_append]
  exact ⟨cString_append_zero s _, by simp⟩

/-- Bytes stored with a terminator behind them. -/
lemma bytes_write_put (b : CharBuffer n) {data : List UInt8} (hlen : data.length < n) :
    ∃ rest, ((b.write data).put data.length 0).bytes = data ++ 0 :: rest := by
  have hb := b.length_bytes
  obtain ⟨c, rest, hrest⟩ : ∃ c rest, b.bytes.drop data.length = c :: rest := by
    refine List.exists_cons_of_ne_nil fun hnil => ?_
    have hle := List.drop_eq_nil_iff.mp hnil
    omega
  refine ⟨rest, ?_⟩
  change (b.write data).bytes.set data.length 0 = _
  rw [bytes_write b (Nat.le_of_lt hlen), List.set_append_right _ _ (Nat.le_refl _), Nat.sub_self,
    hrest, List.set_cons_zero]

/-- The copy of a string, terminated behind the bytes that were copied. -/
lemma text_strncpy_put (b : CharBuffer n) (s : CString) {k : ℕ} (hk : k < n) :
    ((b.strncpy s k).put k 0).text = s.chars.take k := by
  rw [text_put_zero]
  have hdata : (s.chars.take k ++ List.replicate (k - s.chars.length) 0).length = k := by
    rw [List.length_append, List.length_take, List.length_replicate]
    omega
  unfold text strncpy
  rw [bytes_write b (by omega), List.append_assoc,
    cString_append_of_notMem fun h => s.nul_free (List.mem_of_mem_take h)]
  by_cases hlong : k ≤ s.chars.length
  · exact List.take_left' (by rw [List.length_take]; omega)
  · obtain ⟨j, hj⟩ : ∃ j, k - s.chars.length = j + 1 := ⟨k - s.chars.length - 1, by omega⟩
    rw [hj, List.replicate_succ, List.cons_append]
    change (s.chars.take k ++ []).take k = s.chars.take k
    rw [List.append_nil, List.take_take, Nat.min_self]

/-- A string that fits with its terminator is copied whole. -/
lemma strncpy_of_lt (b : CharBuffer n) (s : CString) (hlen : s.chars.length < n) :
    (b.strncpy s n).text = s.chars ∧ (b.strncpy s n).Terminated := by
  obtain ⟨j, hj⟩ : ∃ j, n - s.chars.length = j + 1 := ⟨n - s.chars.length - 1, by omega⟩
  unfold strncpy
  rw [hj, List.replicate_succ, List.take_of_length_le (by omega)]
  have hstore := write_append_zero b s.chars (List.replicate j 0) (by
    rw [List.length_append, List.length_cons, List.length_replicate]
    omega)
  rwa [cString_eq_self s.nul_free] at hstore

lemma getcwd_of_lt (b : CharBuffer n) {path : CString} (hlen : path.chars.length < n) :
    ∃ b', b.getcwd (some path) = some b' ∧ b'.text = path.chars ∧ b'.Terminated := by
  have hstore := write_append_zero b path.chars [] (by
    rw [List.length_append, List.length_singleton]
    exact hlen)
  rw [cString_eq_self path.nul_free] at hstore
  exact ⟨_, if_pos hlen, hstore⟩

/-! ## A string behind another one -/

/-- The string in the array, as a value. -/
def string (b : CharBuffer n) : CString := ⟨b.text, zero_notMem_cString b.bytes⟩

/-- `strncat(b, s, k)`: at most `k` bytes of `s` behind the string, and a NUL behind them. -/
def strncat (b : CharBuffer n) (s : CString) (k : ℕ) : CharBuffer n :=
  b.write (b.text ++ s.chars.take k ++ [0])

/-- What fits behind the string is added whole. -/
lemma text_strncat (b : CharBuffer n) (s : CString) {k : ℕ} (hk : s.chars.length ≤ k)
    (hfits : b.text.length + s.chars.length < n) :
    (b.strncat s k).text = b.text ++ s.chars ∧ (b.strncat s k).Terminated := by
  unfold strncat
  rw [List.take_of_length_le hk]
  have hstore := write_append_zero b (b.text ++ s.chars) [] (by
    rw [List.length_append, List.length_append, List.length_singleton]
    omega)
  have hnul : 0 ∉ b.text ++ s.chars := fun h =>
    (List.mem_append.mp h).elim (zero_notMem_cString b.bytes) s.nul_free
  rwa [cString_eq_self hnul] at hstore

/-! ## The first occurrence -/

/-- `strstr`: the position of the first `needle`. -/
def strstr (needle : List UInt8) : List UInt8 → Option ℕ
  | [] => if needle = [] then some 0 else none
  | x :: xs => if needle <+: x :: xs then some 0 else (strstr needle xs).map (· + 1)

/-- A found string stands there. -/
lemma exists_of_strstr {needle s : List UInt8} {i : ℕ} (h : strstr needle s = some i) :
    ∃ v, s = s.take i ++ needle ++ v := by
  induction s generalizing i with
  | nil =>
    obtain ⟨rfl, -⟩ := Option.ite_none_right_eq_some.mp h
    exact ⟨[], by simp⟩
  | cons x xs ih =>
    rw [strstr] at h
    split at h
    · rename_i hhere
      obtain ⟨v, hv⟩ := hhere
      rw [← Option.some.inj h]
      exact ⟨v, hv.symm⟩
    · obtain ⟨j, hj, rfl⟩ := Option.map_eq_some_iff.mp h
      obtain ⟨v, hv⟩ := ih hj
      exact ⟨v, by rw [List.take_succ_cons, List.cons_append, List.cons_append, ← hv]⟩

/-! ## The last occurrence -/

/-- `strrchr`: the position of the last `c`. -/
def strrchr (c : UInt8) : List UInt8 → Option ℕ
  | [] => none
  | x :: xs =>
    match strrchr c xs with
    | some i => some (i + 1)
    | none => if x = c then some 0 else none

lemma strrchr_eq_none {c : UInt8} {s : List UInt8} (h : c ∉ s) : strrchr c s = none := by
  induction s with
  | nil => rfl
  | cons x xs ih =>
    obtain ⟨hx, hxs⟩ := not_or.mp (mt List.mem_cons.mpr h)
    rw [strrchr, ih hxs]
    exact if_neg (Ne.symm hx)

/-- A `c` with no further one behind it is found. -/
lemma strrchr_append_cons {c : UInt8} (u : List UInt8) {v : List UInt8} (hv : c ∉ v) :
    strrchr c (u ++ c :: v) = some u.length := by
  induction u with
  | nil =>
    rw [List.nil_append, strrchr, strrchr_eq_none hv]
    exact if_pos rfl
  | cons x u ih => rw [List.cons_append, strrchr, ih, List.length_cons]

/-- A string with a `c` in it has a last one. -/
lemma exists_last_of_mem {c : UInt8} {s : List UInt8} (h : c ∈ s) :
    ∃ u v, s = u ++ c :: v ∧ c ∉ v := by
  induction s with
  | nil => exact absurd h List.not_mem_nil
  | cons x xs ih =>
    by_cases hxs : c ∈ xs
    · obtain ⟨u, v, rfl, hv⟩ := ih hxs
      exact ⟨x :: u, v, rfl, hv⟩
    · rcases List.mem_cons.mp h with rfl | hmem
      · exact ⟨[], xs, rfl, hxs⟩
      · exact absurd hmem hxs

end CharBuffer
