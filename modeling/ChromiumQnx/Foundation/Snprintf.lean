import ChromiumQnx.Foundation.StringSearch
import Mathlib.Data.Nat.Digits.Lemmas
import Mathlib.Data.Set.Function
import Mathlib.Order.Interval.Set.Defs
import Mathlib.Tactic.Common

/-!
# Formatted text in a bounded buffer

`snprintf` formats a text into a buffer of a given size.  It stores what fits, keeping one byte for
the terminator, and returns the length of the whole text, or a negative number when that length is
not an `int`.  `snprintf_fits_iff` tells when the returned number, taken for a count of bytes, does
not exceed the text that was stored.

Names that are numbered and cut to a size are different exactly as long as none of them is cut
(`injOn_take_numbered_iff`).

The pieces of a format are literal text, strings (`%s`) and integers (`%d`); sizes are those of a
machine with 32-bit `int` and `size_t`.
-/

namespace Snprintf

open StringSearch

/-- A piece of a format with its argument. -/
inductive Piece
  | literal (text : String)
  | str (s : List UInt8)
  | int (i : Int32)

/-- The bytes of an ASCII text. -/
def asciiBytes (text : String) : List UInt8 := text.toList.map fun c => c.toNat.toUInt8

/-- A string argument ends at its first null byte. -/
def cString (s : List UInt8) : List UInt8 := s.takeWhile (· ≠ 0)

/-- A number in decimal. -/
def natText (n : ℕ) : List UInt8 :=
  if n = 0 then asciiBytes "0" else ((Nat.digits 10 n).map fun d => (48 + d).toUInt8).reverse

/-- An integer in decimal. -/
def intText (i : Int32) : List UInt8 :=
  if i.toInt < 0 then asciiBytes "-" ++ natText i.toInt.natAbs else natText i.toInt.natAbs

/-- The text of a piece. -/
def Piece.text : Piece → List UInt8
  | .literal text => asciiBytes text
  | .str s => cString s
  | .int i => intText i

/-- The whole formatted text. -/
def format (pieces : List Piece) : List UInt8 := (pieces.map Piece.text).flatten

/-- The largest `int`. -/
def intMax : ℕ := 2 ^ 31 - 1

/-- `snprintf`: what it returns, and the text it stores before the terminator. -/
def snprintf (size : ℕ) (pieces : List Piece) : ℤ × List UInt8 :=
  let text := format pieces
  (if text.length ≤ intMax then text.length else -1, text.take (size - 1))

/-- An `int` passed for a `size_t`. -/
def toSizeT (n : ℤ) : ℕ := (n % 2 ^ 32).toNat

/-! ## Strings in memory -/

/-- A string without null bytes is handed over whole. -/
lemma cString_eq_self {s : List UInt8} (h : 0 ∉ s) : cString s = s := takeWhile_ne_eq_self h

/-- A string ends at a terminator behind it. -/
lemma cString_append_zero (s r : List UInt8) : cString (s ++ 0 :: r) = cString s :=
  takeWhile_ne_append_cons 0 s r

lemma zero_notMem_cString (s : List UInt8) : 0 ∉ cString s := notMem_takeWhile_ne 0 s

lemma cString_append_of_notMem {s : List UInt8} (h : 0 ∉ s) (r : List UInt8) :
    cString (s ++ r) = s ++ cString r :=
  List.takeWhile_append_of_pos fun _ hb => decide_eq_true fun hzero => h (hzero ▸ hb)

/-- The string of a longer text begins with that of a shorter one. -/
lemma cString_isPrefix {s t : List UInt8} (h : s <+: t) : cString s <+: cString t := by
  obtain ⟨r, rfl⟩ := h
  unfold cString
  rw [List.takeWhile_append]
  split
  · rename_i hlen
    rw [(List.takeWhile_prefix _).eq_of_length hlen]
    exact List.prefix_append s _
  · exact List.prefix_rfl

/-! ## Lengths -/

@[simp] lemma length_format_nil : (format []).length = 0 := rfl

@[simp] lemma length_format_cons (p : Piece) (ps : List Piece) :
    (format (p :: ps)).length = p.text.length + (format ps).length := by
  rw [format, List.map_cons, List.flatten_cons, List.length_append]
  rfl

@[simp] lemma length_text_literal (text : String) :
    (Piece.literal text).text.length = text.length := by
  rw [Piece.text, asciiBytes, List.length_map, String.length_toList]

@[simp] lemma length_text_str (s : List UInt8) : (Piece.str s).text.length = (cString s).length :=
  rfl

@[simp] lemma length_text_int (i : Int32) : (Piece.int i).text.length = (intText i).length := rfl

lemma length_natText_le {n k : ℕ} (hk : 0 < k) (hn : n < 10 ^ k) : (natText n).length ≤ k := by
  unfold natText
  split
  · exact hk
  · rw [List.length_reverse, List.length_map]
    exact (Nat.digits_length_le_iff (by norm_num) n).mpr hn

/-- An `int` takes at most a sign and ten digits. -/
lemma length_intText_le (i : Int32) : (intText i).length ≤ 11 := by
  have hlt := Int32.toInt_lt i
  have hle := Int32.le_toInt i
  have hdigits : (natText i.toInt.natAbs).length ≤ 10 :=
    length_natText_le (by norm_num) (by norm_num; omega)
  unfold intText
  split
  · rw [List.length_append]
    have hsign : (asciiBytes "-").length = 1 := rfl
    omega
  · omega

/-- The most a piece can take. -/
def Piece.maxLength : Piece → ℕ
  | .literal text => text.length
  | .str s => (cString s).length
  | .int _ => 11

/-- A formatted text is no longer than its pieces can be. -/
lemma length_format_le (pieces : List Piece) :
    (format pieces).length ≤ (pieces.map Piece.maxLength).sum := by
  induction pieces with
  | nil => exact Nat.le_refl 0
  | cons p ps ih =>
    rw [length_format_cons, List.map_cons, List.sum_cons]
    refine Nat.add_le_add ?_ ih
    cases p with
    | literal text => exact Nat.le_of_eq (length_text_literal text)
    | str s => exact Nat.le_refl _
    | int i => exact length_intText_le i

/-! ## Numbers -/

/-- The number that a text of decimal digits stands for. -/
def natOfText (s : List UInt8) : ℕ := Nat.ofDigits 10 (s.reverse.map fun b => b.toNat - 48)

lemma natOfText_natText (n : ℕ) : natOfText (natText n) = n := by
  unfold natText natOfText
  split
  · rename_i hzero
    rw [hzero]
    rfl
  · rw [List.reverse_reverse, List.map_map]
    have hdigits : (Nat.digits 10 n).map ((fun b : UInt8 => b.toNat - 48) ∘ fun d =>
        (48 + d).toUInt8) = Nat.digits 10 n := by
      refine (List.map_congr_left fun d hd => ?_).trans (List.map_id _)
      have hlt : d < 10 := Nat.digits_lt_base (by norm_num) hd
      change ((48 + d).toUInt8).toNat - 48 = d
      rw [Nat.toUInt8_eq, UInt8.toNat_ofNat', Nat.mod_eq_of_lt (by omega)]
      omega
    rw [hdigits, Nat.ofDigits_digits]

/-- The bytes of a number are digits. -/
lemma mem_natText {n : ℕ} {b : UInt8} (h : b ∈ natText n) : 48 ≤ b.toNat ∧ b.toNat ≤ 57 := by
  unfold natText at h
  split at h
  · obtain rfl : b = 48 := List.mem_singleton.mp h
    exact ⟨by decide, by decide⟩
  · rw [List.mem_reverse] at h
    obtain ⟨d, hd, rfl⟩ := List.mem_map.mp h
    have hlt : d < 10 := Nat.digits_lt_base (by norm_num) hd
    rw [Nat.toUInt8_eq, UInt8.toNat_ofNat', Nat.mod_eq_of_lt (by omega)]
    omega

lemma natText_injective {m n : ℕ} (h : natText m = natText n) : m = n := by
  rw [← natOfText_natText m, h, natOfText_natText]

/-- The bytes of an integer are digits and a sign. -/
lemma mem_intText {i : Int32} {b : UInt8} (h : b ∈ intText i) : b.toNat ≤ 57 := by
  unfold intText at h
  split at h
  · rcases List.mem_append.mp h with hsign | hdigit
    · obtain rfl : b = 45 := List.mem_singleton.mp hsign
      decide
    · exact (mem_natText hdigit).2
  · exact (mem_natText h).2

/-- Different integers have different texts. -/
lemma intText_injective {i j : Int32} (h : intText i = intText j) : i = j := by
  have hminus : ∀ {n m : ℕ}, asciiBytes "-" ++ natText n ≠ natText m := by
    intro n m heq
    have hmem : (45 : UInt8) ∈ natText m := heq ▸ List.mem_append_left _ (List.mem_singleton_self _)
    exact absurd (mem_natText hmem).1 (by decide)
  unfold intText at h
  refine Int32.toInt_inj.mp ?_
  split at h <;> split at h
  · have habs := natText_injective (List.append_cancel_left h)
    omega
  · exact absurd h hminus
  · exact absurd h.symm hminus
  · have habs := natText_injective h
    omega

/-! ## Numbers with leading zeros -/

/-- A number in decimal with zeros in front up to a width, as `%03d` gives it for three. -/
def paddedText (k n : ℕ) : List UInt8 := List.replicate (k - (natText n).length) 48 ++ natText n

lemma length_natText_pos (n : ℕ) : 0 < (natText n).length := by
  unfold natText
  split
  · exact Nat.one_pos
  · rename_i hzero
    rw [List.length_reverse, List.length_map, List.length_pos_iff]
    exact Nat.digits_ne_nil_iff_ne_zero.mpr hzero

/-- The last digit of a number with several digits stands behind the others. -/
lemma natText_of_ten_le {n : ℕ} (h : 10 ≤ n) :
    natText n = natText (n / 10) ++ [(48 + n % 10).toUInt8] := by
  unfold natText
  rw [if_neg (by omega), if_neg (by omega), Nat.digits_def' (by norm_num) (by omega),
    List.map_cons, List.reverse_cons]

/-- A larger number is no shorter. -/
lemma length_natText_mono {m n : ℕ} (h : m ≤ n) : (natText m).length ≤ (natText n).length := by
  by_cases hzero : m = 0
  · rw [hzero]
    exact length_natText_pos n
  · unfold natText
    rw [if_neg hzero, if_neg (by omega), List.length_reverse, List.length_map, List.length_reverse,
      List.length_map]
    exact Nat.le_length_digits_le 10 m n h

lemma length_paddedText (k n : ℕ) : (paddedText k n).length = max k (natText n).length := by
  rw [paddedText, List.length_append, List.length_replicate]
  omega

/-- A number that fills the width has no zeros in front. -/
lemma paddedText_of_le {k n : ℕ} (h : k ≤ (natText n).length) : paddedText k n = natText n := by
  rw [paddedText, Nat.sub_eq_zero_of_le h, List.replicate_zero, List.nil_append]

lemma natOfText_paddedText (k n : ℕ) : natOfText (paddedText k n) = n := by
  have hzeros : ∀ j, (List.replicate j (48 : UInt8)).map (fun b => b.toNat - 48) =
      List.replicate j 0 := fun j => List.map_replicate
  unfold paddedText natOfText
  rw [List.reverse_append, List.map_append, List.reverse_replicate, hzeros,
    Nat.ofDigits_append_replicate_zero]
  exact natOfText_natText n

lemma paddedText_injective {k m n : ℕ} (h : paddedText k m = paddedText k n) : m = n := by
  rw [← natOfText_paddedText k m, h, natOfText_paddedText]

lemma zero_notMem_paddedText (k n : ℕ) : 0 ∉ paddedText k n := by
  intro h
  rcases List.mem_append.mp h with hpad | hdigit
  · exact absurd (List.eq_of_mem_replicate hpad) (by decide)
  · exact absurd (mem_natText hdigit).1 (by decide)

/-- When the text of a number is cut, an earlier number has what is left. -/
lemma exists_take_numbered_eq {base : List UInt8} {k room n : ℕ} (hk : 0 < k) (hn : 0 < n)
    (hlong : room < base.length + (paddedText k n).length) :
    ∃ i < n, ∃ j ≤ n, i ≠ j ∧
      (base ++ paddedText k i).take room = (base ++ paddedText k j).take room := by
  -- what stands behind the cut does not matter
  have hcut : ∀ s c : List UInt8, room ≤ base.length + s.length →
      (base ++ (s ++ c)).take room = (base ++ s).take room := by
    intro s c hlen
    rw [← List.append_assoc]
    refine List.take_append_of_le_length ?_
    rwa [List.length_append]
  rw [length_paddedText] at hlong
  by_cases hshort : (natText n).length ≤ k
  · -- zero and one
    have hpad : ∀ d < 10, paddedText k d = List.replicate (k - 1) 48 ++ natText d := by
      intro d hd
      have hone : (natText d).length = 1 :=
        Nat.le_antisymm (length_natText_le Nat.one_pos hd) (length_natText_pos d)
      rw [paddedText, hone]
    refine ⟨0, hn, 1, hn, Nat.zero_ne_one, ?_⟩
    have hlen : room ≤ base.length + (List.replicate (k - 1) (48 : UInt8)).length := by
      rw [List.length_replicate]
      omega
    rw [hpad 0 (by norm_num), hpad 1 (by norm_num), hcut _ _ hlen, hcut _ _ hlen]
  · -- the number without its last digit
    have hten : 10 ≤ n := by
      by_contra hlt
      have hone := length_natText_le Nat.one_pos (Nat.lt_of_not_le hlt)
      omega
    have hsplit := natText_of_ten_le hten
    have hlen := congrArg List.length hsplit
    rw [List.length_append, List.length_singleton] at hlen
    refine ⟨n / 10, by omega, n, le_rfl, by omega, ?_⟩
    rw [paddedText_of_le (by omega), paddedText_of_le (by omega), hsplit]
    exact (hcut _ _ (by omega)).symm

/-- **Numbered names in a bounded buffer.**  Names made of a text and a number, of which only a part
may fit, are different for the numbers below `n` if and only if the last of them fits, or there is
at most one. -/
theorem injOn_take_numbered_iff {base : List UInt8} {k room n : ℕ} (hk : 0 < k) :
    Set.InjOn (fun i => (base ++ paddedText k i).take room) (Set.Iio n) ↔
      n ≤ 1 ∨ base.length + (paddedText k (n - 1)).length ≤ room := by
  constructor
  · intro hinj
    by_contra hnot
    obtain ⟨hmany, hlong⟩ := not_or.mp hnot
    obtain ⟨i, hi, j, hj, hne, heq⟩ :=
      exists_take_numbered_eq (n := n - 1) hk (by omega) (Nat.lt_of_not_le hlong)
    exact hne (hinj (Set.mem_Iio.mpr (by omega)) (Set.mem_Iio.mpr (by omega)) heq)
  · rintro (hone | hfits) i hi j hj heq
    · rw [Set.mem_Iio] at hi hj
      omega
    · have hwhole : ∀ m < n, (base ++ paddedText k m).take room = base ++ paddedText k m := by
        intro m hm
        refine List.take_of_length_le ?_
        have hmono := length_natText_mono (show m ≤ n - 1 by omega)
        rw [length_paddedText] at hfits
        rw [List.length_append, length_paddedText]
        omega
      dsimp only at heq
      rw [hwhole i hi, hwhole j hj] at heq
      exact paddedText_injective (List.append_cancel_left heq)

/-! ## The returned number -/

/-- A length that is an `int` is passed as it is. -/
lemma toSizeT_natCast {n : ℕ} (hn : n ≤ intMax) : toSizeT n = n := by
  have hmax : intMax = 2147483647 := rfl
  unfold toSizeT
  rw [Int.emod_eq_of_lt (by omega) (by omega)]
  exact Int.toNat_natCast n

/-- A text that fits is stored whole, and its length is returned. -/
lemma snprintf_of_lt {size : ℕ} {pieces : List Piece} (hsize : size ≤ intMax)
    (h : (format pieces).length < size) :
    snprintf size pieces = (((format pieces).length : ℤ), format pieces) := by
  unfold snprintf
  dsimp only
  rw [if_pos (by omega), List.take_of_length_le (by omega)]

/-- **What is returned against what is stored.**  The returned number, taken for a count of bytes,
is at most the length of the stored text if and only if the whole text fits into the buffer. -/
theorem snprintf_fits_iff {size : ℕ} {pieces : List Piece} (hpos : 0 < size)
    (hsize : size ≤ intMax) :
    toSizeT (snprintf size pieces).1 ≤ (snprintf size pieces).2.length ↔
      (format pieces).length < size := by
  constructor
  · intro h
    by_contra hlong
    unfold snprintf at h
    dsimp only at h
    rw [List.length_take] at h
    split at h
    · rename_i hint
      rw [toSizeT_natCast hint] at h
      omega
    · -- the error value is larger than any buffer
      have herror : toSizeT (-1) = 2 * intMax + 1 := rfl
      omega
  · intro h
    rw [snprintf_of_lt hsize h, toSizeT_natCast (by omega)]

end Snprintf
