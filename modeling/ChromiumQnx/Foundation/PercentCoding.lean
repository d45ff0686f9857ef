import Mathlib.Data.List.Basic
import Mathlib.Tactic.Common

/-!
# Percent-encoded bytes

A percent sign and two hexadecimal digits are a triplet, which stands for a byte.  `percentDecode`
replaces the triplets of a text by their bytes, and `percentEncode` writes every byte as a triplet,
with upper-case digits.

A text is its own decoding exactly when no triplet occurs in it; otherwise the decoding is shorter.
-/

namespace PercentCoding

/-! ## Triplets -/

/-- The value of a hexadecimal digit. -/
def hexValue (c : UInt8) : Option ℕ :=
  if 48 ≤ c ∧ c ≤ 57 then some (c.toNat - 48)
  else if 65 ≤ c ∧ c ≤ 70 then some (c.toNat - 55)
  else if 97 ≤ c ∧ c ≤ 102 then some (c.toNat - 87)
  else none

/-- The byte that three characters stand for, if they are a triplet. -/
def tripletValue (p a b : UInt8) : Option UInt8 :=
  if p = 37 then
    match hexValue a, hexValue b with
    | some x, some y => some (16 * x + y).toUInt8
    | _, _ => none
  else none

/-- A triplet occurs in the text. -/
def hasTriplet : List UInt8 → Bool
  | p :: a :: b :: rest => (tripletValue p a b).isSome || hasTriplet (a :: b :: rest)
  | _ => false

/-- An upper-case hexadecimal digit. -/
def hexDigit (n : ℕ) : UInt8 := if n < 10 then (48 + n).toUInt8 else (55 + n).toUInt8

/-- The triplet of a byte. -/
def triplet (b : UInt8) : List UInt8 := [37, hexDigit (b.toNat / 16), hexDigit (b.toNat % 16)]

/-! ## Decoding -/

/-- The text with its triplets, from left to right, replaced by their bytes. -/
def percentDecode : List UInt8 → List UInt8
  | p :: a :: b :: rest =>
    match tripletValue p a b with
    | some v => v :: percentDecode rest
    | none => p :: percentDecode (a :: b :: rest)
  | text => text

/-- Every byte as a triplet. -/
def percentEncode (bytes : List UInt8) : List UInt8 := bytes.flatMap triplet

/-- Decoding does not lengthen a text, and shortens one in which a triplet occurs. -/
lemma length_percentDecode (text : List UInt8) :
    (percentDecode text).length ≤ text.length ∧
      (hasTriplet text = true → (percentDecode text).length < text.length) := by
  fun_induction percentDecode text with
  | case1 p a b rest v hv ih =>
    simp only [List.length_cons]
    exact ⟨by omega, fun _ => by omega⟩
  | case2 p a b rest hv ih =>
    simp only [List.length_cons] at ih ⊢
    refine ⟨by omega, fun h => ?_⟩
    rw [hasTriplet, hv, Option.isSome_none, Bool.false_or] at h
    have hlt := ih.2 h
    omega
  | case3 text hshort =>
    refine ⟨Nat.le_refl _, fun h => ?_⟩
    unfold hasTriplet at h
    split at h
    · exact absurd rfl (hshort _ _ _ _)
    · cases h

/-- A text without triplets is its own decoding. -/
lemma percentDecode_of_not_hasTriplet {text : List UInt8} (h : hasTriplet text = false) :
    percentDecode text = text := by
  fun_induction percentDecode text with
  | case1 p a b rest v hv ih =>
    rw [hasTriplet, hv] at h
    cases h
  | case2 p a b rest hv ih =>
    rw [hasTriplet, hv, Option.isSome_none, Bool.false_or] at h
    rw [ih h]
  | case3 text hshort => rfl

/-- Decoding keeps the length exactly of the texts without triplets. -/
theorem length_percentDecode_eq_iff {text : List UInt8} :
    (percentDecode text).length = text.length ↔ hasTriplet text = false := by
  constructor
  · intro h
    by_contra htriplet
    have hlt := (length_percentDecode text).2 (Bool.not_eq_false _ ▸ htriplet)
    omega
  · intro h
    rw [percentDecode_of_not_hasTriplet h]

/-! ## Encoding -/

/-- A fact about all bytes, from their numbers. -/
lemma forall_byte {P : UInt8 → Prop} (h : ∀ n < 256, P n.toUInt8) (b : UInt8) : P b := by
  have hb := h b.toNat (UInt8.toNat_lt b)
  rwa [show b.toNat.toUInt8 = b from UInt8.ofNat_toNat] at hb

/-- The triplet of a byte stands for it. -/
lemma tripletValue_triplet (b : UInt8) :
    tripletValue 37 (hexDigit (b.toNat / 16)) (hexDigit (b.toNat % 16)) = some b := by
  revert b
  exact forall_byte (by decide +kernel)

/-- Only triplets, one after the other. -/
def OnlyTriplets : List UInt8 → Prop
  | [] => True
  | p :: a :: b :: rest => (tripletValue p a b).isSome ∧ OnlyTriplets rest
  | _ => False

lemma percentEncode_cons (b : UInt8) (bytes : List UInt8) :
    percentEncode (b :: bytes) =
      37 :: hexDigit (b.toNat / 16) :: hexDigit (b.toNat % 16) :: percentEncode bytes :=
  rfl

lemma length_percentEncode (bytes : List UInt8) :
    (percentEncode bytes).length = 3 * bytes.length := by
  induction bytes with
  | nil => rfl
  | cons b bytes ih =>
    rw [percentEncode_cons]
    simp only [List.length_cons, ih]
    omega

/-- What is encoded consists of triplets. -/
theorem onlyTriplets_percentEncode (bytes : List UInt8) : OnlyTriplets (percentEncode bytes) := by
  induction bytes with
  | nil => trivial
  | cons b bytes ih =>
    rw [percentEncode_cons, OnlyTriplets, tripletValue_triplet]
    exact ⟨rfl, ih⟩

/-- Neither a quote nor a backslash nor a line break stands in a triplet. -/
lemma mem_triplet_plain (b : UInt8) : ∀ c ∈ triplet b, c ≠ 34 ∧ c ≠ 92 ∧ c ≠ 10 ∧ c ≠ 13 := by
  have hall : ∀ b, (triplet b).all (fun c => c ≠ 34 ∧ c ≠ 92 ∧ c ≠ 10 ∧ c ≠ 13) = true :=
    forall_byte (by decide +kernel)
  intro c hc
  exact of_decide_eq_true (List.all_eq_true.mp (hall b) c hc)

end PercentCoding
