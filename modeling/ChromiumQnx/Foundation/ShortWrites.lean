import Mathlib.Data.List.Basic
import Mathlib.Tactic.Common

/-!
# Writes that may be cut

Pieces of text are written one after the other, and each write may store a part of its piece only.
`writeAll` is what is stored.  It has the length of the whole text if and only if every piece was
stored whole (`length_writeAll_eq_iff`).
-/

namespace ShortWrites

variable {α : Type*}

/-- What several writes store, when each of them stores at most as many elements as `stored` says
for its number. -/
def writeAll (stored : ℕ → ℕ) (pieces : List (List α)) : List α :=
  (pieces.mapIdx fun i piece => piece.take (stored i)).flatten

/-- Every write stores its piece whole. -/
def StoresAll (stored : ℕ → ℕ) (pieces : List (List α)) : Prop :=
  ∀ i piece, pieces[i]? = some piece → piece.length ≤ stored i

lemma writeAll_cons (stored : ℕ → ℕ) (piece : List α) (pieces : List (List α)) :
    writeAll stored (piece :: pieces) =
      piece.take (stored 0) ++ writeAll (fun i => stored (i + 1)) pieces := by
  rw [writeAll, List.mapIdx_cons, List.flatten_cons]
  rfl

lemma storesAll_cons {stored : ℕ → ℕ} {piece : List α} {pieces : List (List α)} :
    StoresAll stored (piece :: pieces) ↔
      piece.length ≤ stored 0 ∧ StoresAll (fun i => stored (i + 1)) pieces := by
  constructor
  · intro h
    exact ⟨h 0 piece rfl, fun i p hp => h (i + 1) p (List.getElem?_cons_succ.trans hp)⟩
  · rintro ⟨hfirst, hrest⟩ i p hp
    cases i with
    | zero =>
      obtain rfl : piece = p := Option.some.inj hp
      exact hfirst
    | succ i => exact hrest i p (List.getElem?_cons_succ.symm.trans hp)

/-- What is stored is no longer than the pieces. -/
lemma length_writeAll_le (stored : ℕ → ℕ) (pieces : List (List α)) :
    (writeAll stored pieces).length ≤ pieces.flatten.length := by
  induction pieces generalizing stored with
  | nil => exact Nat.le_refl 0
  | cons piece pieces ih =>
    rw [writeAll_cons, List.flatten_cons, List.length_append, List.length_append]
    exact Nat.add_le_add (List.length_take_le' _ _) (ih _)

/-- It is as long only if every piece is stored whole. -/
lemma length_writeAll_eq_iff {stored : ℕ → ℕ} {pieces : List (List α)} :
    (writeAll stored pieces).length = pieces.flatten.length ↔ StoresAll stored pieces := by
  induction pieces generalizing stored with
  | nil => exact ⟨fun _ i p hp => absurd hp (by simp), fun _ => rfl⟩
  | cons piece pieces ih =>
    have hrest := length_writeAll_le (fun i => stored (i + 1)) pieces
    rw [storesAll_cons, ← ih, writeAll_cons, List.flatten_cons, List.length_append,
      List.length_append, List.length_take]
    omega

/-- When every piece is stored whole, the whole text is. -/
lemma writeAll_eq_flatten {stored : ℕ → ℕ} {pieces : List (List α)}
    (h : StoresAll stored pieces) : writeAll stored pieces = pieces.flatten := by
  induction pieces generalizing stored with
  | nil => rfl
  | cons piece pieces ih =>
    obtain ⟨hfirst, hrest⟩ := storesAll_cons.mp h
    rw [writeAll_cons, List.flatten_cons, List.take_of_length_le hfirst, ih hrest]

end ShortWrites
