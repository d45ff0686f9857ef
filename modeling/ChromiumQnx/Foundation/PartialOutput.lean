import Mathlib.Data.List.Basic
import Mathlib.Tactic.Common

/-!
# Output that may break off

Code that writes as it goes, and that may be stopped by a fault on the way, has an output and an
answer whether it ran to its end.  `PartialOutput.inOrder` runs several parts one after another
until the first fault.  `PartialOutput.search` looks at places until enough of them had something to
write.

`inOrder_completed_iff` and `written_inOrder` say when the parts run to their end together, and what
they have written then; `search_completed_iff` and `written_search` say it of a search.
-/

/-- What was written, and whether the end was reached. -/
@[ext]
structure PartialOutput (α : Type*) where
  written : List α
  completed : Bool
  deriving DecidableEq, Repr

namespace PartialOutput

variable {α : Type*}

/-- Code that writes and does not fault. -/
def write (l : List α) : PartialOutput α := ⟨l, true⟩

/-- A fault. -/
def fault : PartialOutput α := ⟨[], false⟩

/-- One part and then another, unless the first one faults. -/
def andThen (p q : PartialOutput α) : PartialOutput α :=
  if p.completed then ⟨p.written ++ q.written, q.completed⟩ else p

/-- Parts one after another. -/
def inOrder (ps : List (PartialOutput α)) : PartialOutput α := ps.foldr andThen (write [])

lemma andThen_completed (p q : PartialOutput α) :
    (p.andThen q).completed = (p.completed && q.completed) := by
  unfold andThen
  cases h : p.completed with
  | true => rw [if_pos rfl, Bool.true_and]
  | false => rw [if_neg Bool.false_ne_true, h, Bool.false_and]

lemma written_andThen {p : PartialOutput α} (h : p.completed) (q : PartialOutput α) :
    (p.andThen q).written = p.written ++ q.written := by
  rw [andThen, if_pos h]

/-- Parts run to their end together when each of them does. -/
theorem inOrder_completed_iff {ps : List (PartialOutput α)} :
    (inOrder ps).completed ↔ ∀ p ∈ ps, p.completed := by
  induction ps with
  | nil => exact iff_of_true rfl (List.forall_mem_nil _)
  | cons p ps ih =>
    rw [List.forall_mem_cons, ← ih, inOrder, List.foldr_cons, andThen_completed, Bool.and_eq_true]
    rfl

/-- What parts have written that ran to their end. -/
theorem written_inOrder {ps : List (PartialOutput α)} (h : ∀ p ∈ ps, p.completed) :
    (inOrder ps).written = ps.flatMap written := by
  induction ps with
  | nil => rfl
  | cons p ps ih =>
    rw [List.forall_mem_cons] at h
    rw [inOrder, List.foldr_cons, written_andThen h.1, List.flatMap_cons]
    exact congrArg (p.written ++ ·) (ih h.2)

/-! ## A bounded search -/

variable {ι β : Type*}

/-- Looks at places one after another, as long as fewer than `limit` lines are found, and writes the
line of every place that has one.  A place that cannot be read is a fault. -/
def search (read : ι → Option β) (line : ι → β → Option α) (limit : ℕ) :
    List ι → ℕ → PartialOutput α
  | [], _ => write []
  | i :: places, found =>
    if found < limit then
      match read i with
      | none => fault
      | some b =>
        match line i b with
        | none => search read line limit places found
        | some a => (write [a]).andThen (search read line limit places (found + 1))
    else write []

/-- The lines of some places, as far as they can be read. -/
def linesOf (read : ι → Option β) (line : ι → β → Option α) (places : List ι) : List α :=
  places.filterMap fun i => (read i).bind (line i)

section Search

variable {read : ι → Option β} {line : ι → β → Option α} {limit : ℕ}

/-- What a place adds to the lines. -/
lemma linesOf_cons (i : ι) (places : List ι) :
    linesOf read line (i :: places) =
      ((read i).bind (line i)).toList ++ linesOf read line places := by
  rw [linesOf, List.filterMap_cons]
  cases (read i).bind (line i) <;> rfl

/-- A place that can be read: its line is written if it has one, and the search goes on. -/
lemma search_cons {i : ι} {b : β} {places : List ι} {found : ℕ} (hlt : found < limit)
    (hread : read i = some b) :
    search read line limit (i :: places) found =
      (write (line i b).toList).andThen
        (search read line limit places (found + (line i b).toList.length)) := by
  rw [search, if_pos hlt, hread]
  dsimp only
  cases line i b <;> rfl

/-- A search runs to its end when it can read every place behind fewer lines than it may find. -/
theorem search_completed_iff {places : List ι} {found : ℕ} :
    (search read line limit places found).completed ↔
      ∀ (j : ℕ) (hj : j < places.length),
        found + (linesOf read line (places.take j)).length < limit → (read places[j]).isSome := by
  induction places generalizing found with
  | nil => exact iff_of_true rfl fun j hj => absurd hj (Nat.not_lt_zero j)
  | cons i places ih =>
    by_cases hlt : found < limit
    · cases hread : read i with
      | none =>
        have hfault : search read line limit (i :: places) found = fault := by
          rw [search, if_pos hlt, hread]
        refine iff_of_false (by rw [hfault]; exact Bool.false_ne_true) fun h => ?_
        have hfirst := h 0 (Nat.succ_pos _) hlt
        rw [List.getElem_cons_zero, hread] at hfirst
        exact Bool.false_ne_true hfirst
      | some b =>
        have hlines : ∀ l, (linesOf read line (i :: l)).length =
            (line i b).toList.length + (linesOf read line l).length := fun l => by
          rw [linesOf_cons, hread, Option.bind_some, List.length_append]
        rw [search_cons hlt hread, andThen_completed, write, Bool.true_and, ih]
        constructor
        · intro h j hj hfound
          cases j with
          | zero =>
            rw [List.getElem_cons_zero, hread]
            rfl
          | succ j =>
            rw [List.take_succ_cons, hlines, ← Nat.add_assoc] at hfound
            exact h j (Nat.lt_of_succ_lt_succ hj) hfound
        · intro h j hj hfound
          refine h (j + 1) (Nat.succ_lt_succ hj) ?_
          rwa [List.take_succ_cons, hlines, ← Nat.add_assoc]
    · rw [search, if_neg hlt]
      exact iff_of_true rfl fun j hj hfound => absurd hfound (by omega)

/-- A search that runs to its end writes the first lines there are, up to its limit. -/
theorem written_search {places : List ι} {found : ℕ}
    (h : (search read line limit places found).completed) :
    (search read line limit places found).written =
      (linesOf read line places).take (limit - found) := by
  induction places generalizing found with
  | nil => exact List.take_nil.symm
  | cons i places ih =>
    by_cases hlt : found < limit
    · cases hread : read i with
      | none =>
        rw [search, if_pos hlt, hread] at h
        exact absurd h Bool.false_ne_true
      | some b =>
        rw [search_cons hlt hread] at h ⊢
        rw [andThen_completed, write, Bool.true_and] at h
        have hroom : (line i b).toList.length ≤ limit - found := by
          have hone : (line i b).toList.length ≤ 1 := Option.length_toList_le
          omega
        rw [written_andThen rfl, ih h, write, linesOf_cons, hread, Option.bind_some,
          List.take_append, List.take_of_length_le hroom, Nat.sub_sub]
    · rw [search, if_neg hlt, Nat.sub_eq_zero_of_le (Nat.le_of_not_lt hlt), List.take_zero]
      rfl

end Search

end PartialOutput
