import Mathlib.Data.List.Basic
import Mathlib.Tactic.Common

/-!
# Bounded first-in first-out queues

`BoundedFifo α` is a queue of at most `capacity` elements, the abstract content of a pipe.  Elements
enter as blocks: `push? q xs` appends the whole of `xs` or, when there is no room for all of it,
nothing (`none`).  `pop q n` removes the at most `n` oldest elements.  The bound is a field of the
structure, so a queue that overflows cannot be built, and the capacity is positive, so a queue
that has no room for one more element is not empty.
-/

/-- A queue of at most `capacity` elements, oldest first. -/
structure BoundedFifo (α : Type*) where
  /-- The elements in the order in which they entered. -/
  items : List α
  /-- The number of elements there is room for. -/
  capacity : ℕ
  capacity_pos : 0 < capacity
  length_le : items.length ≤ capacity

namespace BoundedFifo

variable {α : Type*}

@[ext] lemma ext {p q : BoundedFifo α} (hi : p.items = q.items) (hc : p.capacity = q.capacity) :
    p = q := by
  cases p
  cases q
  cases hi
  cases hc
  rfl

/-- The empty queue of a positive capacity. -/
def empty (capacity : ℕ) (h : 0 < capacity) : BoundedFifo α := ⟨[], capacity, h, Nat.zero_le _⟩

/-- Append a block, if there is room for all of it. -/
def push? (q : BoundedFifo α) (xs : List α) : Option (BoundedFifo α) :=
  if h : q.items.length + xs.length ≤ q.capacity then
    some ⟨q.items ++ xs, q.capacity, q.capacity_pos, by rwa [List.length_append]⟩
  else none

/-- The at most `n` oldest elements and the queue without them. -/
def pop (q : BoundedFifo α) (n : ℕ) : List α × BoundedFifo α :=
  (q.items.take n, ⟨q.items.drop n, q.capacity, q.capacity_pos,
    Nat.le_trans (List.drop_sublist n q.items).length_le q.length_le⟩)

/-- A block enters exactly when it fits, and then stands behind the elements already there. -/
lemma push?_eq_some_iff {q q' : BoundedFifo α} {xs : List α} :
    q.push? xs = some q' ↔ q.items.length + xs.length ≤ q.capacity ∧
      q'.items = q.items ++ xs ∧ q'.capacity = q.capacity := by
  unfold push?
  split
  · rename_i h
    rw [Option.some.injEq]
    constructor
    · rintro rfl
      exact ⟨h, rfl, rfl⟩
    · rintro ⟨-, hi, hc⟩
      exact ext hi.symm hc.symm
  · rename_i h
    exact ⟨fun hnone => (by cases hnone), fun hfit => absurd hfit.1 h⟩

/-- A block that does not fit leaves the queue as it is. -/
lemma push?_eq_none_iff {q : BoundedFifo α} {xs : List α} :
    q.push? xs = none ↔ q.capacity < q.items.length + xs.length := by
  unfold push?
  split <;> simp <;> omega

@[simp] lemma pop_fst (q : BoundedFifo α) (n : ℕ) : (q.pop n).1 = q.items.take n := rfl

@[simp] lemma items_pop (q : BoundedFifo α) (n : ℕ) : (q.pop n).2.items = q.items.drop n := rfl

/-- A queue without room for one more element holds some element. -/
lemma items_ne_nil_of_push?_eq_none {q : BoundedFifo α} {a : α} (h : q.push? [a] = none) :
    q.items ≠ [] := by
  rw [push?_eq_none_iff] at h
  intro hnil
  have hcap := q.capacity_pos
  rw [hnil] at h
  simp only [List.length_nil, List.length_singleton] at h
  omega

/-- After an attempt to append one element the queue is not empty, whether or not it had room. -/
lemma items_getD_push?_ne_nil (q : BoundedFifo α) (a : α) : ((q.push? [a]).getD q).items ≠ [] := by
  cases h : q.push? [a] with
  | none => exact items_ne_nil_of_push?_eq_none h
  | some q' =>
    rw [Option.getD_some, (push?_eq_some_iff.mp h).2.1]
    simp

end BoundedFifo
