import Mathlib.Data.Option.Basic
import Mathlib.Data.List.GetD
import Mathlib.Order.Nat
import Mathlib.Tactic.Common

/-!
# Descriptor tables

A table from small numbers to open objects, as a process has it for its file descriptors: `get?`
looks a number up, `set` puts an object (or nothing) at a number, and a new object gets the lowest
number that is free (`lowestFree`, `openLowest`).

Two tables may differ in unused slots at the end; the lemmas speak about `get?`.
-/

/-- A table of open objects, indexed by descriptor number. -/
structure DescriptorTable (α : Type*) where
  slots : List (Option α)
  deriving DecidableEq, Repr

namespace DescriptorTable

variable {α : Type*}

/-- The table in which nothing is open. -/
def empty : DescriptorTable α := ⟨[]⟩

/-- The object at a number. -/
def get? (t : DescriptorTable α) (fd : ℕ) : Option α := t.slots.getD fd none

/-- Put an object at a number, or nothing. -/
def set (t : DescriptorTable α) (fd : ℕ) (a : Option α) : DescriptorTable α :=
  ⟨(t.slots ++ List.replicate (fd + 1 - t.slots.length) none).set fd a⟩

/-- The lowest number that is free. -/
def lowestFree (t : DescriptorTable α) : ℕ := t.slots.findIdx Option.isNone

/-- Put a new object at the lowest free number. -/
def openLowest (t : DescriptorTable α) (a : α) : DescriptorTable α := t.set t.lowestFree (some a)

/-- The table with the same numbers in use and other objects. -/
def map {β : Type*} (f : α → β) (t : DescriptorTable α) : DescriptorTable β :=
  ⟨t.slots.map (Option.map f)⟩

/-- The numbers in use, in ascending order. -/
def openFds (t : DescriptorTable α) : List ℕ :=
  (List.range t.slots.length).filter fun fd => (t.get? fd).isSome

lemma get?_map {β : Type*} (f : α → β) (t : DescriptorTable α) (fd : ℕ) :
    (t.map f).get? fd = (t.get? fd).map f := by
  unfold get? map
  rw [List.getD_eq_getElem?_getD, List.getD_eq_getElem?_getD, List.getElem?_map]
  cases t.slots[fd]? <;> rfl

/-- Putting an object at a number changes this number only. -/
lemma get?_set (t : DescriptorTable α) (fd : ℕ) (a : Option α) (fd' : ℕ) :
    (t.set fd a).get? fd' = if fd' = fd then a else t.get? fd' := by
  have hlen : fd < (t.slots ++ List.replicate (fd + 1 - t.slots.length) none).length := by
    rw [List.length_append, List.length_replicate]
    omega
  unfold get? set
  rw [List.getD_eq_getElem?_getD, List.getD_eq_getElem?_getD]
  split_ifs with hfd
  · rw [hfd, List.getElem?_set_self hlen]
    rfl
  · rw [List.getElem?_set_ne (Ne.symm hfd)]
    by_cases hold : fd' < t.slots.length
    · rw [List.getElem?_append_left hold]
    · rw [List.getElem?_append_right (not_lt.mp hold), List.getElem?_eq_none (not_lt.mp hold),
        List.getElem?_replicate]
      split_ifs <;> rfl

@[simp] lemma get?_set_self (t : DescriptorTable α) (fd : ℕ) (a : Option α) :
    (t.set fd a).get? fd = a := by
  rw [get?_set, if_pos rfl]

lemma get?_set_ne (t : DescriptorTable α) {fd fd' : ℕ} (a : Option α) (h : fd' ≠ fd) :
    (t.set fd a).get? fd' = t.get? fd' := by
  rw [get?_set, if_neg h]

/-- A number in use is below the number of slots. -/
lemma lt_length_of_get? {t : DescriptorTable α} {fd : ℕ} {a : α} (h : t.get? fd = some a) :
    fd < t.slots.length := by
  by_contra hge
  rw [get?, List.getD_eq_default _ _ (not_lt.mp hge)] at h
  cases h

/-- The lowest free number is free. -/
lemma get?_lowestFree (t : DescriptorTable α) : t.get? t.lowestFree = none := by
  unfold get? lowestFree
  by_cases h : t.slots.findIdx Option.isNone < t.slots.length
  · rw [List.getD_eq_getElem _ _ h]
    exact Option.isNone_iff_eq_none.mp (List.findIdx_getElem (w := h))
  · exact List.getD_eq_default _ _ (not_lt.mp h)

/-- No free number is below the lowest one. -/
lemma lowestFree_le {t : DescriptorTable α} {fd : ℕ} (h : t.get? fd = none) :
    t.lowestFree ≤ fd := by
  by_contra hlt
  have hused := List.not_of_lt_findIdx (not_le.mp hlt)
  have hlen : fd < t.slots.length := lt_of_lt_of_le (not_le.mp hlt) List.findIdx_le_length
  rw [get?, List.getD_eq_getElem _ _ hlen] at h
  rw [h] at hused
  exact Bool.noConfusion hused

/-- A number in use is not the lowest free one. -/
lemma ne_lowestFree {t : DescriptorTable α} {fd : ℕ} {a : α} (h : t.get? fd = some a) :
    fd ≠ t.lowestFree := by
  rintro rfl
  rw [get?_lowestFree] at h
  cases h

lemma nodup_openFds (t : DescriptorTable α) : t.openFds.Nodup :=
  List.nodup_range.filter _

@[simp] lemma mem_openFds {t : DescriptorTable α} {fd : ℕ} :
    fd ∈ t.openFds ↔ (t.get? fd).isSome := by
  unfold openFds
  rw [List.mem_filter, List.mem_range]
  refine ⟨fun h => h.2, fun h => ⟨?_, h⟩⟩
  obtain ⟨a, ha⟩ := Option.isSome_iff_exists.mp h
  exact lt_length_of_get? ha

end DescriptorTable
