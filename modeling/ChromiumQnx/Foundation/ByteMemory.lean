import Mathlib.Algebra.Group.Nat.Defs
import Mathlib.Logic.Function.Basic
import Mathlib.Tactic.Common

/-!
# A memory of bytes that faults

A `ByteMemory` gives the byte at each mapped address and remembers at which addresses it was read
and written.  `load` and `store` fault at an address that is not mapped, so that a program that runs
on it without a fault makes no access but the recorded ones.

`overlay` is the content of a memory after an array was written over it; storing the elements of an
array one after the other makes the overlay grow by one element each (`store_overlay`).
-/

/-- The byte at each mapped address, and the addresses that were read and written. -/
structure ByteMemory where
  byte : ℕ → Option UInt8
  reads : List ℕ
  writes : List ℕ

namespace ByteMemory

/-- A content that was not accessed yet. -/
def start (byte : ℕ → Option UInt8) : ByteMemory where
  byte := byte
  reads := []
  writes := []

/-- A byte is read. -/
def load (m : ByteMemory) (a : ℕ) : Option (UInt8 × ByteMemory) :=
  (m.byte a).map fun b => (b, { m with reads := m.reads ++ [a] })

/-- A byte is written. -/
def store (m : ByteMemory) (a : ℕ) (b : UInt8) : Option ByteMemory :=
  if (m.byte a).isSome then
    some { m with byte := Function.update m.byte a (some b), writes := m.writes ++ [a] }
  else none

/-- The array stands in memory. -/
def HoldsAt (byte : ℕ → Option UInt8) (a : ℕ) (data : List UInt8) : Prop :=
  ∀ i, ∀ h : i < data.length, byte (a + i) = some data[i]

instance (byte : ℕ → Option UInt8) (a : ℕ) (data : List UInt8) :
    Decidable (HoldsAt byte a data) :=
  inferInstanceAs (Decidable (∀ i, ∀ h : i < data.length, byte (a + i) = some data[i]))

/-- The content after an array was written over it. -/
def overlay (byte : ℕ → Option UInt8) (a : ℕ) (data : List UInt8) : ℕ → Option UInt8 := fun x =>
  if a ≤ x ∧ x < a + data.length then data[x - a]? else byte x

variable {byte : ℕ → Option UInt8} {a x : ℕ} {data : List UInt8}

/-! ## Overlays -/

lemma overlay_nil (byte : ℕ → Option UInt8) (a : ℕ) : overlay byte a [] = byte := by
  funext x
  refine if_neg fun h => ?_
  exact absurd (Nat.lt_of_le_of_lt h.1 h.2) (Nat.lt_irrefl a)

/-- Outside of the array nothing changes. -/
lemma overlay_outside (h : x < a ∨ a + data.length ≤ x) : overlay byte a data x = byte x :=
  if_neg (by omega)

/-- The array stands where it was written. -/
lemma holdsAt_overlay (byte : ℕ → Option UInt8) (a : ℕ) (data : List UInt8) :
    HoldsAt (overlay byte a data) a data := by
  intro i hi
  unfold overlay
  rw [if_pos ⟨Nat.le_add_right a i, Nat.add_lt_add_left hi a⟩, Nat.add_sub_cancel_left]
  exact List.getElem?_eq_getElem hi

/-- Mapped addresses stay mapped. -/
lemma isSome_overlay (h : (byte x).isSome) : (overlay byte a data x).isSome := by
  unfold overlay
  split
  · rw [List.getElem?_eq_getElem (by omega)]
    rfl
  · exact h

/-- One more element behind the array. -/
lemma update_overlay (byte : ℕ → Option UInt8) (a : ℕ) (data : List UInt8) (b : UInt8) :
    Function.update (overlay byte a data) (a + data.length) (some b) =
      overlay byte a (data ++ [b]) := by
  funext x
  unfold Function.update overlay
  rw [List.length_append, List.length_singleton]
  by_cases hlast : x = a + data.length
  · subst hlast
    rw [dif_pos rfl, if_pos (by omega), Nat.add_sub_cancel_left, List.getElem?_concat_length]
  · rw [dif_neg hlast]
    by_cases hin : a ≤ x ∧ x < a + data.length
    · rw [if_pos hin, if_pos (by omega), List.getElem?_append_left (by omega)]
    · rw [if_neg hin, if_neg (by omega)]

/-! ## Accesses -/

/-- A byte that is there is read. -/
lemma load_of_eq_some {m : ByteMemory} {b : UInt8} (h : m.byte a = some b) :
    m.load a = some (b, { m with reads := m.reads ++ [a] }) := by
  rw [load, h, Option.map_some]

/-- **Storing an array element by element.**  The next element is stored behind those that were
stored before, if its address was mapped at the beginning. -/
lemma store_overlay {m : ByteMemory} (hbyte : m.byte = overlay byte a data)
    (hmapped : (byte (a + data.length)).isSome) (b : UInt8) :
    m.store (a + data.length) b =
      some
        { byte := overlay byte a (data ++ [b])
          reads := m.reads
          writes := m.writes ++ [a + data.length] } := by
  unfold store
  rw [hbyte, if_pos (isSome_overlay hmapped), update_overlay]

end ByteMemory
