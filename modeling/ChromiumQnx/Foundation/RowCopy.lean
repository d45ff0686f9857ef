import Mathlib.Data.Nat.Basic
import Mathlib.Tactic.Common

/-!
# Copying rows between two memories

A picture is copied row by row: `n` elements are copied, then the source pointer advances by the
source's row size and the destination pointer by the destination's.  `rows` runs the loop and keeps
the list of the copies it made; the lemmas say where these reach and what the destination holds
afterwards, provided that a row is no longer than the distance between two rows of the destination.

A memory is a function of the offset from the pointer handed to the loop, so that a copy beyond the
end of an object is a copy like any other and has to be excluded by the caller.
-/

namespace RowCopy

variable {α : Type*}

/-- One `memcpy`: `len` elements from the source offset to the destination offset. -/
structure Copy where
  src : ℕ
  dst : ℕ
  len : ℕ
  deriving DecidableEq, Repr

/-- The loop's two pointers, the destination memory, and the copies made so far. -/
structure LoopState (α : Type*) where
  src : ℕ
  dst : ℕ
  memory : ℕ → α
  copies : List Copy

/-- What a memory holds after a copy into it. -/
def memcpy (source : ℕ → α) (c : Copy) (memory : ℕ → α) : ℕ → α := fun a =>
  if c.dst ≤ a ∧ a < c.dst + c.len then source (c.src + (a - c.dst)) else memory a

/-- One round of the loop. -/
def row (source : ℕ → α) (rowBytes stride n : ℕ) (s : LoopState α) : LoopState α where
  src := s.src + rowBytes
  dst := s.dst + stride
  memory := memcpy source ⟨s.src, s.dst, n⟩ s.memory
  copies := s.copies ++ [⟨s.src, s.dst, n⟩]

/-- The loop over `h` rows. -/
def rows (source : ℕ → α) (rowBytes stride n : ℕ) (memory : ℕ → α) : ℕ → LoopState α
  | 0 => ⟨0, 0, memory, []⟩
  | h + 1 => row source rowBytes stride n (rows source rowBytes stride n memory h)

section Loop

variable {source memory : ℕ → α} {rowBytes stride n : ℕ}

/-- The two pointers advance together. -/
lemma pointers_rows (source memory : ℕ → α) (rowBytes stride n h : ℕ) :
    (rows source rowBytes stride n memory h).src = h * rowBytes ∧
      (rows source rowBytes stride n memory h).dst = h * stride := by
  induction h with
  | zero => simp [rows]
  | succ h ih =>
    obtain ⟨hsrc, hdst⟩ := ih
    constructor
    · rw [rows, row, hsrc, Nat.succ_mul]
    · rw [rows, row, hdst, Nat.succ_mul]

/-- The copies are those of the rows. -/
lemma copies_rows (h : ℕ) :
    (rows source rowBytes stride n memory h).copies =
      (List.range h).map fun y => ⟨y * rowBytes, y * stride, n⟩ := by
  induction h with
  | zero => rfl
  | succ h ih =>
    obtain ⟨hsrc, hdst⟩ := pointers_rows source memory rowBytes stride n h
    rw [rows, row, List.range_succ, List.map_append, List.map_singleton, ih, hsrc, hdst]

/-- A row that ends before the next one begins lies before the rows that follow it. -/
lemma add_lt_mul_of_lt {y h j : ℕ} (hn : n ≤ stride) (hy : y < h) (hj : j < n) :
    y * stride + j < h * stride := by
  have hnext : (y + 1) * stride ≤ h * stride := Nat.mul_le_mul_right stride hy
  rw [Nat.succ_mul] at hnext
  omega

/-- A copied row is in place after the loop. -/
theorem memory_rows (hn : n ≤ stride) {h y j : ℕ} (hy : y < h) (hj : j < n) :
    (rows source rowBytes stride n memory h).memory (y * stride + j) =
      source (y * rowBytes + j) := by
  induction h with
  | zero => exact absurd hy (Nat.not_lt_zero y)
  | succ h ih =>
    obtain ⟨hsrc, hdst⟩ := pointers_rows source memory rowBytes stride n h
    rw [rows, row, hsrc, hdst]
    unfold memcpy
    dsimp only
    rcases Nat.lt_succ_iff_lt_or_eq.mp hy with hlt | rfl
    · -- an earlier row is not touched by this one
      have hbefore := add_lt_mul_of_lt hn hlt hj
      rw [if_neg (by omega)]
      exact ih hlt
    · rw [if_pos (by omega), Nat.add_sub_cancel_left]

/-- **Writes.**  The copies stay below `m` rows of the destination exactly when there are at most
`m` of them, or they are empty. -/
theorem writes_rows_iff (hn : n ≤ stride) {h m : ℕ} :
    (∀ c ∈ (rows source rowBytes stride n memory h).copies, ∀ j < c.len,
        c.dst + j < m * stride) ↔ h ≤ m ∨ n = 0 := by
  rw [copies_rows]
  constructor
  · intro hinside
    by_contra hnot
    obtain ⟨hlong, hpos⟩ := not_or.mp hnot
    have hlt : m < h := Nat.lt_of_not_le hlong
    have hrow := hinside ⟨m * rowBytes, m * stride, n⟩
      (List.mem_map.mpr ⟨m, List.mem_range.mpr hlt, rfl⟩) 0 (Nat.pos_of_ne_zero hpos)
    exact Nat.lt_irrefl _ hrow
  · intro hfits c hc j hj
    obtain ⟨y, hy, rfl⟩ := List.mem_map.mp hc
    rcases hfits with hle | rfl
    · exact add_lt_mul_of_lt hn (Nat.lt_of_lt_of_le (List.mem_range.mp hy) hle) hj
    · exact absurd hj (Nat.not_lt_zero j)

/-- **Reads.**  The copies of `h` rows stay inside `h` rows of the source. -/
theorem reads_rows (hn : n ≤ rowBytes) {h : ℕ} :
    ∀ c ∈ (rows source rowBytes stride n memory h).copies, ∀ j < c.len,
      c.src + j < h * rowBytes := by
  rw [copies_rows]
  intro c hc j hj
  obtain ⟨y, hy, rfl⟩ := List.mem_map.mp hc
  exact add_lt_mul_of_lt hn (List.mem_range.mp hy) hj

end Loop

end RowCopy
