import Mathlib.Data.List.Basic
import Mathlib.Data.List.DropRight
import Mathlib.Data.List.TakeWhile
import Mathlib.Tactic.Common

/-!
# Searching a string by index

`indexLoop` is the loop over an index that returns the first position, from a start on, at which a
test succeeds, and another value when there is none.  `firstFrom` is the same search as a library
states it: the least position that is not before the start and passes the test.

`CString` is a character set given as a string in memory, which ends at its first NUL; `charLoop`
walks over such a memory.
-/

namespace StringSearch

/-! ## Searches -/

section

variable {α : Type*} (notFound : ℕ) (hit : α → Bool) (data : List α)

/-- `for (size_t i = start; i < len; i++)` with a return of the first `i` that passes the test, and
a return of `notFound` behind the loop. -/
def indexLoop (i : ℕ) : ℕ :=
  if h : i < data.length then
    if hit data[i] then i else indexLoop (i + 1)
  else notFound
termination_by data.length - i

/-- The least position from `pos` on whose element passes the test. -/
def firstFrom (pos : ℕ) : ℕ :=
  match (data.drop pos).findIdx? hit with
  | some i => pos + i
  | none => notFound

/-- **The loop is the search**, also from a start behind the end. -/
theorem indexLoop_eq_firstFrom (i : ℕ) :
    indexLoop notFound hit data i = firstFrom notFound hit data i := by
  fun_induction indexLoop notFound hit data i with
  | case1 i h hhit =>
    rw [firstFrom, List.drop_eq_getElem_cons h, List.findIdx?_cons, if_pos hhit]
    rfl
  | case2 i h hmiss ih =>
    rw [ih, firstFrom, firstFrom, List.drop_eq_getElem_cons h, List.findIdx?_cons, if_neg hmiss]
    cases (data.drop (i + 1)).findIdx? hit with
    | none => rfl
    | some j => exact (Nat.add_right_comm i j 1).symm
  | case3 i h =>
    rw [firstFrom, List.drop_eq_nil_of_le (Nat.le_of_not_lt h), List.findIdx?_nil]

/-- A search finds nothing, or a position inside the string that passes the test. -/
lemma firstFrom_cases (pos : ℕ) :
    (∀ notFound, firstFrom notFound hit data pos = notFound) ∨
      ∃ i, ∃ h : i < data.length, pos ≤ i ∧ hit data[i] = true ∧
        ∀ notFound, firstFrom notFound hit data pos = i := by
  unfold firstFrom
  cases hidx : (data.drop pos).findIdx? hit with
  | none => exact Or.inl fun _ => rfl
  | some i =>
    obtain ⟨hlt, hhit, -⟩ := List.findIdx?_eq_some_iff_getElem.mp hidx
    rw [List.length_drop] at hlt
    rw [List.getElem_drop] at hhit
    exact Or.inr ⟨pos + i, by omega, Nat.le_add_right pos i, hhit, fun _ => rfl⟩

end

/-! ## Up to a character -/

section

variable {α : Type*} [DecidableEq α] {c : α} {s : List α}

/-- What stands in front of the first `c` holds no `c`. -/
lemma notMem_takeWhile_ne (c : α) (s : List α) : c ∉ s.takeWhile (· ≠ c) := by
  intro h
  have hne := List.mem_takeWhile_imp h
  exact of_decide_eq_true hne rfl

/-- Without a `c` that is the whole string. -/
lemma takeWhile_ne_eq_self (hc : c ∉ s) : s.takeWhile (· ≠ c) = s := by
  apply List.takeWhile_eq_self_iff.mpr
  intro d hd
  exact decide_eq_true fun h => hc (h ▸ hd)

/-- Without a `c` nothing begins with one. -/
lemma dropWhile_ne_eq_nil (hc : c ∉ s) : s.dropWhile (· ≠ c) = [] := by
  apply List.dropWhile_eq_nil_iff.mpr
  intro d hd
  exact decide_eq_true fun h => hc (h ▸ hd)

/-- What begins with the first `c`. -/
lemma dropWhile_ne_append_cons (hc : c ∉ s) (r : List α) :
    (s ++ c :: r).dropWhile (· ≠ c) = c :: r := by
  have hkeep : ∀ d ∈ s, decide (d ≠ c) = true := fun d hd => decide_eq_true fun h => hc (h ▸ hd)
  rw [List.dropWhile_append_of_pos hkeep, List.dropWhile_cons_of_neg (by simp)]

/-- What stands behind a `c` does not matter. -/
lemma takeWhile_ne_append_cons (c : α) (s r : List α) :
    (s ++ c :: r).takeWhile (· ≠ c) = s.takeWhile (· ≠ c) := by
  rw [List.takeWhile_append]
  split
  · rename_i hlen
    rw [List.takeWhile_cons_of_neg (by simp), List.append_nil]
    exact ((List.takeWhile_prefix _).eq_of_length hlen).symm
  · rfl

end

/-! ## Stripping the end -/

section

variable {α : Type*} {p : α → Bool}

/-- Nothing in front of an element that stays is dropped. -/
lemma rdropWhile_append_cons {c : α} (hc : p c = false) (a r : List α) :
    (a ++ c :: r).rdropWhile p = a ++ c :: r.rdropWhile p := by
  induction r using List.reverseRecOn with
  | nil => rw [List.rdropWhile_nil, List.rdropWhile_concat_neg p a c (by simp [hc])]
  | append_singleton r x ih =>
    have hassoc : a ++ c :: (r ++ [x]) = (a ++ c :: r) ++ [x] := by
      rw [List.append_assoc, List.cons_append]
    rw [hassoc, List.rdropWhile_concat, List.rdropWhile_concat]
    by_cases hx : p x = true
    · rw [if_pos hx, if_pos hx, ih]
    · rw [if_neg hx, if_neg hx, hassoc]

lemma rdropWhile_append_of_all {t : List α} (ht : ∀ x ∈ t, p x = true) (s : List α) :
    (s ++ t).rdropWhile p = s.rdropWhile p := by
  induction t using List.reverseRecOn with
  | nil => rw [List.append_nil]
  | append_singleton t x ih =>
    rw [← List.append_assoc, List.rdropWhile_concat_pos p _ x (ht x (by simp))]
    exact ih fun y hy => ht y (List.mem_append_left _ hy)

/-- The end of a text that is stripped anyway does not matter for what is left of its beginning. -/
lemma rdropWhile_take (l : List α) (k : ℕ) :
    (l.take k).rdropWhile p = ((l.rdropWhile p).take k).rdropWhile p := by
  obtain ⟨s, hs⟩ : ∃ s, l.rdropWhile p = s := ⟨_, rfl⟩
  have hdropped : l = s ++ l.rtakeWhile p := hs ▸ List.rdropWhile_append_rtakeWhile.symm
  rw [hs, hdropped, List.take_append]
  exact rdropWhile_append_of_all
    (fun x hx => List.mem_rtakeWhile_imp (List.mem_of_mem_take hx)) (s.take k)

end

/-! ## Character sets in memory -/

/-- The characters of a string that ends at its first NUL. -/
structure CString where
  chars : List UInt8
  nul_free : 0 ∉ chars

namespace CString

/-- Adjacent string literals. -/
def append (a b : CString) : CString where
  chars := a.chars ++ b.chars
  nul_free h := (List.mem_append.mp h).elim a.nul_free b.nul_free

/-- The string in memory. -/
def memory (s : CString) : List UInt8 := s.chars ++ [0]

end CString

/-- `for (const char* c = chars; *c; c++)` with an exit at the first character equal to the given
one: whether there is one. -/
def charLoop (char : UInt8) : List UInt8 → Bool
  | [] => false
  | c :: rest => if c = 0 then false else if char = c then true else charLoop char rest

/-- The loop over a string in memory decides membership, for every character. -/
theorem charLoop_memory (char : UInt8) (s : CString) :
    charLoop char s.memory = decide (char ∈ s.chars) := by
  obtain ⟨chars, hnul⟩ := s
  change charLoop char (chars ++ [0]) = decide (char ∈ chars)
  induction chars with
  | nil => rfl
  | cons c chars ih =>
    obtain ⟨hc, hrest⟩ := not_or.mp (mt List.mem_cons.mpr hnul)
    rw [List.cons_append, charLoop, if_neg (Ne.symm hc), ih hrest]
    by_cases h : char = c
    · rw [if_pos h, decide_eq_true (List.mem_cons.mpr (Or.inl h))]
    · rw [if_neg h, decide_eq_decide, List.mem_cons, or_iff_right h]

end StringSearch
