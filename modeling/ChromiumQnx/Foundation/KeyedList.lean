import Mathlib.Data.List.Basic
import Mathlib.Data.List.Nodup
import Mathlib.Tactic.Common

/-!
# Lists of keyed entries

Objects that come into being one after the other are kept in a list of entries with different keys,
in the order of their creation.  `modify` changes the entry with a key and `erase` drops it.  The
lemmas say what these do to the keys, to membership and to a selection of the entries.
-/

namespace KeyedList

variable {κ ν : Type*} [DecidableEq κ]

/-- The entry with a key is changed. -/
def modify (k : κ) (f : ν → ν) (l : List (κ × ν)) : List (κ × ν) :=
  l.map fun e => if e.1 = k then (e.1, f e.2) else e

/-- The entry with a key is dropped. -/
def erase (k : κ) (l : List (κ × ν)) : List (κ × ν) := l.filter fun e => e.1 ≠ k

@[simp] lemma map_fst_modify (k : κ) (f : ν → ν) (l : List (κ × ν)) :
    (modify k f l).map Prod.fst = l.map Prod.fst := by
  unfold modify
  rw [List.map_map]
  refine List.map_congr_left fun e _ => ?_
  change (if e.1 = k then (e.1, f e.2) else e).1 = e.1
  split <;> rfl

lemma map_fst_erase (k : κ) (l : List (κ × ν)) :
    (erase k l).map Prod.fst = (l.map Prod.fst).filter (· ≠ k) := by
  unfold erase
  rw [List.filter_map]
  rfl

lemma mem_erase {k : κ} {l : List (κ × ν)} {e : κ × ν} :
    e ∈ erase k l ↔ e ∈ l ∧ e.1 ≠ k := by
  rw [erase, List.mem_filter, decide_eq_true_iff]

/-- An entry after a change is an old one, changed if it has the key. -/
lemma mem_modify {k : κ} {f : ν → ν} {l : List (κ × ν)} {e : κ × ν} :
    e ∈ modify k f l ↔ ∃ d ∈ l, e = if d.1 = k then (d.1, f d.2) else d := by
  unfold modify
  rw [List.mem_map]
  exact exists_congr fun d => and_congr_right fun _ => eq_comm

/-- What is not there is not dropped. -/
lemma erase_of_notMem {k : κ} {l : List (κ × ν)} (h : k ∉ l.map Prod.fst) : erase k l = l :=
  List.filter_eq_self.mpr fun _ he => decide_eq_true fun hk =>
    h (hk ▸ List.mem_map_of_mem he)

/-- What is not there is not changed. -/
lemma modify_of_notMem {k : κ} {l : List (κ × ν)} (h : k ∉ l.map Prod.fst) (f : ν → ν) :
    modify k f l = l := by
  unfold modify
  refine (List.map_congr_left fun e he => ?_).trans (List.map_id l)
  exact if_neg fun hk : e.1 = k => h (hk ▸ List.mem_map_of_mem he)

@[simp] lemma modify_id (k : κ) (l : List (κ × ν)) : modify k (fun v => v) l = l := by
  unfold modify
  exact (List.map_congr_left fun _ _ => ite_self _).trans (List.map_id l)

/-- A selection that a change does not touch selects the changed entries. -/
lemma filter_modify {k : κ} {f : ν → ν} {p : κ × ν → Bool} (hp : ∀ j v, p (j, f v) = p (j, v))
    (l : List (κ × ν)) : (modify k f l).filter p = modify k f (l.filter p) := by
  unfold modify
  rw [List.filter_map]
  have hsame : p ∘ (fun e : κ × ν => if e.1 = k then (e.1, f e.2) else e) = p := by
    funext e
    change p (if e.1 = k then (e.1, f e.2) else e) = p e
    split
    · exact hp e.1 e.2
    · rfl
  rw [hsame]

/-- A selection of what is left is what is left of the selection. -/
lemma filter_erase (k : κ) (p : κ × ν → Bool) (l : List (κ × ν)) :
    (erase k l).filter p = erase k (l.filter p) := by
  unfold erase
  rw [List.filter_filter, List.filter_filter]
  exact List.filter_congr fun _ _ => Bool.and_comm _ _

omit [DecidableEq κ] in
/-- Two entries with the same key are the same. -/
lemma eq_of_mem {l : List (κ × ν)} (hnodup : (l.map Prod.fst).Nodup) {k : κ} {v w : ν}
    (hv : (k, v) ∈ l) (hw : (k, w) ∈ l) : v = w :=
  congrArg Prod.snd (List.inj_on_of_nodup_map hnodup hv hw rfl)

/-- The entries after a change of one that is there. -/
lemma mem_modify_iff {l : List (κ × ν)} (hnodup : (l.map Prod.fst).Nodup) {k : κ} {v : ν}
    (hv : (k, v) ∈ l) {f : ν → ν} {j : κ} {w : ν} :
    (j, w) ∈ modify k f l ↔ j = k ∧ w = f v ∨ j ≠ k ∧ (j, w) ∈ l := by
  rw [mem_modify]
  constructor
  · rintro ⟨⟨i, u⟩, hu, heq⟩
    by_cases hi : i = k
    · subst hi
      rw [if_pos rfl, Prod.mk.injEq] at heq
      exact Or.inl ⟨heq.1, heq.2.trans (congrArg f (eq_of_mem hnodup hu hv))⟩
    · rw [if_neg hi] at heq
      exact Or.inr ⟨fun hj => hi ((Prod.mk.inj heq).1.symm.trans hj), heq ▸ hu⟩
  · rintro (⟨rfl, rfl⟩ | ⟨hj, hw⟩)
    · exact ⟨(j, v), hv, (if_pos rfl).symm⟩
    · exact ⟨(j, w), hw, (if_neg hj).symm⟩

end KeyedList
