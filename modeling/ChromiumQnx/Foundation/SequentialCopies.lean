import Mathlib.Data.List.Induction
import Mathlib.Logic.Function.Basic
import Mathlib.Tactic.Common

/-!
# Copies one after another

A list of pairs (source, destination) can be read as one parallel assignment, in which every source
is looked up before anything is written, or as a sequence of copies.  `SequentialCopies.copies` is
the sequence.

`SequentialCopies.forall_copies_iff` says when the sequence does what the parallel assignment
should: every source is either untouched until it is read, or it is an earlier destination whose own
source had the same value.
-/

namespace SequentialCopies

variable {ι α : Type*} [DecidableEq ι]

/-- One copy, from the first component to the second. -/
def copy (f : ι → α) (c : ι × ι) : ι → α := Function.update f c.2 (f c.1)

/-- The copies of a list, one after another. -/
def copies (f : ι → α) (cs : List (ι × ι)) : ι → α := cs.foldl copy f

/-- The source of `c` is read with the value `g` has there: it is untouched and `f` agrees with `g`
there, or the first of the earlier copies to write it had a source of the same value. -/
def SourceKept (f g : ι → α) (earlier : List (ι × ι)) (c : ι × ι) : Prop :=
  match earlier.find? fun e => e.2 = c.1 with
  | some e => g e.1 = g c.1
  | none => f c.1 = g c.1

/-- Every source of the list is read with the value `g` has there. -/
def SourcesKept (f g : ι → α) (cs : List (ι × ι)) : Prop :=
  ∀ earlier c later, cs = earlier ++ c :: later → SourceKept f g earlier c

variable {f g : ι → α}

lemma copies_concat (cs : List (ι × ι)) (c : ι × ι) :
    copies f (cs ++ [c]) = copy (copies f cs) c := by
  rw [copies, List.foldl_append]
  rfl

/-- What is no destination is not changed. -/
lemma copies_of_not_mem {cs : List (ι × ι)} {i : ι} (h : i ∉ cs.map Prod.snd) :
    copies f cs i = f i := by
  induction cs using List.reverseRecOn with
  | nil => rfl
  | append_singleton cs c ih =>
    rw [List.map_append, List.mem_append, not_or] at h
    have hne : i ≠ c.2 := by simpa using h.2
    rw [copies_concat, copy, Function.update_of_ne hne, ih h.1]

/-- The condition on a list with one more copy. -/
lemma sourcesKept_concat {cs : List (ι × ι)} {c : ι × ι} :
    SourcesKept f g (cs ++ [c]) ↔ SourcesKept f g cs ∧ SourceKept f g cs c := by
  constructor
  · intro h
    refine ⟨fun earlier e later hcs => ?_, h cs c [] rfl⟩
    exact h earlier e (later ++ [c]) (by rw [hcs, List.append_assoc, List.cons_append])
  · rintro ⟨hcs, hc⟩ earlier e later heq
    rcases List.eq_nil_or_concat later with rfl | ⟨later, c', rfl⟩
    · obtain ⟨rfl, he⟩ := List.append_inj' heq rfl
      rwa [← List.singleton_inj.mp he]
    · rw [List.concat_eq_append, ← List.cons_append, ← List.append_assoc] at heq
      exact hcs earlier e later (List.append_inj' heq rfl).1

/-- The value a source has after the earlier copies, when these have done what they should. -/
lemma copies_source_eq_iff {cs : List (ι × ι)} {c : ι × ι}
    (h : ∀ e ∈ cs, copies f cs e.2 = g e.1) :
    copies f cs c.1 = g c.1 ↔ SourceKept f g cs c := by
  unfold SourceKept
  cases hfind : cs.find? fun e => e.2 = c.1 with
  | some e =>
    have hdest : e.2 = c.1 := by simpa using List.find?_some hfind
    rw [← hdest, h e (List.mem_of_find?_eq_some hfind), hdest]
  | none =>
    have hnot : c.1 ∉ cs.map Prod.snd := by
      intro hmem
      obtain ⟨e, he, hdest⟩ := List.mem_map.mp hmem
      exact List.find?_eq_none.mp hfind e he (decide_eq_true hdest)
    rw [copies_of_not_mem hnot]

/-- **When copies one after another are a parallel assignment.**  With distinct destinations, every
destination gets the value `g` has at its own source if and only if all sources are kept. -/
theorem forall_copies_iff {cs : List (ι × ι)} (hnodup : (cs.map Prod.snd).Nodup) :
    (∀ c ∈ cs, copies f cs c.2 = g c.1) ↔ SourcesKept f g cs := by
  induction cs using List.reverseRecOn with
  | nil => exact ⟨fun _ _ _ _ heq => by simp at heq, fun _ => List.forall_mem_nil _⟩
  | append_singleton cs c ih =>
    rw [List.map_append, List.nodup_append] at hnodup
    obtain ⟨hcs, -, hdisjoint⟩ := hnodup
    have hold : ∀ e ∈ cs, copies f (cs ++ [c]) e.2 = copies f cs e.2 := by
      intro e he
      have hne : e.2 ≠ c.2 := hdisjoint e.2 (List.mem_map_of_mem he) c.2 (by simp)
      rw [copies_concat, copy, Function.update_of_ne hne]
    have hnew : copies f (cs ++ [c]) c.2 = copies f cs c.1 := by
      rw [copies_concat, copy, Function.update_self]
    rw [List.forall_mem_append, List.forall_mem_singleton, hnew, sourcesKept_concat, ← ih hcs]
    constructor
    · rintro ⟨hearlier, hlast⟩
      have hearlier' : ∀ e ∈ cs, copies f cs e.2 = g e.1 := fun e he => by
        rw [← hold e he, hearlier e he]
      exact ⟨hearlier', (copies_source_eq_iff hearlier').mp hlast⟩
    · rintro ⟨hearlier, hlast⟩
      refine ⟨fun e he => ?_, (copies_source_eq_iff hearlier).mpr hlast⟩
      rw [hold e he, hearlier e he]

end SequentialCopies
