import Mathlib.Logic.Function.Basic
import Mathlib.Tactic.Common

/-!
# Lifetimes

A run of a program destroys objects and uses objects.  `runActions` carries a flag for each object
that says whether it is alive, and stops at a use of an object that is not.  `Safe` runs do not
stop.

A run is safe if and only if no use in it comes after the destruction of its object; `safe_iff` and
its two consequences say so without the flags.
-/

namespace Lifetimes

/-- What a run does to an object. -/
inductive Action (ω : Type*)
  | destroy (o : ω)
  | use (o : ω)
  deriving DecidableEq, Repr

variable {ω : Type*} [DecidableEq ω]

/-- The flags after the actions, unless one of them uses an object that is not alive. -/
def runActions (alive : ω → Bool) : List (Action ω) → Option (ω → Bool)
  | [] => some alive
  | .destroy o :: rest => runActions (Function.update alive o false) rest
  | .use o :: rest => if alive o then runActions alive rest else none

/-- From objects that are all alive, no use comes after the destruction. -/
def Safe (actions : List (Action ω)) : Prop := (runActions (fun _ => true) actions).isSome

instance (actions : List (Action ω)) : Decidable (Safe actions) :=
  inferInstanceAs (Decidable (_ = true))

/-- Every used object is alive before the actions, and not destroyed before its use. -/
def UsesAlive (alive : ω → Bool) (actions : List (Action ω)) : Prop :=
  ∀ before o after, actions = before ++ .use o :: after → alive o = true ∧ .destroy o ∉ before

omit [DecidableEq ω] in
lemma usesAlive_use {alive : ω → Bool} {o : ω} {rest : List (Action ω)} :
    UsesAlive alive (.use o :: rest) ↔ alive o = true ∧ UsesAlive alive rest := by
  constructor
  · intro h
    refine ⟨(h [] o rest rfl).1, fun before o' after hrest => ?_⟩
    obtain ⟨halive, hnot⟩ := h (.use o :: before) o' after (by rw [hrest]; rfl)
    exact ⟨halive, fun hmem => hnot (List.mem_cons_of_mem _ hmem)⟩
  · rintro ⟨halive, h⟩ before o' after heq
    cases before with
    | nil =>
      cases heq
      exact ⟨halive, List.not_mem_nil⟩
    | cons b before =>
      cases heq
      obtain ⟨halive', hnot⟩ := h before o' after rfl
      refine ⟨halive', fun hmem => ?_⟩
      rcases List.mem_cons.mp hmem with heq | hmem
      · cases heq
      · exact hnot hmem

lemma usesAlive_destroy {alive : ω → Bool} {o : ω} {rest : List (Action ω)} :
    UsesAlive alive (.destroy o :: rest) ↔ UsesAlive (Function.update alive o false) rest := by
  constructor
  · intro h before o' after hrest
    obtain ⟨halive, hnot⟩ := h (.destroy o :: before) o' after (by rw [hrest]; rfl)
    have hne : o' ≠ o := by
      rintro rfl
      exact hnot List.mem_cons_self
    rw [Function.update_of_ne hne]
    exact ⟨halive, fun hmem => hnot (List.mem_cons_of_mem _ hmem)⟩
  · intro h before o' after heq
    cases before with
    | nil => cases heq
    | cons b before =>
      cases heq
      obtain ⟨halive, hnot⟩ := h before o' after rfl
      have hne : o' ≠ o := by
        rintro rfl
        rw [Function.update_self] at halive
        cases halive
      rw [Function.update_of_ne hne] at halive
      refine ⟨halive, fun hmem => ?_⟩
      rcases List.mem_cons.mp hmem with heq | hmem
      · exact hne (Action.destroy.inj heq)
      · exact hnot hmem

/-- The run goes on exactly when every used object is alive. -/
lemma isSome_runActions_iff {alive : ω → Bool} {actions : List (Action ω)} :
    (runActions alive actions).isSome ↔ UsesAlive alive actions := by
  induction actions generalizing alive with
  | nil => exact iff_of_true rfl fun before o after h => absurd h.symm (by simp)
  | cons a rest ih =>
    cases a with
    | destroy o => rw [runActions, ih, usesAlive_destroy]
    | use o =>
      rw [runActions, usesAlive_use]
      by_cases halive : alive o = true
      · rw [if_pos halive, ih]
        exact (and_iff_right halive).symm
      · rw [if_neg halive]
        exact iff_of_false Bool.false_ne_true fun h => halive h.1

/-- **Safety without flags.**  No object is destroyed before a use of it. -/
theorem safe_iff {actions : List (Action ω)} :
    Safe actions ↔ ∀ before o after, actions = before ++ .use o :: after → .destroy o ∉ before := by
  unfold Safe
  rw [isSome_runActions_iff]
  constructor
  · intro h before o after heq
    exact (h before o after heq).2
  · intro h before o after heq
    exact ⟨rfl, h before o after heq⟩

/-- A run that destroys nothing it uses is safe. -/
lemma safe_of_forall_use {actions : List (Action ω)}
    (h : ∀ o, .use o ∈ actions → .destroy o ∉ actions) : Safe actions := by
  rw [safe_iff]
  rintro before o after rfl hmem
  exact h o (List.mem_append_right _ List.mem_cons_self) (List.mem_append_left _ hmem)

/-- What is destroyed before the last use of it makes a run unsafe. -/
lemma Safe.destroy_notMem {before after : List (Action ω)} {o : ω}
    (h : Safe (before ++ .use o :: after)) : .destroy o ∉ before :=
  safe_iff.mp h before o after rfl

/-- Nor is it destroyed at all, if nothing behind that use destroys it. -/
lemma Safe.destroy_notMem_of_last {before after : List (Action ω)} {o : ω}
    (h : Safe (before ++ .use o :: after)) (hafter : .destroy o ∉ after) :
    .destroy o ∉ before ++ .use o :: after := by
  intro hmem
  rcases List.mem_append.mp hmem with hmem | hmem
  · exact h.destroy_notMem hmem
  · rcases List.mem_cons.mp hmem with heq | hmem
    · cases heq
    · exact hafter hmem

/-- A run that uses one object only, and at its end, is safe exactly when it does not destroy it. -/
theorem safe_concat_iff {init : List (Action ω)} {o : ω}
    (huse : ∀ o', .use o' ∈ init → o' = o) :
    Safe (init ++ [.use o]) ↔ .destroy o ∉ init ++ [.use o] := by
  constructor
  · intro h
    exact h.destroy_notMem_of_last List.not_mem_nil
  · intro h
    apply safe_of_forall_use
    intro o' ho'
    rcases List.mem_append.mp ho' with ho' | ho'
    · exact huse o' ho' ▸ h
    · cases List.mem_singleton.mp ho'
      exact h

end Lifetimes
