import ChromiumQnx.Foundation.TransitionSystem
import Mathlib.Order.Nat

/-!
# Watermarks

In a transition system something is produced and something else keeps up with it: `produced` counts
what there is so far, `mark` how much of it has been dealt with, and `syncs` the synchronising
steps, after which the mark covers all that had been produced before them.

`Watermark.run` says that whatever was produced before a synchronising step of a run is covered by
the mark at its end.
-/

namespace TransitionSystem

variable {σ ε : Type*} {step : σ → ε → Option σ}

/-- A relation that every step keeps is kept by runs. -/
lemma runFrom_rel {R : σ → σ → Prop} (hrefl : ∀ s, R s s)
    (htrans : ∀ a b c, R a b → R b c → R a c) (hstep : ∀ s e s', step s e = some s' → R s s')
    {s s' : σ} {es : List ε} (h : runFrom step s es = some s') : R s s' := by
  induction es generalizing s with
  | nil => exact Option.some.inj h ▸ hrefl s
  | cons e es ih =>
    obtain ⟨s₁, hs₁, hrun⟩ := Option.bind_eq_some_iff.mp h
    exact htrans _ _ _ (hstep _ _ _ hs₁) (ih hrun)

/-- A condition that each event meets in all states. -/
lemma stepsMeet_of_forall {C : σ → ε → Prop} {es : List ε} (h : ∀ e ∈ es, ∀ s, C s e) (s : σ) :
    StepsMeet step C s es := by
  induction es generalizing s with
  | nil => trivial
  | cons e es ih =>
    exact fun s' _ =>
      ⟨h e List.mem_cons_self s, ih (fun e he => h e (List.mem_cons_of_mem _ he)) s'⟩

/-- From the states of `I`, steps that meet `C` keep the mark up with what is produced. -/
structure Watermark (step : σ → ε → Option σ) (I : σ → Prop) (C : σ → ε → Prop)
    (produced mark syncs : σ → ℕ) : Prop where
  inv : ∀ s e s', I s → C s e → step s e = some s' → I s'
  produced_le : ∀ s e s', I s → C s e → step s e = some s' → produced s ≤ produced s'
  mark_le : ∀ s e s', I s → C s e → step s e = some s' → mark s ≤ mark s'
  sync : ∀ s e s', I s → C s e → step s e = some s' →
    syncs s' = syncs s ∨ produced s ≤ mark s'

namespace Watermark

variable {I : σ → Prop} {C : σ → ε → Prop} {produced mark syncs : σ → ℕ}

/-- The mark never goes back. -/
lemma mark_le_run (w : Watermark step I C produced mark syncs) {s s' : σ} {es : List ε} (hs : I s)
    (hC : StepsMeet step C s es) (h : runFrom step s es = some s') : mark s ≤ mark s' := by
  induction es generalizing s with
  | nil => exact Option.some.inj h ▸ Nat.le_refl _
  | cons e es ih =>
    obtain ⟨s₁, hs₁, hrun⟩ := Option.bind_eq_some_iff.mp h
    obtain ⟨hCe, hrest⟩ := hC s₁ hs₁
    exact Nat.le_trans (w.mark_le _ _ _ hs hCe hs₁) (ih (w.inv _ _ _ hs hCe hs₁) hrest hrun)

/-- **What was produced before a synchronising step is covered after it.** -/
theorem run (w : Watermark step I C produced mark syncs) {s s' : σ} {es : List ε} (hs : I s)
    (hC : StepsMeet step C s es) (h : runFrom step s es = some s') :
    syncs s' = syncs s ∨ produced s ≤ mark s' := by
  induction es generalizing s with
  | nil => exact Or.inl (Option.some.inj h ▸ rfl)
  | cons e es ih =>
    obtain ⟨s₁, hs₁, hrun⟩ := Option.bind_eq_some_iff.mp h
    obtain ⟨hCe, hrest⟩ := hC s₁ hs₁
    have hinv := w.inv _ _ _ hs hCe hs₁
    rcases w.sync _ _ _ hs hCe hs₁ with hsame | hcovered
    · rcases ih hinv hrest hrun with hlater | hlater
      · exact Or.inl (hlater.trans hsame)
      · exact Or.inr (Nat.le_trans (w.produced_le _ _ _ hs hCe hs₁) hlater)
    · exact Or.inr (Nat.le_trans hcovered (w.mark_le_run hinv hrest hrun))

end Watermark

end TransitionSystem
