import Mathlib.Data.Option.Basic
import Mathlib.Data.List.Infix
import Mathlib.Tactic.Common

/-!
# Runs of guarded transition systems

A component is given by a guarded step function `step : σ → ε → Option σ`: the event `e` is
enabled in the state `s` when `step s e` is `some s'`, and it then leads to `s'`.

`runFrom` takes the events of a list in order, `Reachable` collects the states such runs end in.
`Always step P s es` says that `P` holds in every state the run of `es` from `s` visits, and
`StepsMeet step C s es` that every step this run takes meets the condition `C`, which may look at
the event and at the state before the step.

Two rules carry the inductions of the developments below.  `Reachable.invariant` is the invariant
rule.  `always_iff_stepsMeet` is the exactness rule: if a strong invariant `I` is kept by every step
that meets `C`, and every step from `I` that does not meet `C` falsifies `P` at once, then `P`
holds throughout a run exactly when all its steps meet `C`.
-/

namespace TransitionSystem

section Runs

variable {σ ε : Type*} (step : σ → ε → Option σ)

/-- The state reached from a state by the events of a list, taken in order; `none` when one of
them is not enabled. -/
def runFrom : σ → List ε → Option σ
  | s, [] => some s
  | s, e :: es => (step s e).bind fun s' => runFrom s' es

/-- The states that runs from `s₀` end in. -/
inductive Reachable (s₀ : σ) : σ → Prop
  | refl : Reachable s₀ s₀
  | tail {s s' : σ} {e : ε} : Reachable s₀ s → step s e = some s' → Reachable s₀ s'

/-- `P` holds in every state the run visits, its first and its last state included. -/
def Always (P : σ → Prop) : σ → List ε → Prop
  | s, [] => P s
  | s, e :: es => P s ∧ ∀ s' ∈ step s e, Always P s' es

/-- Every step the run takes meets `C`, a condition on the event and the state before it. -/
def StepsMeet (C : σ → ε → Prop) : σ → List ε → Prop
  | _, [] => True
  | s, e :: es => ∀ s' ∈ step s e, C s e ∧ StepsMeet C s' es

instance decidableAlways {P : σ → Prop} [DecidablePred P] :
    ∀ s es, Decidable (Always step P s es)
  | s, [] => inferInstanceAs (Decidable (P s))
  | s, e :: es =>
    have (s' : σ) : Decidable (Always step P s' es) := decidableAlways s' es
    inferInstanceAs (Decidable (P s ∧ ∀ s' ∈ step s e, Always step P s' es))

instance decidableStepsMeet {C : σ → ε → Prop} [∀ s e, Decidable (C s e)] :
    ∀ s es, Decidable (StepsMeet step C s es)
  | _, [] => inferInstanceAs (Decidable True)
  | s, e :: es =>
    have (s' : σ) : Decidable (StepsMeet step C s' es) := decidableStepsMeet s' es
    inferInstanceAs (Decidable (∀ s' ∈ step s e, C s e ∧ StepsMeet step C s' es))

variable {step}

lemma runFrom_cons (s : σ) (e : ε) (es : List ε) :
    runFrom step s (e :: es) = (step s e).bind fun s' => runFrom step s' es := rfl

/-- A run with one more event. -/
lemma runFrom_concat (s : σ) (es : List ε) (e : ε) :
    runFrom step s (es ++ [e]) = (runFrom step s es).bind fun s' => step s' e := by
  induction es generalizing s with
  | nil => exact Option.bind_fun_some (step s e)
  | cons e' es ih =>
    rw [List.cons_append, runFrom_cons, runFrom_cons, Option.bind_assoc]
    exact congrArg _ (funext ih)

/-- One run after another. -/
lemma runFrom_append {s s₁ s₂ : σ} {es fs : List ε} (hes : runFrom step s es = some s₁)
    (hfs : runFrom step s₁ fs = some s₂) : runFrom step s (es ++ fs) = some s₂ := by
  induction es generalizing s with
  | nil =>
    obtain rfl := Option.some.inj hes
    exact hfs
  | cons e es ih =>
    obtain ⟨s', hs', hrest⟩ := Option.bind_eq_some_iff.mp hes
    rw [List.cons_append, runFrom_cons, hs', Option.bind_some]
    exact ih hrest

/-- A run from a reachable state ends in a reachable state. -/
lemma Reachable.runFrom {s₀ s s' : σ} {es : List ε} (hs : Reachable step s₀ s)
    (h : runFrom step s es = some s') : Reachable step s₀ s' := by
  induction es generalizing s with
  | nil => rwa [← Option.some.inj h]
  | cons e es ih =>
    obtain ⟨s₁, hs₁, hrun⟩ := Option.bind_eq_some_iff.mp h
    exact ih (hs.tail hs₁) hrun

/-- **Invariant rule.**  A property of the first state that every enabled step preserves holds in
every reachable state. -/
theorem Reachable.invariant {I : σ → Prop} {s₀ s : σ} (h : Reachable step s₀ s) (h₀ : I s₀)
    (hstep : ∀ s e s', I s → step s e = some s' → I s') : I s := by
  induction h with
  | refl => exact h₀
  | tail _ hse ih => exact hstep _ _ _ ih hse

/-- `Always` looks at the first state of the run. -/
lemma Always.head {P : σ → Prop} {s : σ} {es : List ε} (h : Always step P s es) : P s := by
  cases es with
  | nil => exact h
  | cons e es => exact h.1

/-- `Always` speaks about the end states of all initial parts of the run. -/
theorem always_iff_forall_prefix {P : σ → Prop} {s : σ} {es : List ε} :
    Always step P s es ↔ ∀ pre, pre <+: es → ∀ s', runFrom step s pre = some s' → P s' := by
  induction es generalizing s with
  | nil =>
    constructor
    · intro h pre hpre s' hrun
      rw [List.prefix_nil.mp hpre] at hrun
      rwa [← Option.some.inj hrun]
    · exact fun h => h [] List.prefix_rfl s rfl
  | cons e es ih =>
    constructor
    · rintro ⟨hs, hnext⟩ pre hpre s' hrun
      rcases List.prefix_cons_iff.mp hpre with rfl | ⟨t, rfl, ht⟩
      · rwa [← Option.some.inj hrun]
      · obtain ⟨s₁, hs₁, hrun⟩ := Option.bind_eq_some_iff.mp hrun
        exact ih.mp (hnext s₁ hs₁) t ht s' hrun
    · intro h
      refine ⟨h [] List.nil_prefix s rfl, fun s₁ hs₁ => ih.mpr fun pre hpre s' hrun => ?_⟩
      refine h (e :: pre) (List.cons_prefix_cons.mpr ⟨rfl, hpre⟩) s' ?_
      rw [runFrom_cons, Option.mem_def.mp hs₁]
      exact hrun

/-- A property of all reachable states holds throughout every run. -/
lemma always_of_forall_reachable {P : σ → Prop} {s : σ} (es : List ε)
    (h : ∀ s', Reachable step s s' → P s') : Always step P s es :=
  always_iff_forall_prefix.mpr fun _ _ s' hrun => h s' (Reachable.refl.runFrom hrun)

/-- **Conditional invariant rule.**  If the steps meeting `C` preserve `I`, then `I` holds
throughout every run from `I` whose steps all meet `C`. -/
theorem StepsMeet.always {I : σ → Prop} {C : σ → ε → Prop} {s : σ} {es : List ε}
    (h : StepsMeet step C s es) (hs : I s)
    (hstep : ∀ s e s', I s → C s e → step s e = some s' → I s') : Always step I s es := by
  induction es generalizing s with
  | nil => exact hs
  | cons e es ih =>
    refine ⟨hs, fun s' hs' => ?_⟩
    obtain ⟨hC, hrest⟩ := h s' hs'
    exact ih hrest (hstep s e s' hs hC hs')

/-- `Always` is monotone in the property. -/
lemma Always.mono {P Q : σ → Prop} {s : σ} {es : List ε} (h : Always step P s es)
    (hPQ : ∀ s, P s → Q s) : Always step Q s es := by
  induction es generalizing s with
  | nil => exact hPQ s h
  | cons e es ih => exact ⟨hPQ s h.1, fun s' hs' => ih (h.2 s' hs')⟩

/-- **Exactness rule.**  Suppose steps meeting `C` preserve the invariant `I`, which contains the
property `P`, and a step from `I` that does not meet `C` leads to a state without `P`.  Then `P`
holds throughout a run from `I` if and only if all steps of the run meet `C`. -/
theorem always_iff_stepsMeet {I P : σ → Prop} {C : σ → ε → Prop} {s : σ} (hs : I s)
    (hIP : ∀ s, I s → P s)
    (hstep : ∀ s e s', I s → C s e → step s e = some s' → I s')
    (hfail : ∀ s e s', I s → ¬ C s e → step s e = some s' → ¬ P s') (es : List ε) :
    Always step P s es ↔ StepsMeet step C s es := by
  refine ⟨fun h => ?_, fun h => (h.always hs hstep).mono hIP⟩
  induction es generalizing s with
  | nil => trivial
  | cons e es ih =>
    intro s' hs'
    have hC : C s e := by
      by_contra hC
      exact hfail s e s' hs hC hs' (h.2 s' hs').head
    exact ⟨hC, ih (hstep s e s' hs hC hs') (h.2 s' hs')⟩

/-- **Trap rule.**  Suppose no step leaves the trap `T`, and a step from `I` that does not meet `C`
leads into it.  Then a run that does not end in the trap meets `C` at every step. -/
theorem stepsMeet_of_not_trap {I T : σ → Prop} {C : σ → ε → Prop} {s s' : σ} {es : List ε}
    (hs : I s) (hI : ∀ s e s', I s → step s e = some s' → I s')
    (hkeep : ∀ s e s', I s → T s → step s e = some s' → T s')
    (htrap : ∀ s e s', I s → ¬ C s e → step s e = some s' → T s')
    (hrun : runFrom step s es = some s') (hend : ¬ T s') : StepsMeet step C s es := by
  have hstay : ∀ {a b : σ} {es : List ε}, I a → T a → runFrom step a es = some b → T b := by
    intro a b es ha hT hab
    have hboth := (Reachable.refl.runFrom hab).invariant (I := fun s => I s ∧ T s) ⟨ha, hT⟩
      fun s e s' h hse => ⟨hI s e s' h.1 hse, hkeep s e s' h.1 h.2 hse⟩
    exact hboth.2
  induction es generalizing s with
  | nil => trivial
  | cons e es ih =>
    obtain ⟨s₁, hs₁, hrest⟩ := Option.bind_eq_some_iff.mp hrun
    intro s₂ hs₂
    obtain rfl : s₁ = s₂ := Option.some.inj (hs₁.symm.trans hs₂)
    refine ⟨?_, ih (hI s e s₁ hs hs₁) hrest⟩
    by_contra hC
    exact hend (hstay (hI s e s₁ hs hs₁) (htrap s e s₁ hs hC hs₁) hrest)

/-- Two conditions that agree on every step from the states of an invariant are met by the same
runs. -/
lemma stepsMeet_congr {I : σ → Prop} {C D : σ → ε → Prop} {s : σ} (hs : I s)
    (hstep : ∀ s e s', I s → step s e = some s' → I s')
    (hCD : ∀ s e s', I s → step s e = some s' → (C s e ↔ D s e)) (es : List ε) :
    StepsMeet step C s es ↔ StepsMeet step D s es := by
  induction es generalizing s with
  | nil => exact Iff.rfl
  | cons e es ih =>
    refine forall₂_congr fun s' hs' => ?_
    rw [hCD s e s' hs hs', ih (hstep s e s' hs hs')]

end Runs

end TransitionSystem
