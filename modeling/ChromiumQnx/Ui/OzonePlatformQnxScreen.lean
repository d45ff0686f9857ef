import ChromiumQnx.Foundation.Lifetimes
import ChromiumQnx.Foundation.TransitionSystem
import Mathlib.Logic.Function.Basic

/-!
# Initialising the Screen platform

The window manager and the surface factory of the platform are made by `EnsureSurfaceFactory`, which
looks whether they exist and makes what is missing.  The GPU thread and the main thread may both
come by, and nothing keeps one of them from looking while the other is at work.

The steps of `EnsureSurfaceFactory` are interleaved here between any number of threads.  The first
main result says that one factory is made if and only if no thread finds it missing while another
one is making it, the second one that in this case everything that was handed out is what the
platform still has.  The last one is about the destructor, which destroys the Screen context first.
-/

namespace ChromiumQnx

namespace OzonePlatform

open TransitionSystem

/-! ## The platform -/

/-- The functions that call `EnsureSurfaceFactory`. -/
inductive Caller
  | getSurfaceFactoryOzone
  | initializeUI
  | initializeGPU
  deriving DecidableEq, Repr

/-- Where a thread stands: it is outside, it is about to look for the surface factory, it found none
and is about to look for the window manager, to make it, or to make the factory, or it is behind
`EnsureSurfaceFactory`. -/
inductive Phase
  | idle
  | checkFactory (caller : Caller)
  | checkManager (caller : Caller)
  | createManager (caller : Caller)
  | createFactory (caller : Caller)
  | leave (caller : Caller)
  deriving DecidableEq, Repr

/-- The thread found no factory and has not made it yet. -/
def Phase.creating : Phase → Bool
  | .checkManager _ | .createManager _ | .createFactory _ => true
  | _ => false

/-- The function that a thread is in. -/
def Phase.caller : Phase → Option Caller
  | .idle => none
  | .checkFactory c | .checkManager c | .createManager c | .createFactory c | .leave c => some c

/-- A surface factory with the window manager it was given. -/
structure SurfaceFactory where
  id : ℕ
  manager : Option ℕ
  deriving DecidableEq, Repr

/-- An event source with the context and the window manager it was given. -/
structure EventSource where
  ctx : Option ℕ
  manager : Option ℕ
  deriving DecidableEq, Repr

variable (τ : Type*)

/-- `screen_ctx_`, `window_manager_`, `surface_factory_` and `event_source_`; how many contexts,
managers and factories were made, which numbers them; where every thread stands; and the factories
that were handed out. -/
structure State where
  screenCtx : Option ℕ
  manager : Option ℕ
  factory : Option SurfaceFactory
  eventSource : Option EventSource
  ctxs : ℕ
  managers : ℕ
  factories : ℕ
  threads : τ → Phase
  handedOut : List (Option SurfaceFactory)

/-- A thread calls a function, for which `screen_create_context` succeeds or fails if it is called,
or makes its next step. -/
inductive Op
  | call (t : τ) (caller : Caller) (createContext : Bool)
  | advance (t : τ)

variable {τ} [DecidableEq τ]

/-- A thread is in another phase. -/
def State.setPhase (s : State τ) (t : τ) (p : Phase) : State τ :=
  { s with threads := Function.update s.threads t p }

/-- A function is called.  `InitializeUI` makes the context first. -/
def call (s : State τ) (t : τ) (caller : Caller) (createContext : Bool) : State τ :=
  match caller with
  | .initializeUI =>
    if !createContext then s
    else State.setPhase { s with screenCtx := some s.ctxs, ctxs := s.ctxs + 1 } t
      (.checkFactory caller)
  | .getSurfaceFactoryOzone | .initializeGPU => s.setPhase t (.checkFactory caller)

/-- What a function does behind `EnsureSurfaceFactory`. -/
def leave (s : State τ) : Caller → State τ
  | .getSurfaceFactoryOzone => { s with handedOut := s.handedOut ++ [s.factory] }
  | .initializeUI => { s with eventSource := some ⟨s.screenCtx, s.manager⟩ }
  | .initializeGPU => s

/-- The next step of a thread. -/
def advance (s : State τ) (t : τ) : Option (State τ) :=
  match s.threads t with
  | .idle => none
  | .checkFactory c =>
    some (s.setPhase t (if s.factory.isSome then .leave c else .checkManager c))
  | .checkManager c =>
    some (s.setPhase t (if s.manager.isSome then .createFactory c else .createManager c))
  | .createManager c =>
    some (State.setPhase { s with manager := some s.managers, managers := s.managers + 1 } t
      (.createFactory c))
  | .createFactory c =>
    some (State.setPhase
      { s with factory := some ⟨s.factories, s.manager⟩, factories := s.factories + 1 } t
      (.leave c))
  | .leave c => some ((leave s c).setPhase t .idle)

/-- One step.  A thread that is in a function calls no other. -/
def step (s : State τ) : Op τ → Option (State τ)
  | .call t caller createContext =>
    if s.threads t = .idle then some (call s t caller createContext) else none
  | .advance t => advance s t

variable (τ)

/-- Nothing was made. -/
def start : State τ where
  screenCtx := none
  manager := none
  factory := none
  eventSource := none
  ctxs := 0
  managers := 0
  factories := 0
  threads := fun _ => .idle
  handedOut := []

variable {τ}

/-- No thread is in a function. -/
def State.Quiescent (s : State τ) : Prop := ∀ t, s.threads t = .idle

/-- The thread does not find the factory missing while another one is making it. -/
def NoOverlap (s : State τ) : Op τ → Prop
  | .call _ _ _ => True
  | .advance t =>
    ∀ c, s.threads t = .checkFactory c → s.factory = none →
      ∀ u, (s.threads u).creating = false

/-- One manager and one factory were made at most, and what the factory, the callers and the event
source were given is what the platform has. -/
structure Current (s : State τ) : Prop where
  managers_le : s.managers ≤ 1
  factories_le : s.factories ≤ 1
  factory : ∀ f, s.factory = some f → f.manager = s.manager
  handedOut : ∀ f ∈ s.handedOut, f.isSome = true ∧ f = s.factory
  eventSource : ∀ e, s.eventSource = some e → e.manager.isSome = true ∧ e.manager = s.manager

/-! ## What a step does -/

section

variable {s s' : State τ} {t : τ}

lemma threads_setPhase (s : State τ) (t : τ) (p : Phase) (u : τ) :
    (s.setPhase t p).threads u = if u = t then p else s.threads u :=
  Function.update_apply s.threads t p u

/-- A called function is in front of its check, unless the context cannot be made. -/
lemma step_call {caller : Caller} {createContext : Bool}
    (hs : step s (.call t caller createContext) = some s') :
    s.threads t = .idle ∧ (s' = s ∨
      ∃ ctx n, s' = State.setPhase { s with screenCtx := ctx, ctxs := n } t
        (.checkFactory caller)) := by
  obtain ⟨hidle, hs⟩ := Option.ite_none_right_eq_some.mp hs
  refine ⟨hidle, ?_⟩
  rw [← Option.some.inj hs]
  rcases caller with _ | _ | _
  · exact Or.inr ⟨_, _, rfl⟩
  · rcases createContext with _ | _
    · exact Or.inl rfl
    · exact Or.inr ⟨_, _, rfl⟩
  · exact Or.inr ⟨_, _, rfl⟩

/-- The five steps of a thread. -/
lemma advance_cases (hs : advance s t = some s') :
    (∃ c, s.threads t = .checkFactory c ∧ s.factory = none ∧ s' = s.setPhase t (.checkManager c)) ∨
    (∃ c, s.threads t = .checkFactory c ∧ s.factory.isSome = true ∧ s' = s.setPhase t (.leave c)) ∨
    (∃ c, s.threads t = .checkManager c ∧ s.manager = none ∧ s' = s.setPhase t (.createManager c)) ∨
    (∃ c, s.threads t = .checkManager c ∧ s.manager.isSome = true ∧
      s' = s.setPhase t (.createFactory c)) ∨
    (∃ c, s.threads t = .createManager c ∧
      s' = State.setPhase { s with manager := some s.managers, managers := s.managers + 1 } t
        (.createFactory c)) ∨
    (∃ c, s.threads t = .createFactory c ∧
      s' = State.setPhase
        { s with factory := some ⟨s.factories, s.manager⟩, factories := s.factories + 1 } t
        (.leave c)) ∨
    (∃ c, s.threads t = .leave c ∧ s' = (leave s c).setPhase t .idle) := by
  unfold advance at hs
  split at hs
  · exact absurd hs.symm (Option.some_ne_none s')
  · rename_i c hc
    rw [← Option.some.inj hs]
    rcases hfactory : s.factory with _ | f
    · exact Or.inl ⟨c, hc, rfl, rfl⟩
    · exact Or.inr (Or.inl ⟨c, hc, rfl, rfl⟩)
  · rename_i c hc
    rw [← Option.some.inj hs]
    rcases hmanager : s.manager with _ | m
    · exact Or.inr (Or.inr (Or.inl ⟨c, hc, rfl, rfl⟩))
    · exact Or.inr (Or.inr (Or.inr (Or.inl ⟨c, hc, rfl, rfl⟩)))
  · rename_i c hc
    rw [← Option.some.inj hs]
    exact Or.inr (Or.inr (Or.inr (Or.inr (Or.inl ⟨c, hc, rfl⟩))))
  · rename_i c hc
    rw [← Option.some.inj hs]
    exact Or.inr (Or.inr (Or.inr (Or.inr (Or.inr (Or.inl ⟨c, hc, rfl⟩)))))
  · rename_i c hc
    rw [← Option.some.inj hs]
    exact Or.inr (Or.inr (Or.inr (Or.inr (Or.inr (Or.inr ⟨c, hc, rfl⟩)))))

omit [DecidableEq τ] in
/-- What `leave` leaves as it is. -/
lemma leave_frame (s : State τ) (c : Caller) :
    (leave s c).manager = s.manager ∧ (leave s c).factory = s.factory ∧
      (leave s c).managers = s.managers ∧ (leave s c).factories = s.factories ∧
      (leave s c).threads = s.threads := by
  rcases c with _ | _ | _ <;> exact ⟨rfl, rfl, rfl, rfl, rfl⟩

end

/-! ## Overlapping calls -/

/-- Two factories were made, or one was and a thread is making one, or two threads are. -/
def Doomed (s : State τ) : Prop :=
  2 ≤ s.factories ∨ (1 ≤ s.factories ∧ ∃ t, (s.threads t).creating = true) ∨
    ∃ t u, t ≠ u ∧ (s.threads t).creating = true ∧ (s.threads u).creating = true

section

variable {s s' : State τ} {t : τ} {op : Op τ}

/-- A thread that moves on as a creating thread leaves the creating threads creating. -/
lemma creating_setPhase {p : Phase} (hp : (s.threads t).creating = true → p.creating = true) {u : τ}
    (hu : (s.threads u).creating = true) : ((s.setPhase t p).threads u).creating = true := by
  rw [threads_setPhase]
  split
  · rename_i hut
    exact hp (hut ▸ hu)
  · exact hu

/-- A thread stops creating only by making a factory. -/
lemma step_creating (hs : step s op = some s') :
    (s'.factories = s.factories ∧
      ∀ u, (s.threads u).creating = true → (s'.threads u).creating = true) ∨
    (s'.factories = s.factories + 1 ∧ ∃ t, ∀ u, u ≠ t → (s.threads u).creating = true →
      (s'.threads u).creating = true) := by
  rcases op with ⟨t, caller, createContext⟩ | t
  · obtain ⟨hidle, rfl | ⟨ctx, n, rfl⟩⟩ := step_call hs
    · exact Or.inl ⟨rfl, fun u hu => hu⟩
    · refine Or.inl ⟨rfl, fun u hu => ?_⟩
      have hstays := creating_setPhase (t := t) (p := .checkFactory caller)
        (fun h => by rw [hidle] at h; exact h) hu
      exact hstays
  · rcases advance_cases hs with ⟨c, hc, -, rfl⟩ | ⟨c, hc, -, rfl⟩ | ⟨c, hc, -, rfl⟩ |
      ⟨c, hc, -, rfl⟩ | ⟨c, hc, rfl⟩ | ⟨c, hc, rfl⟩ | ⟨c, hc, rfl⟩
    · exact Or.inl ⟨rfl, fun u hu => creating_setPhase (fun _ => rfl) hu⟩
    · exact Or.inl ⟨rfl, fun u hu => creating_setPhase (fun h => by rw [hc] at h; exact h) hu⟩
    · exact Or.inl ⟨rfl, fun u hu => creating_setPhase (fun _ => rfl) hu⟩
    · exact Or.inl ⟨rfl, fun u hu => creating_setPhase (fun _ => rfl) hu⟩
    · refine Or.inl ⟨rfl, fun u hu => ?_⟩
      have hstays := creating_setPhase (t := t) (p := .createFactory c) (fun _ => rfl) hu
      exact hstays
    · refine Or.inr ⟨rfl, t, fun u hut hu => ?_⟩
      rw [threads_setPhase, if_neg hut]
      exact hu
    · obtain ⟨-, -, -, hfactories, hthreads⟩ := leave_frame s c
      refine Or.inl ⟨hfactories, fun u hu => ?_⟩
      rw [threads_setPhase, hthreads]
      split
      · rename_i hut
        rw [hut, hc] at hu
        exact hu
      · exact hu

/-- Nothing makes up for it. -/
lemma Doomed.step (h : Doomed s) (hs : step s op = some s') : Doomed s' := by
  rcases step_creating hs with ⟨hfactories, hkeep⟩ | ⟨hfactories, t, hkeep⟩
  · rcases h with h | ⟨h, u, hu⟩ | ⟨u, v, huv, hu, hv⟩
    · exact Or.inl (hfactories ▸ h)
    · exact Or.inr (Or.inl ⟨hfactories ▸ h, u, hkeep u hu⟩)
    · exact Or.inr (Or.inr ⟨u, v, huv, hkeep u hu, hkeep v hv⟩)
  · rcases h with h | ⟨h, -⟩ | ⟨u, v, huv, hu, hv⟩
    · exact Or.inl (by omega)
    · exact Or.inl (by omega)
    · -- one of the two is left
      by_cases hut : u = t
      · exact Or.inr (Or.inl ⟨by omega, v, hkeep v (fun hvt => huv (hut.trans hvt.symm)) hv⟩)
      · exact Or.inr (Or.inl ⟨by omega, u, hkeep u hut hu⟩)

/-- Two threads are creating after the second check. -/
lemma doomed_of_not_noOverlap (h : ¬ NoOverlap s op) (hs : step s op = some s') : Doomed s' := by
  rcases op with ⟨t, caller, createContext⟩ | t
  · exact absurd trivial h
  · unfold NoOverlap at h
    push Not at h
    obtain ⟨c, hc, hnone, u, hu⟩ := h
    have hu : (s.threads u).creating = true := by simpa using hu
    have hut : u ≠ t := by
      rintro rfl
      rw [hc] at hu
      exact Bool.false_ne_true hu
    have hs' : s' = s.setPhase t (.checkManager c) := by
      change advance s t = some s' at hs
      unfold advance at hs
      rw [hc, hnone] at hs
      exact (Option.some.inj hs).symm
    rw [hs']
    refine Or.inr (Or.inr ⟨t, u, hut.symm, ?_, ?_⟩)
    · rw [threads_setPhase, if_pos rfl]
      rfl
    · rw [threads_setPhase, if_neg hut]
      exact hu

end

/-! ## Calls that do not overlap -/

/-- What a thread may rely on: before it makes the manager there is none, before it makes the
factory there is a manager and no factory, and behind `EnsureSurfaceFactory` there is a factory. -/
def PhaseRight (manager : Option ℕ) (factory : Option SurfaceFactory) : Phase → Prop
  | .idle | .checkFactory _ => True
  | .checkManager _ => factory = none
  | .createManager _ => manager = none ∧ factory = none
  | .createFactory _ => manager.isSome = true ∧ factory = none
  | .leave _ => factory.isSome = true

/-- What holds as long as calls do not overlap: one thread is creating at most, the threads may rely
on what they found, and the factory, the callers and the event source have the manager and the
factory of the platform. -/
structure Right (s : State τ) : Prop where
  managers_eq : s.managers = s.manager.isSome.toNat
  factories_eq : s.factories = s.factory.isSome.toNat
  one : ∀ t u, (s.threads t).creating = true → (s.threads u).creating = true → t = u
  phases : ∀ t, PhaseRight s.manager s.factory (s.threads t)
  factory : ∀ f, s.factory = some f → s.manager.isSome = true ∧ f.manager = s.manager
  handedOut : ∀ f ∈ s.handedOut, f.isSome = true ∧ f = s.factory
  eventSource : ∀ e, s.eventSource = some e → e.manager.isSome = true ∧ e.manager = s.manager

section

variable {s s' : State τ} {t : τ} {op : Op τ}

lemma PhaseRight.of_not_creating {manager : Option ℕ} {factory : Option SurfaceFactory} {p : Phase}
    (h : PhaseRight manager factory p) (hp : ¬ p.creating = true) (manager' : Option ℕ) :
    PhaseRight manager' factory p := by
  rcases p with _ | _ | _ | _ | _ | _
  · trivial
  · trivial
  · exact absurd rfl hp
  · exact absurd rfl hp
  · exact absurd rfl hp
  · exact h

lemma phaseRight_some {p : Phase} (hp : ¬ p.creating = true) (manager : Option ℕ)
    (f : SurfaceFactory) : PhaseRight manager (some f) p := by
  rcases p with _ | _ | _ | _ | _ | _
  · trivial
  · trivial
  · exact absurd rfl hp
  · exact absurd rfl hp
  · exact absurd rfl hp
  · rfl

omit [DecidableEq τ] in
/-- Behind `EnsureSurfaceFactory` there is a factory. -/
lemma Right.exists_factory (h : Right s) {c : Caller} (hc : s.threads t = .leave c) :
    ∃ f, s.factory = some f := by
  have hphase := h.phases t
  rw [hc] at hphase
  exact Option.isSome_iff_exists.mp hphase

/-- Moving on keeps one thread creating at most, if the thread was creating before or no other one
is. -/
lemma Right.one_setPhase (h : Right s) {p : Phase}
    (hp : p.creating = true → (s.threads t).creating = true ∨
      ∀ u, u ≠ t → ¬ (s.threads u).creating = true) (u v : τ)
    (hu : ((s.setPhase t p).threads u).creating = true)
    (hv : ((s.setPhase t p).threads v).creating = true) : u = v := by
  rw [threads_setPhase] at hu hv
  split at hu
  · rename_i hut
    split at hv
    · rename_i hvt
      exact hut.trans hvt.symm
    · rename_i hvt
      rcases hp hu with ht | hothers
      · exact hut.trans (h.one t v ht hv)
      · exact absurd hv (hothers v hvt)
  · rename_i hut
    split at hv
    · rename_i hvt
      rcases hp hv with ht | hothers
      · exact (h.one u t hu ht).trans hvt.symm
      · exact absurd hu (hothers u hut)
    · exact h.one u v hu hv

/-- A thread moves on to a phase in which it relies on what there is. -/
lemma Right.setPhase (h : Right s) {p : Phase} (hright : PhaseRight s.manager s.factory p)
    (hp : p.creating = true → (s.threads t).creating = true ∨
      ∀ u, u ≠ t → ¬ (s.threads u).creating = true) : Right (s.setPhase t p) where
  managers_eq := h.managers_eq
  factories_eq := h.factories_eq
  one := h.one_setPhase hp
  phases u := by
    rw [threads_setPhase]
    split
    · exact hright
    · exact h.phases u
  factory := h.factory
  handedOut := h.handedOut
  eventSource := h.eventSource

/-- The thread that is creating makes the manager. -/
lemma Right.createManager (h : Right s) {c : Caller} (hc : s.threads t = .createManager c) :
    Right (State.setPhase { s with manager := some s.managers, managers := s.managers + 1 } t
      (.createFactory c)) := by
  have hphase := h.phases t
  have hcreating : (s.threads t).creating = true := by rw [hc]; rfl
  rw [hc] at hphase
  obtain ⟨hmanager, hfactory⟩ := hphase
  have hnone : s.managers = 0 := by rw [h.managers_eq, hmanager]; rfl
  refine ⟨congrArg (· + 1) hnone, h.factories_eq, ?_, fun u => ?_, ?_, h.handedOut, ?_⟩
  · exact h.one_setPhase fun _ => Or.inl hcreating
  · rw [threads_setPhase]
    split
    · exact ⟨rfl, hfactory⟩
    · rename_i hut
      exact (h.phases u).of_not_creating (fun hu => hut (h.one u t hu hcreating)) _
  · intro f hf
    exact absurd (hfactory.symm.trans hf) (Option.some_ne_none f).symm
  · intro e he
    obtain ⟨hsome, heq⟩ := h.eventSource e he
    rw [heq, hmanager] at hsome
    exact absurd hsome Bool.false_ne_true

/-- The thread that is creating makes the factory. -/
lemma Right.createFactory (h : Right s) {c : Caller} (hc : s.threads t = .createFactory c) :
    Right (State.setPhase
      { s with factory := some ⟨s.factories, s.manager⟩, factories := s.factories + 1 } t
      (.leave c)) := by
  have hphase := h.phases t
  have hcreating : (s.threads t).creating = true := by rw [hc]; rfl
  rw [hc] at hphase
  obtain ⟨hmanager, hfactory⟩ := hphase
  have hnone : s.factories = 0 := by rw [h.factories_eq, hfactory]; rfl
  refine ⟨h.managers_eq, congrArg (· + 1) hnone, ?_, fun u => ?_, ?_, fun f hf => ?_,
    h.eventSource⟩
  · exact h.one_setPhase fun hp => absurd hp Bool.false_ne_true
  · rw [threads_setPhase]
    split
    · rfl
    · rename_i hut
      exact phaseRight_some (fun hu => hut (h.one u t hu hcreating)) _ _
  · intro f hf
    rw [← Option.some.inj hf]
    exact ⟨hmanager, rfl⟩
  · -- nothing was handed out before
    obtain ⟨hsome, heq⟩ := h.handedOut f hf
    rw [heq, hfactory] at hsome
    exact absurd hsome Bool.false_ne_true

/-- What the callers are given is there. -/
lemma Right.leave (h : Right s) {c : Caller} (hc : s.threads t = .leave c) :
    Right ((OzonePlatform.leave s c).setPhase t .idle) := by
  obtain ⟨f, hf⟩ := h.exists_factory hc
  have hleft : Right (OzonePlatform.leave s c) := by
    rcases c with _ | _ | _
    · refine { h with handedOut := fun g hg => ?_ }
      rcases List.mem_append.mp hg with hg | hg
      · exact h.handedOut g hg
      · rw [List.mem_singleton.mp hg]
        exact ⟨by rw [hf]; rfl, rfl⟩
    · refine { h with eventSource := fun e he => ?_ }
      rw [← Option.some.inj he]
      exact ⟨(h.factory f hf).1, rfl⟩
    · exact h
  exact hleft.setPhase trivial fun hp => absurd hp Bool.false_ne_true

/-- Steps that do not overlap keep everything right. -/
lemma Right.step (h : Right s) (hop : NoOverlap s op) (hs : step s op = some s') : Right s' := by
  rcases op with ⟨t, caller, createContext⟩ | t
  · obtain ⟨hidle, rfl | ⟨ctx, n, rfl⟩⟩ := step_call hs
    · exact h
    · have hctx : Right { s with screenCtx := ctx, ctxs := n } := { h with }
      exact hctx.setPhase trivial fun hp => absurd hp Bool.false_ne_true
  · rcases advance_cases hs with ⟨c, hc, hnone, rfl⟩ | ⟨c, hc, hsome, rfl⟩ | ⟨c, hc, hnone, rfl⟩ |
      ⟨c, hc, hsome, rfl⟩ | ⟨c, hc, rfl⟩ | ⟨c, hc, rfl⟩ | ⟨c, hc, rfl⟩
    · refine h.setPhase hnone fun _ => Or.inr fun u _ hu => ?_
      rw [hop c hc hnone u] at hu
      exact Bool.false_ne_true hu
    · exact h.setPhase hsome fun hp => absurd hp Bool.false_ne_true
    · have hphase := h.phases t
      rw [hc] at hphase
      exact h.setPhase ⟨hnone, hphase⟩ fun _ => Or.inl (by rw [hc]; rfl)
    · have hphase := h.phases t
      rw [hc] at hphase
      exact h.setPhase ⟨hsome, hphase⟩ fun _ => Or.inl (by rw [hc]; rfl)
    · exact h.createManager hc
    · exact h.createFactory hc
    · exact h.leave hc

omit [DecidableEq τ] in
lemma start_right : Right (start τ) where
  managers_eq := rfl
  factories_eq := rfl
  one := fun _ _ h => absurd h Bool.false_ne_true
  phases := fun _ => trivial
  factory := fun _ h => absurd h.symm (Option.some_ne_none _)
  handedOut := List.forall_mem_nil _
  eventSource := fun _ h => absurd h.symm (Option.some_ne_none _)

omit [DecidableEq τ] in
lemma Right.current (h : Right s) : Current s where
  managers_le := h.managers_eq ▸ Bool.toNat_le _
  factories_le := h.factories_eq ▸ Bool.toNat_le _
  factory f hf := (h.factory f hf).2
  handedOut := h.handedOut
  eventSource := h.eventSource

/-- **One factory.**  Once all threads are through, there is one window manager and one surface
factory, and everything that was handed out is what the platform has, if and only if no thread found
the factory missing while another one was making it. -/
theorem current_iff_noOverlap {ops : List (Op τ)} (hrun : runFrom step (start τ) ops = some s)
    (hquiescent : s.Quiescent) : Current s ↔ StepsMeet step NoOverlap (start τ) ops := by
  constructor
  · intro h
    refine stepsMeet_of_not_trap (I := fun _ => True) (T := Doomed) trivial
      (fun _ _ _ _ _ => trivial) (fun _ _ _ _ hdoomed hs => hdoomed.step hs)
      (fun _ _ _ _ hop hs => doomed_of_not_noOverlap hop hs) hrun ?_
    -- nobody is creating any more
    have hnobody : ∀ t, ¬ (s.threads t).creating = true := by
      intro t ht
      rw [hquiescent t] at ht
      exact Bool.false_ne_true ht
    rintro (htwo | ⟨-, t, ht⟩ | ⟨t, -, -, ht, -⟩)
    · exact absurd h.factories_le (Nat.not_le.mpr htwo)
    · exact hnobody t ht
    · exact hnobody t ht
  · intro h
    have halways : Always step Right (start τ) ops :=
      h.always start_right fun _ _ _ hright hop hs => hright.step hop hs
    have hright : Right s := always_iff_forall_prefix.mp halways ops List.prefix_rfl s hrun
    exact hright.current

end

/-- The main thread initialises the UI while the GPU thread asks for the factory.  Both find neither
factory nor manager, and the GPU thread makes its own when the main thread is through. -/
def overlapOps : List (Op Bool) :=
  [.call true .initializeUI true, .call false .getSurfaceFactoryOzone true, .advance true,
    .advance false, .advance true, .advance false, .advance true, .advance true, .advance true,
    .advance false, .advance false, .advance false]

/-- The event source is left with a window manager that was replaced. -/
theorem current_iff_noOverlap_overlap :
    ∃ s, runFrom step (start Bool) overlapOps = some s ∧ s.eventSource = some ⟨some 0, some 0⟩ ∧
      s.manager = some 1 ∧ ¬ StepsMeet step NoOverlap (start Bool) overlapOps := by
  obtain ⟨s, hrun⟩ : ∃ s, runFrom step (start Bool) overlapOps = some s := ⟨_, rfl⟩
  have hsource : (runFrom step (start Bool) overlapOps).map State.eventSource =
      some (some ⟨some 0, some 0⟩) := rfl
  have hmanager : (runFrom step (start Bool) overlapOps).map State.manager = some (some 1) := rfl
  have hthreads : ∀ t, (runFrom step (start Bool) overlapOps).map (fun s => s.threads t) =
      some .idle := by
    rintro (_ | _) <;> rfl
  rw [hrun] at hsource hmanager
  have hquiescent : s.Quiescent := fun t => by
    have ht := hthreads t
    rw [hrun] at ht
    exact Option.some.inj ht
  refine ⟨s, hrun, Option.some.inj hsource, Option.some.inj hmanager, fun h => ?_⟩
  have hcurrent := (current_iff_noOverlap hrun hquiescent).mpr h
  have heq := (hcurrent.eventSource _ (Option.some.inj hsource)).2
  rw [Option.some.inj hmanager] at heq
  exact absurd heq (by decide)

/-! ## The destructor -/

/-- What the destructor destroys and uses. -/
inductive Resource
  | ctx (n : ℕ)
  | factory (n : ℕ)
  | manager (n : ℕ)
  deriving DecidableEq, Repr

/-- `~OzonePlatformQnxScreen`: its body destroys the context, then the members go in the reverse
order of their declaration.  `~QnxScreenEventSource` stops the events of its context. -/
def destructor (s : State τ) : List (Lifetimes.Action Resource) :=
  (s.screenCtx.map fun c => .destroy (.ctx c)).toList ++
    ((s.eventSource.bind EventSource.ctx).map fun c => .use (.ctx c)).toList ++
    (s.factory.map fun f => .destroy (.factory f.id)).toList ++
    (s.manager.map fun m => .destroy (.manager m)).toList

/-- Either no context was ever made, and nobody is behind its making, or the event source has the
context of the platform, unless somebody still is. -/
def CtxRight (s : State τ) : Prop :=
  (s.ctxs = 0 ∧ s.screenCtx = none ∧ s.eventSource = none ∧
      ∀ t, (s.threads t).caller ≠ some .initializeUI) ∨
    (0 < s.ctxs ∧ ∃ c, s.screenCtx = some c ∧
      ((∃ m, s.eventSource = some ⟨some c, m⟩) ∨ ∃ t, (s.threads t).caller = some .initializeUI))

section

variable {s s' : State τ} {t : τ} {op : Op τ}

/-- A thread that is not in `InitializeUI` moves on. -/
lemma CtxRight.setPhase (h : CtxRight s) {p : Phase}
    (hold : (s.threads t).caller = some .initializeUI → p.caller = some .initializeUI)
    (hnew : p.caller = some .initializeUI → (s.threads t).caller = some .initializeUI) :
    CtxRight (s.setPhase t p) := by
  rcases h with ⟨hctxs, hctx, hsource, hnobody⟩ | ⟨hctxs, c, hctx, hsource | ⟨u, hu⟩⟩
  · refine Or.inl ⟨hctxs, hctx, hsource, fun u hu => ?_⟩
    rw [threads_setPhase] at hu
    split at hu
    · exact hnobody t (hnew hu)
    · exact hnobody u hu
  · exact Or.inr ⟨hctxs, c, hctx, Or.inl hsource⟩
  · refine Or.inr ⟨hctxs, c, hctx, Or.inr ⟨u, ?_⟩⟩
    rw [threads_setPhase]
    split
    · rename_i hut
      exact hold (hut ▸ hu)
    · exact hu

/-- A step inside `EnsureSurfaceFactory`. -/
lemma CtxRight.setPhase_of_caller (h : CtxRight s) {p : Phase}
    (hp : p.caller = (s.threads t).caller) : CtxRight (s.setPhase t p) :=
  h.setPhase (fun hold => hp.trans hold) fun hnew => hp.symm.trans hnew

/-- Behind `EnsureSurfaceFactory`, `InitializeUI` gives its context to the event source. -/
lemma CtxRight.leave (h : CtxRight s) {c : Caller} (hc : s.threads t = .leave c) :
    CtxRight ((OzonePlatform.leave s c).setPhase t .idle) := by
  rcases c with _ | _ | _
  · have hleft : CtxRight (OzonePlatform.leave s .getSurfaceFactoryOzone) := h
    refine hleft.setPhase (fun hold => ?_) fun hnew => absurd hnew.symm (Option.some_ne_none _)
    change (s.threads t).caller = _ at hold
    rw [hc] at hold
    exact absurd hold (by decide)
  · rcases h with ⟨-, -, -, hnobody⟩ | ⟨hctxs, c, hctx, -⟩
    · exact absurd (by rw [hc]; rfl) (hnobody t)
    · exact Or.inr ⟨hctxs, c, hctx, Or.inl ⟨s.manager, by rw [← hctx]; rfl⟩⟩
  · refine CtxRight.setPhase h (fun hold => ?_) fun hnew => absurd hnew.symm (Option.some_ne_none _)
    rw [hc] at hold
    exact absurd hold (by decide)

/-- Every step keeps the event source on the context of the platform. -/
lemma CtxRight.step (h : CtxRight s) (hs : step s op = some s') : CtxRight s' := by
  rcases op with ⟨t, caller, createContext⟩ | t
  · obtain ⟨hidle, hs⟩ := Option.ite_none_right_eq_some.mp hs
    rw [← Option.some.inj hs]
    have hother : ∀ {c : Caller}, c ≠ .initializeUI →
        CtxRight (s.setPhase t (.checkFactory c)) := by
      intro c hne
      refine h.setPhase (fun hold => ?_) fun hnew => absurd (Option.some.inj hnew) hne
      rw [hidle] at hold
      exact absurd hold.symm (Option.some_ne_none _)
    rcases caller with _ | _ | _
    · exact hother (by decide)
    · rcases createContext with _ | _
      · exact h
      · refine Or.inr ⟨Nat.succ_pos _, _, rfl, Or.inr ⟨t, ?_⟩⟩
        change ((State.setPhase _ t _).threads t).caller = _
        rw [threads_setPhase, if_pos rfl]
        rfl
    · exact hother (by decide)
  · rcases advance_cases hs with ⟨c, hc, -, rfl⟩ | ⟨c, hc, -, rfl⟩ | ⟨c, hc, -, rfl⟩ |
      ⟨c, hc, -, rfl⟩ | ⟨c, hc, rfl⟩ | ⟨c, hc, rfl⟩ | ⟨c, hc, rfl⟩
    · exact h.setPhase_of_caller (by rw [hc]; rfl)
    · exact h.setPhase_of_caller (by rw [hc]; rfl)
    · exact h.setPhase_of_caller (by rw [hc]; rfl)
    · exact h.setPhase_of_caller (by rw [hc]; rfl)
    · have hmade : CtxRight { s with manager := some s.managers, managers := s.managers + 1 } := h
      exact hmade.setPhase_of_caller (by change _ = (s.threads t).caller; rw [hc]; rfl)
    · have hmade : CtxRight
          { s with factory := some ⟨s.factories, s.manager⟩, factories := s.factories + 1 } := h
      exact hmade.setPhase_of_caller (by change _ = (s.threads t).caller; rw [hc]; rfl)
    · exact h.leave hc

/-- **The destructor.**  When all threads are through, the destructor uses no context that it has
destroyed if and only if no context was ever made: once `InitializeUI` has succeeded, the event
source stops the events of the context that the body of the destructor has destroyed before. -/
theorem destructor_safe_iff {ops : List (Op τ)} (hrun : runFrom step (start τ) ops = some s)
    (hquiescent : s.Quiescent) : Lifetimes.Safe (destructor s) ↔ s.ctxs = 0 := by
  have hstart : CtxRight (start τ) :=
    Or.inl ⟨rfl, rfl, rfl, fun _ h => absurd h.symm (Option.some_ne_none _)⟩
  have h : CtxRight s :=
    (Reachable.refl.runFrom hrun).invariant hstart fun _ _ _ h hs => h.step hs
  unfold destructor
  rcases h with ⟨hctxs, hctx, hsource, -⟩ | ⟨hctxs, c, hctx, ⟨m, hsource⟩ | ⟨t, ht⟩⟩
  · refine iff_of_true (Lifetimes.safe_of_forall_use fun o ho => ?_) hctxs
    rw [hctx, hsource] at ho
    rcases s.factory with _ | f <;> rcases s.manager with _ | m <;> simp at ho
  · refine iff_of_false (fun hsafe => ?_) (Nat.pos_iff_ne_zero.mp hctxs)
    rw [hctx, hsource] at hsafe
    have hrest : Lifetimes.Safe ([.destroy (Resource.ctx c)] ++ .use (Resource.ctx c) ::
        ((s.factory.map fun f => .destroy (Resource.factory f.id)).toList ++
          (s.manager.map fun m => .destroy (Resource.manager m)).toList)) := by simpa using hsafe
    exact hrest.destroy_notMem List.mem_cons_self
  · rw [hquiescent t] at ht
    exact absurd ht.symm (Option.some_ne_none _)

end

/-- The platform is initialised on one thread. -/
def initializeOps : List (Op Unit) :=
  [.call () .initializeUI true, .advance (), .advance (), .advance (), .advance (), .advance ()]

/-- The initialised platform must not be destroyed. -/
theorem destructor_safe_iff_initialized :
    ∃ s, runFrom step (start Unit) initializeOps = some s ∧ ¬ Lifetimes.Safe (destructor s) := by
  obtain ⟨s, hrun⟩ : ∃ s, runFrom step (start Unit) initializeOps = some s := ⟨_, rfl⟩
  have hctxs : (runFrom step (start Unit) initializeOps).map State.ctxs = some 1 := rfl
  have hthread : (runFrom step (start Unit) initializeOps).map (fun s => s.threads ()) =
      some .idle := rfl
  rw [hrun] at hctxs hthread
  refine ⟨s, hrun, fun hsafe => ?_⟩
  have hnone := (destructor_safe_iff hrun fun _ => Option.some.inj hthread).mp hsafe
  exact absurd ((Option.some.inj hctxs).symm.trans hnone) (by decide)

end OzonePlatform

end ChromiumQnx
