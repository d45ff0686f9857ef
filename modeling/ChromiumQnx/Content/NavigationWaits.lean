import ChromiumQnx.Foundation.Lifetimes

/-!
# The navigation waits

Before it sends `CommitNavigation` to a renderer in another process, the browser runs pending tasks
in nested loops: thirty rounds in `NavigationRequest::CommitNavigation`, and up to fifteen and six
seconds in `GetNavigationClientFromInterfaceProvider` of the frame host.  Such tasks may destroy the
frame host or the navigation request.

The functions are modelled by the list of what they do to the two objects, for tasks and answers
given by the environment.  The main result says when they use no object that is destroyed.
-/

namespace ChromiumQnx

open Lifetimes

/-! ## What the functions do -/

/-- The objects whose lifetimes matter. -/
inductive NavigationObject where
  | frameHost
  | navigationRequest
  deriving DecidableEq, Repr

/-- `base::RunLoop().RunUntilIdle()`: the tasks it runs, each with the objects it destroys. -/
abbrev NestedLoop := List (List NavigationObject)

/-- What a nested loop does to the objects. -/
def NestedLoop.actions (loop : NestedLoop) : List (Action NavigationObject) :=
  loop.flatten.map Action.destroy

/-- A round of the wait for the renderer: the tasks, and the answer of `IsReady`. -/
structure WaitRound where
  tasks : NestedLoop
  ready : Bool

/-- `WaitForRendererProcessReady`, with the rounds that fit before the deadline: every round asks
the frame host, and so do the lines that log the end of the wait. -/
def waitForRendererProcessReady : List WaitRound → List (Action NavigationObject)
  | [] => [.use .frameHost]
  | r :: rest =>
    r.tasks.actions ++ .use .frameHost ::
      if r.ready then [.use .frameHost] else waitForRendererProcessReady rest

/-- The nested loops that the wait runs: those of the rounds up to the first answer that the process
is ready. -/
def waitLoops : List WaitRound → List NestedLoop
  | [] => []
  | r :: rest => r.tasks :: if r.ready then [] else waitLoops rest

/-- `PumpAfterNavigationClientGetInterface`, with the loops that fit before the deadline: behind
them the frame host is asked for its process and whether it is live. -/
def pumpAfterNavigationClientGetInterface (loops : List NestedLoop) :
    List (Action NavigationObject) :=
  loops.flatMap NestedLoop.actions ++ [.use .frameHost, .use .frameHost]

/-- What `GetNavigationClientFromInterfaceProvider` meets: the `--single-process` switch, the rounds
of the wait and the loops of the pump. -/
structure ProviderWorld where
  singleProcess : Bool
  wait : List WaitRound
  pump : List NestedLoop

/-- `GetNavigationClientFromInterfaceProvider`: between the two waits it logs the process and asks
for the associated interfaces. -/
def getNavigationClientFromInterfaceProvider (w : ProviderWorld) : List (Action NavigationObject) :=
  if w.singleProcess then [.use .frameHost]
  else
    waitForRendererProcessReady w.wait ++ [.use .frameHost, .use .frameHost] ++
      pumpAfterNavigationClientGetInterface w.pump

/-- The nested loops that it runs. -/
def ProviderWorld.loops (w : ProviderWorld) : List NestedLoop :=
  if w.singleProcess then [] else waitLoops w.wait ++ w.pump

/-- What `NavigationRequest::CommitNavigation` meets behind its last check of `weak_self`: the
switch, the tasks of its thirty rounds, and, if the frame host comes to send the commit, what it
meets when the request asks it for a client (nothing when the request has one). -/
structure CommitWorld where
  singleProcess : Bool
  rounds : Fin 30 → NestedLoop
  sendCommit : Option (Option ProviderWorld)

/-- `RenderFrameHostImpl::CommitNavigation`, in so far as it sends the commit: the client is taken
from the request, and `SendCommitNavigation` looks at the request and at the frame host's process.
-/
def renderFrameHostCommitNavigation (w : CommitWorld) : List (Action NavigationObject) :=
  match w.sendCommit with
  | none => []
  | some provider =>
    .use .navigationRequest ::
      (provider.toList.flatMap getNavigationClientFromInterfaceProvider ++
        [.use .navigationRequest, .use .frameHost])

/-- The nested loops of `NavigationRequest::CommitNavigation` itself. -/
def CommitWorld.roundLoops (w : CommitWorld) : List NestedLoop :=
  if w.singleProcess then [] else List.ofFn w.rounds

/-- `NavigationRequest::CommitNavigation` behind its last check of `weak_self`: the thirty rounds,
the call of the frame host, and the update of the request's timings. -/
def navigationRequestCommitNavigation (w : CommitWorld) : List (Action NavigationObject) :=
  w.roundLoops.flatMap NestedLoop.actions ++ [.use .navigationRequest, .use .frameHost] ++
    renderFrameHostCommitNavigation w ++ [.use .navigationRequest]

/-- The nested loops that run before the commit is sent. -/
def CommitWorld.loops (w : CommitWorld) : List NestedLoop :=
  w.roundLoops ++ (w.sendCommit.bind id).toList.flatMap ProviderWorld.loops

/-- A task of a nested loop destroys the object. -/
def Destroyed (o : NavigationObject) (loops : List NestedLoop) : Prop :=
  ∃ loop ∈ loops, ∃ task ∈ loop, o ∈ task

/-! ## What they destroy and use -/

lemma destroyed_append {o : NavigationObject} {a b : List NestedLoop} :
    Destroyed o (a ++ b) ↔ Destroyed o a ∨ Destroyed o b := by
  unfold Destroyed
  simp only [List.mem_append, or_and_right, exists_or]

lemma destroyed_cons {o : NavigationObject} {loop : NestedLoop} {loops : List NestedLoop} :
    Destroyed o (loop :: loops) ↔ (∃ task ∈ loop, o ∈ task) ∨ Destroyed o loops := by
  unfold Destroyed
  simp only [List.mem_cons, exists_eq_or_imp]

lemma not_destroyed_nil (o : NavigationObject) : ¬ Destroyed o [] := by
  rintro ⟨loop, hloop, -⟩
  cases hloop

lemma destroy_mem_actions_iff {o : NavigationObject} {loop : NestedLoop} :
    .destroy o ∈ loop.actions ↔ ∃ task ∈ loop, o ∈ task := by
  unfold NestedLoop.actions
  rw [List.mem_map]
  constructor
  · rintro ⟨o', ho', heq⟩
    cases heq
    exact List.mem_flatten.mp ho'
  · intro h
    exact ⟨o, List.mem_flatten.mpr h, rfl⟩

lemma use_notMem_actions (o : NavigationObject) (loop : NestedLoop) : .use o ∉ loop.actions := by
  intro h
  obtain ⟨o', -, heq⟩ := List.mem_map.mp h
  cases heq

/-- The loops run one after the other. -/
lemma destroy_mem_flatMap_iff {o : NavigationObject} {loops : List NestedLoop} :
    .destroy o ∈ loops.flatMap NestedLoop.actions ↔ Destroyed o loops := by
  rw [List.mem_flatMap]
  exact exists_congr fun loop => and_congr_right fun _ => destroy_mem_actions_iff

lemma use_notMem_flatMap (o : NavigationObject) (loops : List NestedLoop) :
    .use o ∉ loops.flatMap NestedLoop.actions := by
  intro h
  obtain ⟨loop, -, hmem⟩ := List.mem_flatMap.mp h
  exact use_notMem_actions o loop hmem

/-- The wait destroys what its loops destroy. -/
lemma destroy_mem_wait_iff {o : NavigationObject} {rounds : List WaitRound} :
    .destroy o ∈ waitForRendererProcessReady rounds ↔ Destroyed o (waitLoops rounds) := by
  induction rounds with
  | nil => exact iff_of_false (by simp [waitForRendererProcessReady]) (not_destroyed_nil o)
  | cons r rest ih =>
    rw [waitLoops, destroyed_cons, waitForRendererProcessReady, List.mem_append,
      destroy_mem_actions_iff]
    refine or_congr_right ?_
    cases r.ready with
    | true => exact iff_of_false (by simp) (not_destroyed_nil o)
    | false =>
      rw [if_neg Bool.false_ne_true, if_neg Bool.false_ne_true, ← ih, List.mem_cons]
      exact or_iff_right nofun

/-- The wait uses the frame host only, and does so at its end. -/
lemma wait_eq_concat (rounds : List WaitRound) :
    ∃ init, waitForRendererProcessReady rounds = init ++ [.use .frameHost] ∧
      ∀ o, .use o ∈ init → o = .frameHost := by
  induction rounds with
  | nil => exact ⟨[], rfl, fun o h => absurd h List.not_mem_nil⟩
  | cons r rest ih =>
    obtain ⟨init, hinit, huse⟩ : ∃ init, (if r.ready then [.use .frameHost] else
        waitForRendererProcessReady rest) = init ++ [.use .frameHost] ∧
          ∀ o, .use o ∈ init → o = .frameHost := by
      cases r.ready with
      | true => exact ⟨[], rfl, fun o h => absurd h List.not_mem_nil⟩
      | false => exact ih
    refine ⟨r.tasks.actions ++ .use .frameHost :: init, ?_, fun o h => ?_⟩
    · rw [waitForRendererProcessReady, hinit, List.append_assoc, List.cons_append]
    · rcases List.mem_append.mp h with h | h
      · exact absurd h (use_notMem_actions o r.tasks)
      · rcases List.mem_cons.mp h with h | h
        · exact Action.use.inj h
        · exact huse o h

/-- The pump destroys what its loops destroy. -/
lemma destroy_mem_pump_iff {o : NavigationObject} {loops : List NestedLoop} :
    .destroy o ∈ pumpAfterNavigationClientGetInterface loops ↔ Destroyed o loops := by
  unfold pumpAfterNavigationClientGetInterface
  rw [List.mem_append, destroy_mem_flatMap_iff]
  exact or_iff_left (by simp)

lemma destroy_mem_provider_iff {o : NavigationObject} {w : ProviderWorld} :
    .destroy o ∈ getNavigationClientFromInterfaceProvider w ↔ Destroyed o w.loops := by
  unfold getNavigationClientFromInterfaceProvider ProviderWorld.loops
  cases w.singleProcess with
  | true => exact iff_of_false (by simp) (not_destroyed_nil o)
  | false =>
    rw [if_neg Bool.false_ne_true, if_neg Bool.false_ne_true, destroyed_append, List.mem_append,
      List.mem_append, destroy_mem_wait_iff, destroy_mem_pump_iff]
    exact or_congr_left (or_iff_left (by simp))

/-- The whole function uses the frame host only, and does so at its end. -/
lemma provider_eq_concat (w : ProviderWorld) :
    ∃ init, getNavigationClientFromInterfaceProvider w = init ++ [.use .frameHost] ∧
      ∀ o, .use o ∈ init → o = .frameHost := by
  unfold getNavigationClientFromInterfaceProvider pumpAfterNavigationClientGetInterface
  cases w.singleProcess with
  | true => exact ⟨[], rfl, fun o h => absurd h List.not_mem_nil⟩
  | false =>
    obtain ⟨wait, hwait, huse⟩ := wait_eq_concat w.wait
    refine ⟨waitForRendererProcessReady w.wait ++ [.use .frameHost, .use .frameHost] ++
      (w.pump.flatMap NestedLoop.actions ++ [.use .frameHost]), ?_, fun o h => ?_⟩
    · rw [if_neg Bool.false_ne_true, List.append_assoc, List.append_assoc, List.append_assoc,
        List.append_assoc]
      rfl
    · rw [hwait] at h
      simp only [List.mem_append, List.mem_cons, List.not_mem_nil, or_false, Action.use.injEq] at h
      rcases h with ((h | h) | h | h) | h | h
      · exact huse o h
      · exact h
      · exact h
      · exact h
      · exact absurd h (use_notMem_flatMap o w.pump)
      · exact h

lemma destroy_mem_renderFrameHostCommit_iff {o : NavigationObject} {w : CommitWorld} :
    .destroy o ∈ renderFrameHostCommitNavigation w ↔
      Destroyed o ((w.sendCommit.bind id).toList.flatMap ProviderWorld.loops) := by
  unfold renderFrameHostCommitNavigation
  cases w.sendCommit with
  | none => exact iff_of_false List.not_mem_nil (not_destroyed_nil o)
  | some provider =>
    cases provider with
    | none => exact iff_of_false (by simp) (not_destroyed_nil o)
    | some provider =>
      simp only [Option.toList_some, List.flatMap_cons, List.flatMap_nil, List.append_nil,
        Option.bind_some, id_eq, List.mem_cons, List.mem_append, reduceCtorEq, false_or,
        List.not_mem_nil, or_false, destroy_mem_provider_iff]

/-- Committing destroys what the nested loops destroy. -/
lemma destroy_mem_commit_iff {o : NavigationObject} {w : CommitWorld} :
    .destroy o ∈ navigationRequestCommitNavigation w ↔ Destroyed o w.loops := by
  unfold navigationRequestCommitNavigation CommitWorld.loops
  rw [destroyed_append, ← destroy_mem_renderFrameHostCommit_iff, ← destroy_mem_flatMap_iff]
  simp only [List.mem_append, List.mem_cons, reduceCtorEq, List.not_mem_nil, or_false]

/-- Behind its loops, committing uses the frame host once more. -/
lemma exists_commit_eq_frameHost (w : CommitWorld) :
    ∃ before after, navigationRequestCommitNavigation w = before ++ .use .frameHost :: after ∧
      ∀ o, .destroy o ∉ after := by
  unfold navigationRequestCommitNavigation renderFrameHostCommitNavigation
  cases w.sendCommit with
  | none =>
    refine ⟨w.roundLoops.flatMap NestedLoop.actions ++ [.use .navigationRequest],
      [.use .navigationRequest], ?_, by simp⟩
    simp only [List.append_assoc, List.cons_append, List.nil_append]
  | some provider =>
    refine ⟨w.roundLoops.flatMap NestedLoop.actions ++ [.use .navigationRequest, .use .frameHost] ++
      .use .navigationRequest :: (provider.toList.flatMap
        getNavigationClientFromInterfaceProvider ++ [.use .navigationRequest]),
      [.use .navigationRequest], ?_, by simp⟩
    simp only [List.append_assoc, List.cons_append, List.nil_append]

/-! ## When no destroyed object is used -/

/-- A run that uses the frame host only and ends with it, as the waits do. -/
lemma safe_iff_of_concat {actions : List (Action NavigationObject)}
    (h : ∃ init, actions = init ++ [.use .frameHost] ∧ ∀ o, .use o ∈ init → o = .frameHost) :
    Safe actions ↔ .destroy .frameHost ∉ actions := by
  obtain ⟨init, rfl, huse⟩ := h
  exact safe_concat_iff huse

/-- Committing is safe exactly when the nested loops destroy neither object. -/
lemma safe_commit_iff (w : CommitWorld) :
    Safe (navigationRequestCommitNavigation w) ↔
      ¬ Destroyed .frameHost w.loops ∧ ¬ Destroyed .navigationRequest w.loops := by
  rw [← destroy_mem_commit_iff, ← destroy_mem_commit_iff]
  constructor
  · intro h
    constructor
    · obtain ⟨before, after, heq, hafter⟩ := exists_commit_eq_frameHost w
      rw [heq] at h ⊢
      exact h.destroy_notMem_of_last (hafter _)
    · unfold navigationRequestCommitNavigation at h ⊢
      exact h.destroy_notMem_of_last List.not_mem_nil
  · rintro ⟨hhost, hrequest⟩
    apply safe_of_forall_use
    intro o _
    cases o with
    | frameHost => exact hhost
    | navigationRequest => exact hrequest

/-- **The nested loops and lifetimes.**  The wait, the pump, the function that runs both, and the
commit use no destroyed object, if and only if no task that their nested loops run destroys the
frame host, or, for the commit, the frame host or the navigation request. -/
theorem navigationWaits_safe_iff (rounds : List WaitRound) (loops : List NestedLoop)
    (p : ProviderWorld) (w : CommitWorld) :
    (Safe (waitForRendererProcessReady rounds) ↔ ¬ Destroyed .frameHost (waitLoops rounds)) ∧
    (Safe (pumpAfterNavigationClientGetInterface loops) ↔ ¬ Destroyed .frameHost loops) ∧
    (Safe (getNavigationClientFromInterfaceProvider p) ↔ ¬ Destroyed .frameHost p.loops) ∧
    (Safe (navigationRequestCommitNavigation w) ↔
      ¬ Destroyed .frameHost w.loops ∧ ¬ Destroyed .navigationRequest w.loops) := by
  refine ⟨?_, ?_, ?_, safe_commit_iff w⟩
  · rw [safe_iff_of_concat (wait_eq_concat rounds), destroy_mem_wait_iff]
  · rw [← destroy_mem_pump_iff]
    refine safe_iff_of_concat ⟨loops.flatMap NestedLoop.actions ++ [.use .frameHost], ?_, ?_⟩
    · rw [List.append_assoc]
      rfl
    · intro o h
      rcases List.mem_append.mp h with h | h
      · exact absurd h (use_notMem_flatMap o loops)
      · exact Action.use.inj (List.mem_singleton.mp h)
  · rw [safe_iff_of_concat (provider_eq_concat p), destroy_mem_provider_iff]

/-- A task of the first of the thirty rounds destroys the navigation request. -/
def requestDestroyed : CommitWorld where
  singleProcess := false
  rounds i := if i = 0 then [[.navigationRequest]] else []
  sendCommit := none

/-- The destroyed request is used behind the rounds. -/
theorem requestDestroyed_not_safe :
    ¬ Safe (navigationRequestCommitNavigation requestDestroyed) := by
  decide

end ChromiumQnx
