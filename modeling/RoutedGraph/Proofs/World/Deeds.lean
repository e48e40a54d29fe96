import RoutedGraph.Proofs.Transaction.Failures
import RoutedGraph.Proofs.World.History

/-!
# Deeds

A deed is what a program does with graphs: it makes them, reads and writes them,
clones elements between them, commits and rolls back through handles and without
them, and runs transactions on them.  What comes next may depend on everything
that was read or that failed before.  Beside the run, a deed has a history: the
steps that have reached the stores of graphs, one after the other.  The history
leads to the same stores as the run.
-/

namespace RoutedGraph

namespace World

/-- No store has changed, and no graph has been made. -/
structure SameGraphs (before after : World) : Prop where
  stores : after.stores = before.stores
  nextGraph : after.nextGraph = before.nextGraph

namespace SameGraphs

variable {before middle after : World}

theorem refl (world : World) : SameGraphs world world := ⟨rfl, rfl⟩

theorem trans (first : SameGraphs before middle) (second : SameGraphs middle after) :
    SameGraphs before after :=
  ⟨second.stores.trans first.stores, second.nextGraph.trans first.nextGraph⟩

theorem store (same : SameGraphs before after) (graph : GraphId) :
    after.store graph = before.store graph := by
  rw [World.store, World.store, same.stores]

theorem emit (same : SameGraphs before after) (event : LogEvent) :
    SameGraphs before (after.emit event) :=
  ⟨same.stores, same.nextGraph⟩

theorem perform (same : SameGraphs before after) (graph : GraphId) (step : GraphStep) :
    SameGraphs (before.perform graph step) (after.perform graph step) := by
  refine ⟨?_, by rw [nextGraph_perform, nextGraph_perform, same.nextGraph]⟩
  cases step with
  | write write => simp only [World.perform, World.write, setStore, same.stores, same.store]
  | cloneVertex source vertex =>
      simp only [World.perform, World.cloneVertex, emitAll_eq, same.store]
      split
      · exact same.stores
      · simp only [setStore, same.stores]
  | cloneEdge source edge options =>
      simp only [World.perform, World.cloneEdge, emitAll_eq, same.store]
      split
      · exact same.stores
      · simp only [setStore, same.stores]
  | commit =>
      simp only [World.perform, commitAll, World.emit, withHub, setStore, same.store, same.stores]
  | abort =>
      simp only [World.perform, abortAll, same.store]
      split
      · simp only [World.emit, withHub, setStore, same.stores]
      · exact same.stores

theorem take (same : SameGraphs before after) (step : WorldStep) :
    SameGraphs (before.take step) (after.take step) := by
  cases step with
  | make transactional config =>
      refine ⟨?_, ?_⟩
      · simp only [World.take, addGraph, addManager, setRegistry, setStore, same.stores,
          same.nextGraph, if_true]
      · rw [World.take, World.take, nextGraph_make, nextGraph_make, same.nextGraph]
  | on graph step => exact same.perform graph step

theorem takeAll (same : SameGraphs before after) (history : List WorldStep) :
    SameGraphs (before.takeAll history) (after.takeAll history) := by
  induction history generalizing before after with
  | nil => exact same
  | cons step rest ih => exact ih (same.take step)

end SameGraphs

/-- A boundary of a resource is a step if the resource is a graph. -/
def boundarySteps (resource : ResourceId) (step : GraphStep) : List WorldStep :=
  match resource with
  | .graph id => [.on id step]
  | .external _ => []

/-- Only the base strategy reaches the resource, and only through a live handle. -/
def handleSteps (world : World) (handle : Handle) (step : GraphStep) : List WorldStep :=
  if world.isLive handle ∧ handle.strategy = .base then
    boundarySteps handle.key.resource step
  else []

def closeSteps (world : World) (id : ManagerId) : List WorldStep :=
  match (world.manager id).config.implicit with
  | .commit => boundarySteps (world.manager id).resource .commit
  | .rollback => boundarySteps (world.manager id).resource .abort
  | .ignore => []

/-- The steps of opening a scope. -/
def openSteps (world : World) (thread : ThreadId) (id : ManagerId) (nesting : Bool) :
    List WorldStep :=
  match Strategy.select (world.isNative id) (world.depth thread id) nesting with
  | .error _ => []
  | .ok strategy => if strategy.isReal then world.closeSteps id else []

/-- The steps of ending a scope as its body ended. -/
def concludeSteps (world : World) (handle : Handle) {α : Type} : Outcome α → List WorldStep
  | .done _ =>
      match world.commit handle with
      | (.ok (), _) => world.handleSteps handle .commit
      | (.error _, refused) =>
          world.handleSteps handle .commit ++ refused.handleSteps handle .abort
  | .failed _ => world.handleSteps handle .abort
  | .panicked _ => world.handleSteps handle .abort

section Boundaries

variable (world : World)

theorem sameGraphs_commitAll (resource : ResourceId) :
    SameGraphs (world.takeAll (boundarySteps resource .commit)) (world.commitAll resource).2 := by
  cases resource with
  | graph id => exact .refl _
  | external number => exact ⟨rfl, rfl⟩

theorem sameGraphs_abortAll (resource : ResourceId) :
    SameGraphs (world.takeAll (boundarySteps resource .abort)) (world.abortAll resource).2 := by
  cases resource with
  | graph id => exact .refl _
  | external number => exact ⟨rfl, rfl⟩

theorem sameGraphs_closeImplicit (id : ManagerId) :
    SameGraphs (world.takeAll (world.closeSteps id)) (world.closeImplicit id).2 := by
  cases policy : (world.manager id).config.implicit with
  | commit =>
      simp only [closeSteps, closeImplicit, policy]
      exact world.sameGraphs_commitAll _
  | rollback =>
      simp only [closeSteps, closeImplicit, policy]
      exact world.sameGraphs_abortAll _
  | ignore =>
      simp only [closeSteps, closeImplicit, policy]
      exact .refl world

theorem sameGraphs_commit (handle : Handle) :
    SameGraphs (world.takeAll (world.handleSteps handle .commit)) (world.commit handle).2 := by
  cases live : world.isLive handle with
  | false =>
      simp only [handleSteps, commit, live, Bool.false_eq_true, false_and, if_false]
      exact .refl world
  | true =>
      cases strategy : handle.strategy with
      | base =>
          have reached := world.sameGraphs_commitAll handle.key.resource
          simp only [handleSteps, commit, commitLive, live, strategy, and_self, if_true]
          generalize world.commitAll handle.key.resource = outcome at reached
          obtain ⟨result, later⟩ := outcome
          cases result with
          | ok value => exact reached.emit _
          | error error => exact reached
      | _ =>
          simp only [handleSteps, commit, commitLive, live, strategy, reduceCtorEq, and_false,
            if_false, if_true]
          exact (SameGraphs.refl world).emit _

theorem sameGraphs_finishRollback (handle : Handle) (message : Option String)
    (unwinding : Bool) :
    SameGraphs (world.takeAll (world.handleSteps handle .abort))
      (world.finishRollback handle message unwinding).2 := by
  have noted := (SameGraphs.refl world).emit (.rolledBack handle.token handle.strategy message)
  cases live : world.isLive handle with
  | false =>
      simp only [handleSteps, finishRollback, live, Bool.false_eq_true, false_and, if_false]
      exact .refl world
  | true =>
      cases strategy : handle.strategy with
      | base =>
          rw [strategy] at noted
          simp only [handleSteps, finishRollback, rollbackLive, Strategy.rollbackRequest?, live,
            strategy, and_self, if_true]
          exact (noted.takeAll _).trans (sameGraphs_abortAll _ handle.key.resource)
      | _ =>
          rw [strategy] at noted
          simp only [handleSteps, finishRollback, rollbackLive, Strategy.rollbackRequest?, live,
            strategy, reduceCtorEq, and_false, if_false, if_true]
          split <;> exact noted

theorem sameGraphs_unwind (handle : Handle) (message : String) :
    SameGraphs (world.takeAll (world.handleSteps handle .abort)) (world.unwind handle message) := by
  have reached := world.sameGraphs_finishRollback handle (some message) true
  unfold unwind
  generalize world.finishRollback handle (some message) true = outcome at reached
  obtain ⟨result, later⟩ := outcome
  cases result with
  | ok value => exact reached
  | error error => exact reached.emit _

theorem sameGraphs_conclude (handle : Handle) {α : Type} (outcome : Outcome α) :
    SameGraphs (world.takeAll (world.concludeSteps handle outcome))
      (world.conclude handle outcome).2 := by
  cases outcome with
  | done value =>
      have reached := world.sameGraphs_commit handle
      simp only [concludeSteps, conclude]
      generalize world.commit handle = outcome at reached
      obtain ⟨result, later⟩ := outcome
      cases result with
      | ok value => exact reached
      | error error =>
          rw [takeAll_append]
          exact (reached.takeAll _).trans (later.sameGraphs_unwind handle _)
  | failed error => exact world.sameGraphs_unwind handle _
  | panicked message => exact world.sameGraphs_unwind handle _

theorem sameGraphs_closeFor (id : ManagerId) (strategy : Strategy) :
    SameGraphs (world.takeAll (if strategy.isReal then world.closeSteps id else []))
      (world.closeFor id strategy).2 := by
  unfold closeFor
  split
  · exact world.sameGraphs_closeImplicit id
  · exact .refl world

theorem sameGraphs_minted (thread : ThreadId) (id : ManagerId) :
    SameGraphs world (world.minted thread id).2 := by
  simp only [minted, takeToken]
  split <;> exact ⟨rfl, rfl⟩

theorem closeSteps_minted (thread : ThreadId) (id : ManagerId) :
    (world.minted thread id).2.closeSteps id = world.closeSteps id := by
  have managers : (world.minted thread id).2.managers = world.managers :=
    (sameScopes_takeToken _ _ _ _).managers
  rw [closeSteps, closeSteps, manager, manager, managers]

theorem sameGraphs_openScope (thread : ThreadId) (id : ManagerId) (nesting : Bool) :
    SameGraphs (world.takeAll (world.openSteps thread id nesting))
      (world.openScope thread id nesting).2 := by
  rw [openScope_eq, openSteps]
  cases Strategy.select (world.isNative id) (world.depth thread id) nesting with
  | error error => exact ⟨rfl, rfl⟩
  | ok strategy =>
      have closing := sameGraphs_closeFor (world.minted thread id).2 id strategy
      rw [closeSteps_minted] at closing
      have reached := ((world.sameGraphs_minted thread id).takeAll _).trans closing
      dsimp only
      generalize (world.minted thread id).2.closeFor id strategy = closing at reached
      obtain ⟨closed, ready⟩ := closing
      cases closed with
      | error error => exact reached
      | ok value => exact ⟨reached.stores, reached.nextGraph⟩

end Boundaries

end World

/-- The steps that an action takes on the stores of graphs. -/
def GraphAction.steps (graph : GraphId) (world : World) {α : Type} :
    GraphAction α → List WorldStep
  | read _ => []
  | write change => [.on graph (.write change)]
  | cloneVertex source vertex => [.on graph (.cloneVertex source vertex)]
  | cloneEdge source edge options => [.on graph (.cloneEdge source edge options)]
  | commit handle => world.handleSteps handle .commit
  | rollback handle _ => world.handleSteps handle .abort
  | commitImplicit => World.boundarySteps (world.manager (.graph graph)).resource .commit
  | rollbackImplicit => World.boundarySteps (world.manager (.graph graph)).resource .abort
  | closeImplicit => world.closeSteps (.graph graph)
  | configure _ => []

theorem GraphAction.sameGraphs_perform (graph : GraphId) (world : World) {α : Type}
    (action : GraphAction α) :
    World.SameGraphs (world.takeAll (action.steps graph world))
      (action.perform graph world).2 := by
  cases action with
  | read look => exact .refl world
  | write change => exact .refl _
  | cloneVertex source vertex => exact .refl _
  | cloneEdge source edge options => exact .refl _
  | commit handle => exact world.sameGraphs_commit handle
  | rollback handle message => exact world.sameGraphs_finishRollback handle message false
  | commitImplicit => exact world.sameGraphs_commitAll _
  | rollbackImplicit => exact world.sameGraphs_abortAll _
  | closeImplicit => exact world.sameGraphs_closeImplicit (.graph graph)
  | configure change => exact ⟨rfl, rfl⟩

/-- What a program does with graphs.  What is done aside changes no store and makes no graph: it
may change everything else, fail or panic.  Within a deed another one may be done that works on
something of its own. -/
inductive Deed : Type → Type → Type 1 where
  | aside {χ α : Type} (task : Task (Scene χ) α)
      (alone : ∀ scene, World.SameGraphs scene.world (task scene).2.world) : Deed χ α
  | make {χ : Type} (transactional : Bool) (config : TransactionConfig) : Deed χ GraphId
  | act {χ α : Type} (graph : GraphId) (action : GraphAction α) : Deed χ α
  | andThen {χ α β : Type} (first : Deed χ α) (next : α → Deed χ β) : Deed χ β
  | caught {χ α : Type} (deed : Deed χ α) : Deed χ (Outcome α)
  | transaction {χ α : Type} (thread : ThreadId) (graph : GraphId) (nesting : Bool)
      (body : Handle → Deed χ α) : Deed χ α
  | within {χ ρ α β : Type} (rest : ρ) (deed : Deed ρ α) (finish : α → ρ → β) : Deed χ β

namespace Deed

/-- Run a deed as a task. -/
def run : {χ α : Type} → Deed χ α → Task (Scene χ) α
  | _, _, aside task _ => task
  | _, _, make transactional config =>
      Scene.step fun world => world.addGraph transactional config
  | _, _, act graph action => Scene.attempt fun world => action.perform graph world
  | _, _, andThen first next => first.run.andThen fun value => (next value).run
  | _, _, caught deed => Task.caught deed.run
  | _, _, transaction thread graph nesting body =>
      transact thread (.graph graph) nesting fun handle => (body handle).run
  | _, _, within rest deed finish => fun scene =>
      let (outcome, after) := deed.run ⟨scene.world, rest⟩
      (outcome.map fun value => finish value after.rest, { scene with world := after.world })

section Run

variable {χ ρ α β : Type}

-- The type of tasks is written out: what a deed does aside is a function, and is matched as one.
@[simp]
theorem run_aside (task : Scene χ → Outcome α × Scene χ)
    (alone : ∀ scene, World.SameGraphs scene.world (task scene).2.world) :
    (aside task alone).run = task := rfl

@[simp]
theorem run_act (graph : GraphId) (action : GraphAction α) :
    (act graph action : Deed χ α).run =
      Scene.attempt fun world => action.perform graph world := rfl

@[simp]
theorem run_andThen (first : Deed χ α) (next : α → Deed χ β) :
    (first.andThen next).run = first.run.andThen fun value => (next value).run := rfl

@[simp]
theorem run_transaction (thread : ThreadId) (graph : GraphId) (nesting : Bool)
    (body : Handle → Deed χ α) :
    (transaction thread graph nesting body).run =
      transact thread (.graph graph) nesting fun handle => (body handle).run := rfl

@[simp]
theorem run_within (rest : ρ) (deed : Deed ρ α) (finish : α → ρ → β)
    (scene : Scene χ) :
    (within rest deed finish).run scene =
      ((deed.run ⟨scene.world, rest⟩).1.map fun value =>
          finish value (deed.run ⟨scene.world, rest⟩).2.rest,
        { scene with world := (deed.run ⟨scene.world, rest⟩).2.world }) := rfl

end Run

/-- The steps that a deed takes on the stores of graphs, one after the other. -/
def history : {χ α : Type} → Deed χ α → Scene χ → List WorldStep
  | _, _, aside _ _, _ => []
  | _, _, make transactional config, _ => [.make transactional config]
  | _, _, act graph action, scene => action.steps graph scene.world
  | _, _, andThen first next, scene =>
      first.history scene ++
        match first.run scene with
        | (.done value, later) => (next value).history later
        | _ => []
  | _, _, caught deed, scene => deed.history scene
  | χ, _, transaction thread graph nesting body, scene =>
      scene.world.openSteps thread (.graph graph) nesting ++
        match scene.world.openScope thread (.graph graph) nesting with
        | (.error _, _) => []
        | (.ok handle, started) =>
            let opened : Scene χ := { scene with world := started }
            let (outcome, after) := (body handle).run opened
            (body handle).history opened ++ after.world.concludeSteps handle outcome
  | _, _, within rest deed _, scene => deed.history ⟨scene.world, rest⟩

/-- The history of a deed leads to the same stores as its run. -/
theorem sameGraphs_run {χ α : Type} (deed : Deed χ α) (scene : Scene χ) :
    World.SameGraphs (scene.world.takeAll (deed.history scene)) (deed.run scene).2.world := by
  induction deed with
  | aside task alone => exact alone scene
  | make transactional config => exact .refl _
  | act graph action => exact action.sameGraphs_perform graph scene.world
  | andThen first next firstIH nextIH =>
      have reached := firstIH scene
      simp only [history, run_andThen, Task.andThen]
      generalize first.run scene = outcome at reached
      obtain ⟨result, later⟩ := outcome
      rw [World.takeAll_append]
      cases result with
      | done value => exact (reached.takeAll _).trans (nextIH value later)
      | failed error => exact reached
      | panicked message => exact reached
  | caught deed ih => exact ih scene
  | transaction thread graph nesting body ih =>
      have reached := scene.world.sameGraphs_openScope thread (.graph graph) nesting
      rw [history, run_transaction, transact_eq, World.takeAll_append]
      generalize scene.world.openScope thread (.graph graph) nesting = opening at reached
      obtain ⟨entry, started⟩ := opening
      cases entry with
      | error error => exact reached.trans ⟨rfl, rfl⟩
      | ok handle =>
          have ended := ih handle { scene with world := started }
          dsimp only
          generalize (body handle).run { scene with world := started } = left at ended
          obtain ⟨outcome, after⟩ := left
          rw [World.takeAll_append]
          have concluded := after.world.sameGraphs_conclude handle outcome
          exact (((reached.takeAll _).trans ended).takeAll _).trans
            (concluded.trans ⟨rfl, rfl⟩)
  | within rest deed finish ih => exact ih ⟨scene.world, rest⟩

end Deed

end RoutedGraph
