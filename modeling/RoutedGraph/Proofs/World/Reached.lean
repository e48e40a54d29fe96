import RoutedGraph.Proofs.World.CloneRollback

/-!
# Reached stores

A store is reached if it comes from an empty one by steps on its graph.  What
else there is in the world when a step is taken makes no difference: only a
clone depends on the store of another graph, and whatever that is, the step
keeps the store consistent.
-/

namespace RoutedGraph

/-- A store as steps on its graph make it. -/
inductive Store.Reached : Store → Prop where
  | empty (transactional : Bool) : Reached (Store.empty transactional)
  | step {world : World} {graph : GraphId} (reached : Reached (world.store graph))
      (step : GraphStep) : Reached ((world.perform graph step).store graph)

namespace Store

/-- A store that keeps no log, which commits and aborts leave alone. -/
structure Unlogged (store : Store) : Prop where
  consistent : store.Consistent
  known : store.ClonesKnown
  undo : store.undo = none

theorem Unlogged.perform {world : World} {graph : GraphId}
    (unlogged : (world.store graph).Unlogged) (step : GraphStep) :
    ((world.perform graph step).store graph).Unlogged := by
  cases boundary : step.isBoundary with
  | false =>
      obtain ⟨changes, advance⟩ :=
        World.advance_perform unlogged.consistent unlogged.known step boundary
      refine ⟨advance.writes.consistent, advance.known, ?_⟩
      rw [advance.writes.undo, unlogged.undo]
      rfl
  | true =>
      cases step with
      | commit =>
          rw [World.perform, World.store_commitAll]
          exact ⟨unlogged.consistent.commit, unlogged.known.commit,
            by simp [commit, unlogged.undo]⟩
      | abort =>
          rw [World.perform, World.store_abortAll]
          simpa only [abort, unlogged.undo] using unlogged
      | _ => simp [GraphStep.isBoundary] at boundary

/-- A reached store can roll back, or keeps no log. -/
theorem Reached.rollsBackTo {store : Store} (reached : store.Reached) :
    (∃ content, store.RollsBackTo content) ∨ store.Unlogged := by
  induction reached with
  | empty transactional =>
      cases transactional with
      | true => exact Or.inl ⟨_, atBoundary_empty.rollsBackTo⟩
      | false => exact Or.inr ⟨consistent_empty false, clonesKnown_empty false, rfl⟩
  | @step world graph reached step ih =>
      rcases ih with ⟨content, recoverable⟩ | unlogged
      · exact Or.inl (World.rollsBackTo_perform recoverable (graph, step))
      · exact Or.inr (unlogged.perform step)

theorem Reached.consistent {store : Store} (reached : store.Reached) : store.Consistent := by
  rcases reached.rollsBackTo with ⟨content, recoverable⟩ | unlogged
  · exact recoverable.consistent
  · exact unlogged.consistent

theorem Reached.known {store : Store} (reached : store.Reached) : store.ClonesKnown := by
  rcases reached.rollsBackTo with ⟨content, recoverable⟩ | unlogged
  · exact recoverable.known
  · exact unlogged.known

end Store

namespace World

variable {world : World}

theorem store_addGraph_of_ne {transactional : Bool} {config : TransactionConfig} {other : GraphId}
    (different : (world.addGraph transactional config).1 ≠ other) :
    (world.addGraph transactional config).2.store other = world.store other := by
  simp only [addGraph, addManager, if_true, store_setRegistry]
  exact store_setStore_of_ne _ different _

theorem reached_addGraph (reached : ∀ graph, (world.store graph).Reached) (transactional : Bool)
    (config : TransactionConfig) (graph : GraphId) :
    ((world.addGraph transactional config).2.store graph).Reached := by
  by_cases here : (world.addGraph transactional config).1 = graph
  · rw [← here, store_addGraph]
    exact .empty transactional
  · rw [store_addGraph_of_ne here]
    exact reached graph

theorem reached_performAll (reached : ∀ graph, (world.store graph).Reached)
    (steps : List (GraphId × GraphStep)) (graph : GraphId) :
    ((world.performAll steps).store graph).Reached := by
  induction steps generalizing world with
  | nil => exact reached graph
  | cons step rest ih =>
      refine ih fun other => ?_
      by_cases here : step.1 = other
      · rw [← here]
        exact .step (reached step.1) step.2
      · rw [world.store_perform_of_ne here]
        exact reached other

end World

end RoutedGraph
