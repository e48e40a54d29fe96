import RoutedGraph.Proofs.World.GraphStep

/-!
# Clones after a rollback

An abort forgets every clone that was recorded since the last boundary.  Where
a clone was found at the boundary, removed, and then made again, the record of
the first clone was overwritten, and the abort brings the clone back but not
its record: the look-up finds nothing, and the next cloning makes a second
copy.  In all other cases the look-up answers what it answered at the boundary.
-/

namespace RoutedGraph

namespace World

theorem atBoundary_perform {world : World} {graph : GraphId} {content : Content}
    (reached : (world.store graph).RollsBackTo content) {step : GraphStep}
    (boundary : step.isBoundary = true) : ((world.perform graph step).store graph).AtBoundary := by
  cases step with
  | commit =>
      rw [perform, store_commitAll]
      exact reached.atBoundary_commit
  | abort =>
      rw [perform, store_abortAll]
      exact reached.atBoundary_abort
  | _ => simp [GraphStep.isBoundary] at boundary

/-- Whatever step is taken on whichever graph, the store of a graph can roll back. -/
theorem rollsBackTo_perform {world : World} {graph : GraphId} {content : Content}
    (reached : (world.store graph).RollsBackTo content) (step : GraphId × GraphStep) :
    ∃ later, ((world.perform step.1 step.2).store graph).RollsBackTo later := by
  by_cases here : step.1 = graph
  · rw [here]
    by_cases boundary : step.2.isBoundary = true
    · exact ⟨_, (atBoundary_perform reached boundary).rollsBackTo⟩
    · obtain ⟨changes, advance⟩ :=
        advance_perform reached.consistent reached.known step.2 (by simpa using boundary)
      exact ⟨content, reached.advance advance⟩
  · rw [world.store_perform_of_ne here]
    exact ⟨content, reached⟩

theorem rollsBackTo_performAll {world : World} {graph : GraphId} {content : Content}
    (reached : (world.store graph).RollsBackTo content) (steps : List (GraphId × GraphStep)) :
    ∃ later, ((world.performAll steps).store graph).RollsBackTo later := by
  induction steps generalizing world content with
  | nil => exact ⟨content, reached⟩
  | cons step rest ih =>
      obtain ⟨next, stepped⟩ := rollsBackTo_perform reached step
      exact ih stepped

/-- Some step of a run turns a look-up in the store of a graph from nothing to something. -/
def Gains {ι : Type} (lookUp : Store → Option ι) (graph : GraphId) (world : World) :
    List (GraphId × GraphStep) → Prop
  | [] => False
  | step :: rest =>
      (lookUp (world.store graph) = none ∧
        lookUp ((world.perform step.1 step.2).store graph) ≠ none) ∨
      Gains lookUp graph (world.perform step.1 step.2) rest

/-- The changes that a run makes to the store of a graph, which record a clone exactly if the run
gains its look-up. -/
structure Accounted (graph : GraphId) (world : World) (steps : List (GraphId × GraphStep))
    (changes : List Change) : Prop where
  writes : Store.Writes (world.store graph) changes ((world.performAll steps).store graph)
  vertexCloned : ∀ origin, Change.vertexCloned origin ∈ changes ↔
    Gains (fun store => store.vertexClone? origin) graph world steps
  edgeCloned : ∀ origin, Change.edgeCloned origin ∈ changes ↔
    Gains (fun store => store.edgeClone? origin) graph world steps

/-- Between two boundaries of a graph, what its undo log holds accounts for all clones made. -/
theorem accounted_performAll {world : World} {graph : GraphId}
    (consistent : (world.store graph).Consistent) (known : (world.store graph).ClonesKnown)
    {steps : List (GraphId × GraphStep)}
    (inner : ∀ step ∈ steps, step.1 = graph → step.2.isBoundary = false) :
    ∃ changes, Accounted graph world steps changes := by
  -- Newest changes come first, so those of the later steps stand in front.
  induction steps generalizing world with
  | nil =>
      refine ⟨[], Store.Writes.refl consistent, ?_, ?_⟩ <;> simp [Gains]
  | cons step rest ih =>
      have advanced : ∃ changes, Store.Advance (world.store graph) changes
          ((world.perform step.1 step.2).store graph) := by
        by_cases here : step.1 = graph
        · have quiet := inner step List.mem_cons_self here
          rw [here]
          exact advance_perform consistent known step.2 quiet
        · rw [world.store_perform_of_ne here]
          exact ⟨[], Store.Advance.refl consistent known⟩
      obtain ⟨earlier, advance⟩ := advanced
      obtain ⟨later, rested⟩ := ih advance.writes.consistent advance.known
        fun other member => inner other (List.mem_cons_of_mem step member)
      refine ⟨later ++ earlier, advance.writes.trans rested.writes, ?_, ?_⟩
      · intro origin
        rw [List.mem_append, rested.vertexCloned, advance.vertexCloned, Or.comm]
        rfl
      · intro origin
        rw [List.mem_append, rested.edgeCloned, advance.edgeCloned, Or.comm]
        rfl

theorem store_addGraph (start : World) (transactional : Bool) (config : TransactionConfig) :
    (start.addGraph transactional config).2.store (start.addGraph transactional config).1 =
      Store.empty transactional := by
  simp only [addGraph, addManager, if_true, store_setRegistry]
  exact store_setStore_self _ _ _

/-- The store of a graph is at a boundary when the graph is made and right after each of its
boundaries. -/
theorem atBoundary_performAll (start : World) (config : TransactionConfig)
    {past : List (GraphId × GraphStep)}
    (closed : past = [] ∨ ∃ earlier step, step.isBoundary = true ∧
      past = earlier ++ [((start.addGraph true config).1, step)]) :
    (((start.addGraph true config).2.performAll past).store
      (start.addGraph true config).1).AtBoundary := by
  have made := store_addGraph start true config
  rcases closed with rfl | ⟨earlier, step, boundary, rfl⟩
  · rw [show ((start.addGraph true config).2.performAll []) = (start.addGraph true config).2
      from rfl, made]
    exact Store.atBoundary_empty
  · rw [performAll_append]
    have fresh := Store.atBoundary_empty.rollsBackTo
    rw [← made] at fresh
    obtain ⟨content, reached⟩ := rollsBackTo_performAll fresh earlier
    exact atBoundary_perform reached boundary

/-- An answer that is lost in one case and kept in the other is restored unless it is lost. -/
theorem restored_iff {ι : Type} {old new : Option ι} {gained : Prop} (lost : gained → new = none)
    (kept : ¬ gained → new = old) : new = old ↔ old = none ∨ ¬ gained := by
  by_cases gains : gained
  · simp [lost gains, gains, eq_comm]
  · simp [kept gains, gains]

/-- Right after an abort, the look-up of a clone answers what it answered at the last boundary of
the graph, or at its start, exactly if it found nothing there or the clone has not been made again
since.  A clone that has been made again is not found any more. -/
theorem rollback_clones_iff (start : World) (config : TransactionConfig)
    (past recent : List (GraphId × GraphStep))
    (closed : past = [] ∨ ∃ earlier step, step.isBoundary = true ∧
      past = earlier ++ [((start.addGraph true config).1, step)])
    (inner : ∀ step ∈ recent, step.1 = (start.addGraph true config).1 →
      step.2.isBoundary = false) :
    let graph := (start.addGraph true config).1
    let base := (start.addGraph true config).2.performAll past
    let aborted := (base.performAll recent).perform graph .abort
    (past = [] → ∀ origin, (base.store graph).vertexClone? origin = none) ∧
    (past = [] → ∀ origin, (base.store graph).edgeClone? origin = none) ∧
    (∀ origin, (aborted.store graph).vertexClone? origin = (base.store graph).vertexClone? origin ↔
      (base.store graph).vertexClone? origin = none ∨
        ¬ base.Gains (fun store => store.vertexClone? origin) graph recent) ∧
    (∀ origin, base.Gains (fun store => store.vertexClone? origin) graph recent →
      (aborted.store graph).vertexClone? origin = none) ∧
    (∀ origin, (aborted.store graph).edgeClone? origin = (base.store graph).edgeClone? origin ↔
      (base.store graph).edgeClone? origin = none ∨
        ¬ base.Gains (fun store => store.edgeClone? origin) graph recent) ∧
    (∀ origin, base.Gains (fun store => store.edgeClone? origin) graph recent →
      (aborted.store graph).edgeClone? origin = none) := by
  intro graph base aborted
  have boundary : (base.store graph).AtBoundary := atBoundary_performAll start config closed
  obtain ⟨changes, accounted⟩ :=
    accounted_performAll boundary.settled.consistent boundary.known inner
  have rolledBack : Store.RolledBack (base.store graph) changes
      ((base.performAll recent).store graph) (aborted.store graph) := by
    rw [show aborted.store graph = ((base.performAll recent).store graph).abort
      from World.store_abortAll _ _]
    exact Store.rolledBack_abort boundary.settled accounted.writes
  have fresh : past = [] → base.store graph = Store.empty true := by
    rintro rfl
    exact store_addGraph start true config
  have vertexLost : ∀ origin, base.Gains (fun store => store.vertexClone? origin) graph recent →
      (aborted.store graph).vertexClone? origin = none := by
    intro origin gained
    exact rolledBack.vertexClone?_of_recorded ((accounted.vertexCloned origin).mpr gained)
  have edgeLost : ∀ origin, base.Gains (fun store => store.edgeClone? origin) graph recent →
      (aborted.store graph).edgeClone? origin = none := by
    intro origin gained
    exact rolledBack.edgeClone?_of_recorded ((accounted.edgeCloned origin).mpr gained)
  refine ⟨?_, ?_, ?_, vertexLost, ?_, edgeLost⟩
  · intro unused origin
    rw [fresh unused]
    rfl
  · intro unused origin
    rw [fresh unused]
    rfl
  · intro origin
    refine restored_iff (vertexLost origin) ?_
    intro never
    exact rolledBack.vertexClone?_of_unrecorded
      fun recorded => never ((accounted.vertexCloned origin).mp recorded)
  · intro origin
    refine restored_iff (edgeLost origin) ?_
    intro never
    exact rolledBack.edgeClone?_of_unrecorded
      fun recorded => never ((accounted.edgeCloned origin).mp recorded)

/-- A graph with one vertex, which the next graph can clone. -/
def originGraph : World :=
  (empty.addGraph true TransactionConfig.standard).2.perform ⟨1⟩ (.write (.addVertex Dict.empty))

/-- The second graph clones the vertex of the first and commits. -/
def cloneAndCommit : List (GraphId × GraphStep) :=
  [(⟨2⟩, .cloneVertex ⟨1⟩ ⟨⟨1⟩, Dict.empty, none⟩), (⟨2⟩, .commit)]

/-- The second graph removes its clone and makes it again. -/
def removeAndClone : List (GraphId × GraphStep) :=
  [(⟨2⟩, .write (.removeVertex ⟨1⟩)), (⟨2⟩, .cloneVertex ⟨1⟩ ⟨⟨1⟩, Dict.empty, none⟩)]

/-- A clone that is removed and made again is not found after an abort, although it was found at
the last commit and is there again. -/
theorem rollback_of_clone_made_again :
    let base := (originGraph.addGraph true TransactionConfig.standard).2.performAll cloneAndCommit
    let aborted := (base.performAll removeAndClone).perform ⟨2⟩ .abort
    (base.store ⟨2⟩).vertexClone? ⟨⟨1⟩, ⟨1⟩⟩ = some ⟨1⟩ ∧
      ((aborted.store ⟨2⟩).vertex? ⟨1⟩).isSome = true ∧
      (aborted.store ⟨2⟩).vertexClone? ⟨⟨1⟩, ⟨1⟩⟩ ≠ (base.store ⟨2⟩).vertexClone? ⟨⟨1⟩, ⟨1⟩⟩ := by
  intro base aborted
  have found : (base.store ⟨2⟩).vertexClone? ⟨⟨1⟩, ⟨1⟩⟩ = some ⟨1⟩ := by decide
  have gained :
      base.Gains (fun store => store.vertexClone? ⟨⟨1⟩, ⟨1⟩⟩) ⟨2⟩ removeAndClone := by
    exact Or.inr (Or.inl ⟨by decide, by decide⟩)
  have law := rollback_clones_iff originGraph TransactionConfig.standard cloneAndCommit
    removeAndClone (Or.inr ⟨[_], .commit, rfl, rfl⟩)
    (by simp [removeAndClone, GraphStep.isBoundary])
  refine ⟨found, by decide, ?_⟩
  intro same
  rcases (law.2.2.1 ⟨⟨1⟩, ⟨1⟩⟩).mp same with missing | never
  · exact absurd (found.symm.trans missing) (by simp)
  · exact never gained

end World

end RoutedGraph
