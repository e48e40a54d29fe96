import RoutedGraph.Proofs.Transaction.Body

/-!
# What actions do to a store

However many actions follow a commit, an abort leads back to what was
committed.  An action writes to the store of its graph, commits it or aborts
it, and the log tells a commit from all else, so that after every action the
store goes back to the content that the log says was committed last.
-/

namespace RoutedGraph

namespace World

variable (world : World) (graph : GraphId)

@[simp]
theorem commits_setStore (id : GraphId) (store : Store) :
    (world.setStore id store).commits graph = world.commits graph := rfl

theorem commits_emit (event : LogEvent) :
    (world.emit event).commits graph =
      world.commits graph + if event.isCommitOf graph then 1 else 0 := by
  simp [commits, emit, withHub, Hub.emit, List.countP_cons]

theorem commits_emit_of_other {event : LogEvent} (other : event.isCommitOf graph = false) :
    (world.emit event).commits graph = world.commits graph := by
  simp [commits_emit, other]

theorem commits_emitAll_of_others {events : List LogEvent}
    (others : ∀ event ∈ events, event.isCommitOf graph = false) :
    (world.emitAll events).commits graph = world.commits graph := by
  induction events generalizing world with
  | nil => rfl
  | cons event rest ih =>
      rw [show world.emitAll (event :: rest) = (world.emit event).emitAll rest from rfl,
        ih _ fun other member => others other (List.mem_cons_of_mem event member)]
      exact world.commits_emit_of_other graph (others event List.mem_cons_self)

end World

section CloneEvents

variable {store : Store} (graph : GraphId)

theorem isCommitOf_cloneVertex (source : GraphId) (vertex : Vertex) :
    ∀ event ∈ (store.cloneVertex source vertex).2.2, event.isCommitOf graph = false := by
  unfold Store.cloneVertex
  split <;> simp [LogEvent.isCommitOf]

theorem isCommitOf_cloneEndpoints (source : GraphId) (origin : Store) (endpoints : List VertexId) :
    ∀ event ∈ (store.cloneEndpoints source origin endpoints).2.2,
      event.isCommitOf graph = false := by
  induction endpoints generalizing store with
  | nil => simp [Store.cloneEndpoints]
  | cons endpoint rest ih =>
      unfold Store.cloneEndpoints
      split
      · simp
      · intro event member
        rcases List.mem_append.mp member with first | later
        · exact isCommitOf_cloneVertex graph source _ event first
        · exact ih event later

theorem isCommitOf_attachClone (source : GraphId) (edge : Edge) (options : CloneOptions) :
    ∀ event ∈ (store.attachClone source edge options).2.2, event.isCommitOf graph = false := by
  unfold Store.attachClone
  dsimp only
  split
  · split <;> simp [LogEvent.isCommitOf]
  · split <;> split <;> simp [LogEvent.isCommitOf]

theorem isCommitOf_cloneEdge (source : GraphId) (origin : Store) (edge : Edge)
    (options : CloneOptions) :
    ∀ event ∈ (store.cloneEdge source origin edge options).2.2, event.isCommitOf graph = false := by
  have endpoints : ∀ event ∈ (store.cloneEndpoints source origin edge.endpoints).2.2,
      event.isCommitOf graph = false :=
    isCommitOf_cloneEndpoints graph source origin edge.endpoints
  cases found : store.edgeClone? ⟨source, edge.id⟩ with
  | some clone => simp [Store.cloneEdge, found]
  | none =>
      cases creates : options.createVertices with
      | false =>
          simpa [Store.cloneEdge, found, creates] using
            isCommitOf_attachClone graph source edge options
      | true =>
          simp only [Store.cloneEdge, found, creates, if_true]
          generalize store.cloneEndpoints source origin edge.endpoints = outcome at endpoints
          obtain ⟨result, grown, events⟩ := outcome
          cases result with
          | error error => exact endpoints
          | ok value =>
              intro event member
              rcases List.mem_append.mp member with first | later
              · exact endpoints event first
              · exact isCommitOf_attachClone graph source edge options event later

end CloneEvents

namespace World

theorem commits_cloneVertex (world : World) (graph source : GraphId) (vertex : Vertex) :
    (world.cloneVertex graph source vertex).2.commits graph = world.commits graph := by
  unfold cloneVertex
  split
  · rfl
  · exact commits_emitAll_of_others _ _ (isCommitOf_cloneVertex graph source vertex)

theorem commits_cloneEdge (world : World) (graph source : GraphId) (edge : Edge)
    (options : CloneOptions) :
    (world.cloneEdge graph source edge options).2.commits graph = world.commits graph := by
  unfold cloneEdge
  split
  · rfl
  · exact commits_emitAll_of_others _ _
      (isCommitOf_cloneEdge graph source (world.store source) edge options)

end World

/-- A step writes to the store of a graph, commits it or aborts it, and logs exactly the commit. -/
inductive Touch (graph : GraphId) (before after : World) : Prop where
  | wrote (changes : List Change)
      (advance : Store.Advance (before.store graph) changes (after.store graph))
      (silent : after.commits graph = before.commits graph)
  | committed (store : after.store graph = (before.store graph).commit)
      (logged : after.commits graph ≠ before.commits graph)
  | aborted (store : after.store graph = (before.store graph).abort)
      (silent : after.commits graph = before.commits graph)

namespace Touch

variable {graph : GraphId} {before middle after : World}

theorem of_same {kept : Content} (reached : (before.store graph).RollsBackTo kept)
    (sameStore : after.store graph = before.store graph)
    (silent : after.commits graph = before.commits graph) : Touch graph before after := by
  refine wrote [] ?_ silent
  rw [sameStore]
  exact Store.Advance.refl reached.consistent reached.known

theorem congr_left (touch : Touch graph middle after)
    (sameStore : middle.store graph = before.store graph)
    (silent : middle.commits graph = before.commits graph) : Touch graph before after := by
  cases touch with
  | wrote changes advance unlogged =>
      exact wrote changes (sameStore ▸ advance) (unlogged.trans silent)
  | committed store logged => exact committed (sameStore ▸ store) (silent ▸ logged)
  | aborted store unlogged => exact aborted (sameStore ▸ store) (unlogged.trans silent)

theorem congr_right (touch : Touch graph before middle)
    (sameStore : after.store graph = middle.store graph)
    (silent : after.commits graph = middle.commits graph) : Touch graph before after := by
  cases touch with
  | wrote changes advance unlogged =>
      exact wrote changes (sameStore ▸ advance) (silent.trans unlogged)
  | committed store logged => exact committed (sameStore.trans store) (silent ▸ logged)
  | aborted store unlogged => exact aborted (sameStore.trans store) (silent.trans unlogged)

theorem emit (touch : Touch graph before middle) {event : LogEvent}
    (other : event.isCommitOf graph = false) : Touch graph before (middle.emit event) :=
  touch.congr_right rfl (middle.commits_emit_of_other graph other)

/-- After a step, the store goes back to the content that was committed last. -/
theorem rollsBackTo (touch : Touch graph before after) {kept : Content}
    (reached : (before.store graph).RollsBackTo kept) :
    (after.store graph).RollsBackTo (World.committed graph before after kept) := by
  unfold World.committed
  cases touch with
  | wrote changes advance silent =>
      rw [if_pos silent]
      exact reached.advance advance
  | committed store logged =>
      rw [if_neg logged, store]
      exact reached.commit
  | aborted store silent =>
      rw [if_pos silent, store]
      exact reached.abort

end Touch

namespace World

variable {world : World} {graph : GraphId} {kept : Content}

theorem touch_emit (reached : (world.store graph).RollsBackTo kept) {event : LogEvent}
    (other : event.isCommitOf graph = false) : Touch graph world (world.emit event) :=
  Touch.of_same reached rfl (world.commits_emit_of_other graph other)

theorem touch_commitAll (reached : (world.store graph).RollsBackTo kept)
    (resource : ResourceId) : Touch graph world (world.commitAll resource).2 := by
  cases resource with
  | graph id =>
      by_cases here : id = graph
      · rw [here]
        refine Touch.committed (world.store_commitAll graph) ?_
        simp [commitAll, commits_emit, LogEvent.isCommitOf]
      · refine Touch.of_same reached (world.store_commitAll_of_ne here) ?_
        simp [commitAll, commits_emit, LogEvent.isCommitOf, here]
  | external number => exact Touch.of_same reached rfl rfl

theorem commits_abortAll (world : World) (graph : GraphId) (resource : ResourceId) :
    (world.abortAll resource).2.commits graph = world.commits graph := by
  cases resource with
  | graph id =>
      unfold abortAll
      dsimp only
      split
      · simp [commits_emit, LogEvent.isCommitOf]
      · rfl
  | external number => rfl

theorem touch_abortAll (reached : (world.store graph).RollsBackTo kept)
    (resource : ResourceId) : Touch graph world (world.abortAll resource).2 := by
  have silent := world.commits_abortAll graph resource
  cases resource with
  | graph id =>
      by_cases here : id = graph
      · rw [here] at silent ⊢
        exact Touch.aborted (world.store_abortAll graph) silent
      · exact Touch.of_same reached (world.store_abortAll_of_ne here) silent
  | external number => exact Touch.of_same reached rfl silent

theorem touch_closeImplicit (reached : (world.store graph).RollsBackTo kept) (id : ManagerId) :
    Touch graph world (world.closeImplicit id).2 := by
  unfold closeImplicit
  dsimp only
  split
  · exact touch_commitAll reached _
  · exact touch_abortAll reached _
  · exact Touch.of_same reached rfl rfl

theorem touch_commit (reached : (world.store graph).RollsBackTo kept) (handle : Handle) :
    Touch graph world (world.commit handle).2 := by
  unfold commit
  split
  · unfold commitLive
    split
    · have committed := touch_commitAll reached handle.key.resource
      generalize world.commitAll handle.key.resource = outcome at committed
      obtain ⟨result, later⟩ := outcome
      cases result with
      | ok value => exact committed.emit rfl
      | error error => exact committed
    all_goals exact touch_emit reached rfl
  · exact Touch.of_same reached rfl rfl

/-- A commit that fails has changed nothing of a graph. -/
theorem commit_refused {handle : Handle} {error : TransactionError} {refused : World}
    (ended : world.commit handle = (.error error, refused)) :
    refused.store graph = world.store graph ∧ refused.commits graph = world.commits graph := by
  unfold commit at ended
  split at ended
  · unfold commitLive at ended
    split at ended
    · cases resource : handle.key.resource with
      | graph id => simp [resource, commitAll] at ended
      | external number =>
          simp only [resource, commitAll] at ended
          split at ended
          · simp at ended
          · next failure stuck failed =>
              obtain ⟨-, rfl⟩ := Prod.mk.inj ended
              obtain ⟨-, rfl⟩ := Prod.mk.inj failed
              exact ⟨rfl, rfl⟩
    · simp at ended
    · simp at ended
    · simp at ended
  · obtain ⟨-, rfl⟩ := Prod.mk.inj ended
    exact ⟨rfl, rfl⟩

theorem touch_finishRollback (reached : (world.store graph).RollsBackTo kept)
    (handle : Handle) (message : Option String) (unwinding : Bool) :
    Touch graph world (world.finishRollback handle message unwinding).2 := by
  unfold finishRollback
  split
  · unfold rollbackLive
    generalize noting : LogEvent.rolledBack handle.token handle.strategy message = noted
    have other : noted.isCommitOf graph = false := noting ▸ rfl
    have stillReached : ((world.emit noted).store graph).RollsBackTo kept := reached
    dsimp only
    split
    · exact (touch_abortAll stillReached handle.key.resource).congr_left rfl
        (world.commits_emit_of_other graph other)
    · split <;> exact touch_emit reached other
  · exact Touch.of_same reached rfl rfl

theorem touch_unwind (reached : (world.store graph).RollsBackTo kept) (handle : Handle)
    (message : String) : Touch graph world (world.unwind handle message) := by
  have rolledBack := touch_finishRollback reached handle (some message) true
  unfold unwind
  split
  · next unwound finished =>
      rw [finished] at rolledBack
      exact rolledBack
  · next error stuck finished =>
      rw [finished] at rolledBack
      exact rolledBack.emit rfl

theorem touch_conclude (reached : (world.store graph).RollsBackTo kept) (handle : Handle)
    {α : Type} (outcome : Outcome α) : Touch graph world (world.conclude handle outcome).2 := by
  cases outcome with
  | done value =>
      have committed := touch_commit reached handle
      simp only [conclude]
      cases ended : world.commit handle with
      | mk result later =>
          rw [ended] at committed
          cases result with
          | ok value => exact committed
          | error error =>
              -- Two steps are no single one, but the first of these does nothing to the graph.
              obtain ⟨sameStore, silent⟩ : later.store graph = world.store graph ∧
                  later.commits graph = world.commits graph := commit_refused ended
              have stillReached : (later.store graph).RollsBackTo kept := sameStore ▸ reached
              exact (touch_unwind stillReached handle error.message).congr_left sameStore silent
  | failed error => exact touch_unwind reached handle error.message
  | panicked message => exact touch_unwind reached handle "panicked"

theorem touch_perform (reached : (world.store graph).RollsBackTo kept)
    {α : Type} (action : GraphAction α) : Touch graph world (action.perform graph world).2 := by
  cases action with
  | read look => exact Touch.of_same reached rfl rfl
  | write change =>
      obtain ⟨changes, advance⟩ :=
        advance_perform reached.consistent reached.known (.write change) rfl
      exact Touch.wrote changes advance rfl
  | cloneVertex source vertex =>
      obtain ⟨changes, advance⟩ :=
        advance_perform reached.consistent reached.known (.cloneVertex source vertex) rfl
      exact Touch.wrote changes advance (world.commits_cloneVertex graph source vertex)
  | cloneEdge source edge options =>
      obtain ⟨changes, advance⟩ := advance_perform reached.consistent reached.known
        (.cloneEdge source edge options) rfl
      exact Touch.wrote changes advance (world.commits_cloneEdge graph source edge options)
  | commit handle => exact touch_commit reached handle
  | rollback handle message => exact touch_finishRollback reached handle message false
  | commitImplicit => exact touch_commitAll reached _
  | rollbackImplicit => exact touch_abortAll reached _
  | closeImplicit => exact touch_closeImplicit reached _
  | configure change => exact Touch.of_same reached rfl rfl

end World

end RoutedGraph
