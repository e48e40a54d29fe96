import RoutedGraph.Proofs.Store.Content
import RoutedGraph.Proofs.World.GraphStep

/-!
# What is pending makes no difference

A commit only forgets the undo log.  Neither writes nor clones look at the log,
so that they answer the same before and after a commit, and leave the same but
for what is pending.
-/

namespace RoutedGraph

namespace Store

variable {α β : Type}

theorem content_commit (store : Store) : store.commit.content = store.content := rfl

/-- Stores that are the same once they have committed hold the same. -/
theorem content_eq_of_commit_eq {first second : Store} (same : first.commit = second.commit) :
    first.content = second.content := by
  rw [← first.content_commit, same, second.content_commit]

theorem commit_commit (store : Store) : store.commit.commit = store.commit := by
  simp [commit, Function.comp_def]

/-- A step answers the same before and after a commit, and leaves the same but for what is
pending. -/
def Blind (step : Store → α × Store) : Prop :=
  ∀ store, (step store.commit).1 = (step store).1 ∧
    (step store.commit).2.commit = (step store).2.commit

/-- A blind step does the same to all stores that are the same once they have committed. -/
theorem Blind.same {step : Store → α × Store} (blind : Blind step) {first second : Store}
    (same : first.commit = second.commit) :
    (step first).1 = (step second).1 ∧ (step first).2.commit = (step second).2.commit := by
  obtain ⟨firstAnswer, firstLeft⟩ := blind first
  obtain ⟨secondAnswer, secondLeft⟩ := blind second
  rw [← firstAnswer, ← firstLeft, ← secondAnswer, ← secondLeft, same]
  exact ⟨rfl, rfl⟩

/-- What a blind step comes to before and after a commit. -/
theorem Blind.result {step : Store → α × Store} (blind : Blind step) (store : Store) :
    ∃ answer committed pending, step store.commit = (answer, committed) ∧
      step store = (answer, pending) ∧ committed.commit = pending.commit := by
  obtain ⟨answer, left⟩ := blind store
  exact ⟨(step store).1, (step store.commit).2, (step store).2, Prod.ext answer rfl, rfl, left⟩

theorem Blind.map {step : Store → α × Store} (blind : Blind step) (change : α → β) :
    Blind fun store => (change (step store).1, (step store).2) := by
  intro store
  obtain ⟨answer, left⟩ := blind store
  exact ⟨congrArg change answer, left⟩

theorem blind_addVertex (properties : Properties) :
    Blind fun store => store.addVertex properties := by
  intro store
  simp [addVertex, commit, record, Function.comp_def]

theorem blind_setProperty (id : VertexId) (name : String) (value : Value) :
    Blind fun store => store.setProperty id name value := by
  intro store
  cases found : store.vertices.get? id <;>
    simp [setProperty, commit, record, found, Function.comp_def]

theorem blind_addEdge (label : String) (outVertex inVertex : VertexId) (properties : Properties) :
    Blind fun store => store.addEdge label outVertex inVertex properties := by
  intro store
  cases outStored : store.vertices.contains outVertex <;>
    cases inStored : store.vertices.contains inVertex <;>
      simp [addEdge, commit, record, attach, outStored, inStored, Function.comp_def]

theorem blind_removeEdge (id : EdgeId) : Blind fun store => store.removeEdge id := by
  intro store
  cases found : store.edges.get? id <;>
    simp [removeEdge, commit, record, detach, found, Function.comp_def]

theorem blind_removeEdges (ids : List EdgeId) : Blind fun store => store.removeEdges ids := by
  induction ids with
  | nil => exact fun store => ⟨rfl, store.commit_commit⟩
  | cons id rest ih =>
      intro store
      obtain ⟨result, _, _, committed, pending, left⟩ := (blind_removeEdge id).result store
      simp only [removeEdges, committed, pending]
      cases result with
      | error error => exact ⟨rfl, left⟩
      | ok value => exact ih.same left

theorem blind_removeVertex (id : VertexId) : Blind fun store => store.removeVertex id := by
  intro store
  have edges : store.commit.edgesAt id = store.edgesAt id := rfl
  have vertices : store.commit.vertices = store.vertices := rfl
  simp only [removeVertex, vertices, edges]
  cases store.vertices.get? id with
  | none => exact ⟨rfl, store.commit_commit⟩
  | some vertex =>
      obtain ⟨result, bare, other, committed, pending, left⟩ :=
        (blind_removeEdges (store.edgesAt id)).result store
      simp only [committed, pending]
      cases result with
      | error error => exact ⟨rfl, left⟩
      | ok value =>
          simp only [commit, Store.mk.injEq] at left
          simp [commit, record, left, Function.comp_def]

/-- No write looks at what is pending. -/
theorem blind_write (change : GraphWrite) : Blind fun store => store.apply change.op := by
  cases change with
  | addVertex properties =>
      exact (blind_addVertex properties).map fun id => Except.ok (Answer.vertex id)
  | addEdge label outVertex inVertex properties =>
      exact (blind_addEdge label outVertex inVertex properties).map
        fun answer => answer.map Answer.edge
  | setProperty id name value =>
      exact (blind_setProperty id name value).map fun answer => answer.map fun _ => Answer.done
  | removeVertex id => exact (blind_removeVertex id).map fun answer => answer.map fun _ => Answer.done
  | removeEdge id => exact (blind_removeEdge id).map fun answer => answer.map fun _ => Answer.done

theorem vertexClone?_commit (store : Store) (origin : Foreign VertexId) :
    store.commit.vertexClone? origin = store.vertexClone? origin := rfl

theorem blind_cloneVertex (source : GraphId) (vertex : Vertex) :
    Blind fun store =>
      ((store.cloneVertex source vertex).1, (store.cloneVertex source vertex).2.1) := by
  intro store
  simp only [cloneVertex, vertexClone?_commit]
  cases store.vertexClone? ⟨source, vertex.id⟩ <;>
    simp [addVertex, recordVertexClone, commit, record, Function.comp_def]

theorem blind_cloneEndpoints (source : GraphId) (origin : Store) (endpoints : List VertexId) :
    Blind fun store =>
      ((store.cloneEndpoints source origin endpoints).1,
        (store.cloneEndpoints source origin endpoints).2.1) := by
  induction endpoints with
  | nil => exact fun store => ⟨rfl, store.commit_commit⟩
  | cons endpoint rest ih =>
      intro store
      simp only [cloneEndpoints]
      cases origin.vertex? endpoint with
      | none => exact ⟨rfl, store.commit_commit⟩
      | some vertex => exact ih.same (blind_cloneVertex source vertex store).2

theorem blind_attachClone (source : GraphId) (edge : Edge) (options : CloneOptions) :
    Blind fun store =>
      ((store.attachClone source edge options).1,
        (store.attachClone source edge options).2.1) := by
  intro store
  simp only [attachClone, vertexClone?_commit]
  cases store.vertexClone? ⟨source, edge.outVertex⟩ with
  | none => cases options.ignoreMissing <;> exact ⟨rfl, store.commit_commit⟩
  | some outVertex =>
      cases store.vertexClone? ⟨source, edge.inVertex⟩ with
      | none => cases options.ignoreMissing <;> exact ⟨rfl, store.commit_commit⟩
      | some inVertex =>
          obtain ⟨result, grown, other, committed, pending, left⟩ :=
            (blind_addEdge edge.label outVertex inVertex edge.properties).result store
          simp only [committed, pending]
          cases result with
          | error error => exact ⟨rfl, left⟩
          | ok id =>
              simp only [commit, Store.mk.injEq] at left
              simp [recordEdgeClone, commit, record, left, Function.comp_def]

theorem blind_cloneEdge (source : GraphId) (origin : Store) (edge : Edge)
    (options : CloneOptions) :
    Blind fun store =>
      ((store.cloneEdge source origin edge options).1,
        (store.cloneEdge source origin edge options).2.1) := by
  intro store
  have known : store.commit.edgeClone? ⟨source, edge.id⟩ = store.edgeClone? ⟨source, edge.id⟩ := rfl
  simp only [cloneEdge, known]
  cases store.edgeClone? ⟨source, edge.id⟩ with
  | some clone => exact ⟨rfl, store.commit_commit⟩
  | none =>
      cases options.createVertices with
      | false => exact blind_attachClone source edge options store
      | true =>
          obtain ⟨answer, left⟩ := blind_cloneEndpoints source origin edge.endpoints store
          simp only [if_true] at answer left ⊢
          generalize store.commit.cloneEndpoints source origin edge.endpoints = committed
            at answer left ⊢
          generalize store.cloneEndpoints source origin edge.endpoints = pending at answer left ⊢
          obtain ⟨result, grown, events⟩ := committed
          obtain ⟨_, other, _⟩ := pending
          obtain rfl := answer
          cases result with
          | error error => exact ⟨rfl, left⟩
          | ok value => exact (blind_attachClone source edge options).same left

end Store

end RoutedGraph
