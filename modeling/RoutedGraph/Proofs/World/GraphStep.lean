import RoutedGraph.Proofs.Store.Clones
import RoutedGraph.Proofs.World.Frame

/-!
# Steps on graphs

A step on a graph writes to it, clones an element of another graph into it,
commits or aborts.  It changes the store of no other graph.  A step that is no
boundary makes writes that can be taken back, and it records a clone exactly
where it turns the look-up of a clone from nothing to something.
-/

namespace RoutedGraph

/-- A write to the vertices and edges of a graph. -/
inductive GraphWrite where
  | addVertex (properties : Properties)
  | addEdge (label : String) (outVertex inVertex : VertexId) (properties : Properties)
  | setProperty (id : VertexId) (name : String) (value : Value)
  | removeVertex (id : VertexId)
  | removeEdge (id : EdgeId)

/-- The write as the store of the graph has it. -/
def GraphWrite.op : GraphWrite → Store.Op
  | addVertex properties => .addVertex properties
  | addEdge label outVertex inVertex properties => .addEdge label outVertex inVertex properties
  | setProperty id name value => .setProperty id name value
  | removeVertex id => .removeVertex id
  | removeEdge id => .removeEdge id

@[simp]
theorem GraphWrite.isBoundary_op (write : GraphWrite) : write.op.isBoundary = false := by
  cases write <;> rfl

/-- A step on one graph. -/
inductive GraphStep where
  | write (write : GraphWrite)
  | cloneVertex (source : GraphId) (vertex : Vertex)
  | cloneEdge (source : GraphId) (edge : Edge) (options : CloneOptions)
  | commit
  | abort

/-- Whether a step is a commit or an abort. -/
def GraphStep.isBoundary : GraphStep → Bool
  | commit => true
  | abort => true
  | _ => false

namespace World

/-- Write to a graph. -/
def write (world : World) (graph : GraphId) (write : GraphWrite) :
    Except GraphError Store.Answer × World :=
  let (answer, store) := (world.store graph).apply write.op
  (answer, world.setStore graph store)

/-- Take a step on a graph, whether it succeeds or fails. -/
def perform (world : World) (graph : GraphId) : GraphStep → World
  | .write write => (world.write graph write).2
  | .cloneVertex source vertex => (world.cloneVertex graph source vertex).2
  | .cloneEdge source edge options => (world.cloneEdge graph source edge options).2
  | .commit => (world.commitAll (.graph graph)).2
  | .abort => (world.abortAll (.graph graph)).2

/-- Take steps one after the other, each on its own graph. -/
def performAll (world : World) (steps : List (GraphId × GraphStep)) : World :=
  steps.foldl (fun current step => current.perform step.1 step.2) world

theorem performAll_append (world : World) (first second : List (GraphId × GraphStep)) :
    world.performAll (first ++ second) = (world.performAll first).performAll second :=
  List.foldl_append

@[simp]
theorem store_write (world : World) (graph : GraphId) (write : GraphWrite) :
    (world.write graph write).2.store graph = ((world.store graph).apply write.op).2 := by
  simp [World.write]

theorem store_write_of_ne (world : World) {graph other : GraphId} (different : graph ≠ other)
    (write : GraphWrite) : (world.write graph write).2.store other = world.store other := by
  simp [World.write, store_setStore_of_ne, different]

theorem store_perform_of_ne (world : World) {graph other : GraphId} (different : graph ≠ other)
    (step : GraphStep) : (world.perform graph step).store other = world.store other := by
  cases step with
  | write write => exact world.store_write_of_ne different write
  | cloneVertex source vertex => exact world.store_cloneVertex_of_ne different source vertex
  | cloneEdge source edge options =>
      exact world.store_cloneEdge_of_ne different source edge options
  | commit => exact world.store_commitAll_of_ne different
  | abort => exact world.store_abortAll_of_ne different

end World

namespace Store

section Noted

variable {store : Store} {write : GraphWrite} {changes : List Change}

/-- Writes to vertices and edges record no clone of a vertex. -/
theorem Noted.vertexCloned_not_mem (noted : Noted store write.op changes)
    (origin : Foreign VertexId) : Change.vertexCloned origin ∉ changes := by
  intro recorded
  obtain ⟨clone, same⟩ := (noted.vertexCloned origin).mp recorded
  cases write <;> simp [GraphWrite.op] at same

/-- Writes to vertices and edges record no clone of an edge. -/
theorem Noted.edgeCloned_not_mem (noted : Noted store write.op changes)
    (origin : Foreign EdgeId) : Change.edgeCloned origin ∉ changes := by
  intro recorded
  obtain ⟨clone, same⟩ := (noted.edgeCloned origin).mp recorded
  cases write <;> simp [GraphWrite.op] at same

end Noted

/-- Writes to vertices and edges record no clone, and bring none back. -/
theorem advance_write {store : Store} (consistent : store.Consistent) (known : store.ClonesKnown)
    (write : GraphWrite) : ∃ changes, Advance store changes (store.apply write.op).2 := by
  obtain ⟨changes, writes, noted⟩ := writes_apply consistent write.isBoundary_op
  have noVertex := noted.vertexCloned_not_mem
  have noEdge := noted.edgeCloned_not_mem
  refine ⟨changes, writes, writes.clonesKnown known noVertex noEdge, ?_, ?_⟩
  · intro origin
    simp only [noVertex origin, false_iff, not_and, ne_eq, Decidable.not_not]
    exact writes.vertexClone?_eq_none known (noVertex origin)
  · intro origin
    simp only [noEdge origin, false_iff, not_and, ne_eq, Decidable.not_not]
    exact writes.edgeClone?_eq_none known (noEdge origin)

end Store

/-- Every step but a boundary advances the store of its graph. -/
theorem World.advance_perform {world : World} {graph : GraphId}
    (consistent : (world.store graph).Consistent) (known : (world.store graph).ClonesKnown)
    (step : GraphStep) (inner : step.isBoundary = false) :
    ∃ changes,
      Store.Advance (world.store graph) changes ((world.perform graph step).store graph) := by
  have idle := Store.Advance.refl consistent known
  cases step with
  | write write =>
      simp only [perform, store_write]
      exact Store.advance_write consistent known write
  | cloneVertex source vertex =>
      by_cases own : source = graph
      · simp only [perform, cloneVertex, if_pos own]
        exact ⟨[], idle⟩
      · simp only [perform, world.store_cloneVertex own]
        obtain ⟨changes, clones, -⟩ := Store.clones_cloneVertex consistent known source vertex
        exact ⟨changes, clones.advance known⟩
  | cloneEdge source edge options =>
      by_cases own : source = graph
      · simp only [perform, cloneEdge, if_pos own]
        exact ⟨[], idle⟩
      · simp only [perform, world.store_cloneEdge own]
        obtain ⟨changes, clones⟩ :=
          Store.clones_cloneEdge consistent known source (world.store source) edge options
        exact ⟨changes, clones.advance known⟩
  | commit => simp [GraphStep.isBoundary] at inner
  | abort => simp [GraphStep.isBoundary] at inner

end RoutedGraph
