import RoutedGraph.Proofs.Route.Copying
import RoutedGraph.Proofs.World.Reached

/-!
# Failing steps

A step on a graph that fails leaves every store as it was.  A write looks for
what it needs before it changes anything, and the edges that a removed vertex
takes with it are all there.  An edge is attached to the clones of its endpoints
only once both have been found.  The one exception is an edge whose endpoints
are cloned with it: the vertex it leaves is cloned before the vertex it enters
is looked up, and where that is gone from its graph, the first clone stays.
-/

namespace RoutedGraph

namespace Store

theorem failed_write {store : Store} (consistent : store.Consistent) (write : GraphWrite)
    {error : GraphError} (failed : (store.apply write.op).1 = .error error) :
    (store.apply write.op).2 = store := by
  obtain ⟨changes, -, noted⟩ := writes_apply consistent write.isBoundary_op
  exact noted.unchanged (noted.failed.mpr ⟨error, failed⟩)

/-- Cloning an edge stops halfway: it is to clone the endpoints too, the vertex that the edge
leaves is stored and not cloned so far, and the vertex that it enters is gone. -/
structure StopsHalfway (source : GraphId) (origin store : Store) (edge : Edge)
    (options : CloneOptions) : Prop where
  unknown : store.edgeClone? ⟨source, edge.id⟩ = none
  creates : options.createVertices = true
  outUncloned : store.vertexClone? ⟨source, edge.outVertex⟩ = none
  outStored : ∃ vertex, origin.vertex? edge.outVertex = some vertex
  inGone : origin.vertex? edge.inVertex = none

/-- The store with a clone of the vertex that an edge leaves, and with no more. -/
def withOutVertexClone (store : Store) (source : GraphId) (origin : Store) (edge : Edge) : Store :=
  match origin.vertex? edge.outVertex with
  | some vertex => store.withVertexClone ⟨source, edge.outVertex⟩ vertex.properties
  | none => store

section Cloning

variable {store origin : Store} {source : GraphId} {edge : Edge} {options : CloneOptions}
  {error : GraphError}

theorem attachClone_of_cloned (options : CloneOptions) (cloned : ∀ endpoint ∈ edge.endpoints,
    (store.vertexClone? ⟨source, endpoint⟩).isSome = true) :
    (store.attachClone source edge options).1 = .ok (some ⟨store.nextEdge⟩) := by
  obtain ⟨outVertex, outFound⟩ :=
    Option.isSome_iff_exists.mp (cloned edge.outVertex (by simp [Edge.endpoints]))
  obtain ⟨inVertex, inFound⟩ :=
    Option.isSome_iff_exists.mp (cloned edge.inVertex (by simp [Edge.endpoints]))
  rw [attachClone_of_found outFound inFound]

/-- An edge is attached only where the clones of both endpoints are found. -/
theorem failed_attachClone (failed : (store.attachClone source edge options).1 = .error error) :
    (store.attachClone source edge options).2.1 = store := by
  rcases store.attachClone_cases source edge options with ⟨outVertex, inVertex, outFound, inFound⟩ |
    ⟨unchanged, -⟩
  · rw [attachClone_of_found outFound inFound] at failed
    contradiction
  · exact unchanged

theorem StopsHalfway.cloneEdge (originConsistent : origin.Consistent)
    (halfway : StopsHalfway source origin store edge options) :
    store.cloneEdge source origin edge options =
      (.error (.vertexNotFound edge.inVertex), store.withOutVertexClone source origin edge,
        [.vertexCloned edge.outVertex ⟨store.nextVertex⟩]) := by
  obtain ⟨unknown, creates, outUncloned, ⟨vertex, outFound⟩, inGone⟩ := halfway
  have named : vertex.id = edge.outVertex := originConsistent.content.vertex_id outFound
  have uncloned : store.vertexClone? ⟨source, vertex.id⟩ = none := by rw [named, outUncloned]
  simp [Store.cloneEdge, unknown, creates, Edge.endpoints, Store.cloneEndpoints, outFound, inGone,
    cloneVertex_of_missing uncloned, withOutVertexClone, named]

/-- Unless it stops halfway, cloning an edge changes nothing if it fails. -/
theorem failed_cloneEdge (consistent : store.Consistent) (known : store.ClonesKnown)
    (originConsistent : origin.Consistent)
    (failed : (store.cloneEdge source origin edge options).1 = .error error)
    (whole : ¬ StopsHalfway source origin store edge options) :
    (store.cloneEdge source origin edge options).2.1 = store := by
  cases found : store.edgeClone? ⟨source, edge.id⟩ with
  | some clone => simp [Store.cloneEdge, found] at failed
  | none =>
      cases creates : options.createVertices with
      | false =>
          simp only [Store.cloneEdge, found, creates] at failed ⊢
          exact failed_attachClone failed
      | true =>
          cases outFound : origin.vertex? edge.outVertex with
          | none =>
              simp [Store.cloneEdge, found, creates, Edge.endpoints, Store.cloneEndpoints,
                outFound]
          | some vertex =>
              have named : vertex.id = edge.outVertex :=
                originConsistent.content.vertex_id outFound
              cases inFound : origin.vertex? edge.inVertex with
              | none =>
                  -- The vertex that the edge leaves has its clone already.
                  cases cloned : store.vertexClone? ⟨source, edge.outVertex⟩ with
                  | none => exact absurd ⟨found, creates, cloned, ⟨vertex, outFound⟩, inFound⟩ whole
                  | some clone =>
                      have known : store.vertexClone? ⟨source, vertex.id⟩ = some clone := by
                        rw [named, cloned]
                      simp [Store.cloneEdge, found, creates, Edge.endpoints,
                        Store.cloneEndpoints, outFound, inFound, cloneVertex_of_found known]
              | some other =>
                  have stored : ∀ endpoint ∈ edge.endpoints,
                      ∃ vertex, origin.vertex? endpoint = some vertex := by
                    simp [Edge.endpoints, outFound, inFound]
                  have idle : Copied source origin store [] [] store :=
                    Copied.refl consistent known
                  obtain ⟨prepared, -, -, -, cloned⟩ :=
                    idle.cloneEndpoints originConsistent stored
                  simp only [Store.cloneEdge, found, creates, if_true] at failed ⊢
                  generalize store.cloneEndpoints source origin edge.endpoints = preparing
                    at prepared cloned failed ⊢
                  obtain ⟨result, grown, events⟩ := preparing
                  obtain rfl : result = .ok () := prepared
                  have attached := attachClone_of_cloned options cloned
                  simp only [attached] at failed
                  contradiction

theorem nextVertex_withOutVertexClone (outStored : ∃ vertex,
    origin.vertex? edge.outVertex = some vertex) :
    (store.withOutVertexClone source origin edge).nextVertex = store.nextVertex + 1 := by
  obtain ⟨vertex, found⟩ := outStored
  simp only [withOutVertexClone, found]
  rfl

end Cloning

end Store

namespace World

/-- What a failing step leaves.  A write and the cloning of a vertex change no store if they fail.
The cloning of an edge changes the store of its target exactly if it stops halfway; it then fails
because the vertex that the edge enters is not found, and the clone of the vertex that the edge
leaves stays. -/
theorem failed_steps {world : World} (reached : ∀ graph, (world.store graph).Reached)
    (graph : GraphId) :
    (∀ write error, (world.write graph write).1 = .error error →
      ∀ other, (world.write graph write).2.store other = world.store other) ∧
    (∀ source vertex error, (world.cloneVertex graph source vertex).1 = .error error →
      ∀ other, (world.cloneVertex graph source vertex).2.store other = world.store other) ∧
    (∀ source edge options error, (world.cloneEdge graph source edge options).1 = .error error →
      (∀ other, other ≠ graph →
        (world.cloneEdge graph source edge options).2.store other = world.store other) ∧
      ((world.cloneEdge graph source edge options).2.store graph = world.store graph ↔
        source = graph ∨
          ¬ Store.StopsHalfway source (world.store source) (world.store graph) edge options)) ∧
    (∀ source edge options, source ≠ graph →
      Store.StopsHalfway source (world.store source) (world.store graph) edge options →
      (world.cloneEdge graph source edge options).1 = .error (.vertexNotFound edge.inVertex) ∧
      (world.cloneEdge graph source edge options).2.store graph =
        (world.store graph).withOutVertexClone source (world.store source) edge) := by
  have halfway : ∀ source edge options, source ≠ graph →
      Store.StopsHalfway source (world.store source) (world.store graph) edge options →
      (world.cloneEdge graph source edge options).1 = .error (.vertexNotFound edge.inVertex) ∧
      (world.cloneEdge graph source edge options).2.store graph =
        (world.store graph).withOutVertexClone source (world.store source) edge := by
    intro source edge options foreign stops
    have outcome := stops.cloneEdge (reached source).consistent
    rw [world.store_cloneEdge foreign, outcome]
    exact ⟨by simp [cloneEdge, foreign, outcome], rfl⟩
  refine ⟨?_, ?_, ?_, halfway⟩
  · intro write error failed other
    by_cases here : graph = other
    · subst here
      rw [store_write]
      exact Store.failed_write (reached graph).consistent write failed
    · exact world.store_write_of_ne here write
  · intro source vertex error failed other
    by_cases own : source = graph
    · simp only [cloneVertex, if_pos own]
    · simp [cloneVertex, own] at failed
  · intro source edge options error failed
    refine ⟨fun other different =>
      world.store_cloneEdge_of_ne (Ne.symm different) source edge options, ?_⟩
    by_cases own : source = graph
    · simp only [cloneEdge, own, if_true, true_or]
    · constructor
      · intro same
        refine Or.inr fun stops => ?_
        have grown := congrArg Store.nextVertex ((halfway source edge options own stops).2)
        rw [same, Store.nextVertex_withOutVertexClone stops.outStored] at grown
        exact absurd grown (Nat.ne_of_lt (Nat.lt_succ_self _))
      · intro whole
        rw [world.store_cloneEdge own]
        have refused : ((world.store graph).cloneEdge source (world.store source) edge
            options).1 = .error error := by
          simpa [cloneEdge, own] using failed
        exact Store.failed_cloneEdge (reached graph).consistent (reached graph).known
          (reached source).consistent refused (whole.resolve_left own)

/-- A graph that had an edge from its first vertex to its second, until the second was removed, and
an empty graph. -/
def strandedEdge : World :=
  ((empty.addGraph true TransactionConfig.standard).2.addGraph true
    TransactionConfig.standard).2.performAll
    [(⟨1⟩, .write (.addVertex Dict.empty)), (⟨1⟩, .write (.addVertex Dict.empty)),
      (⟨1⟩, .write (.addEdge "next" ⟨1⟩ ⟨2⟩ Dict.empty)), (⟨1⟩, .write (.removeVertex ⟨2⟩))]

/-- Cloning the edge with its endpoints fails, and leaves a clone of the first vertex behind. -/
theorem stranded_endpoint_stays :
    let edge : Edge := ⟨⟨1⟩, "next", ⟨1⟩, ⟨2⟩, Dict.empty, none⟩
    let outcome := strandedEdge.cloneEdge ⟨2⟩ ⟨1⟩ edge .creating
    outcome.1 = .error (.vertexNotFound ⟨2⟩) ∧
      outcome.2.store ⟨2⟩ ≠ strandedEdge.store ⟨2⟩ := by
  intro edge outcome
  have fresh : ∀ graph, (empty.store graph).Reached := fun _ => .empty false
  have reached : ∀ graph, (strandedEdge.store graph).Reached :=
    reached_performAll (reached_addGraph (reached_addGraph fresh _ _) _ _) _
  have stops : Store.StopsHalfway ⟨1⟩ (strandedEdge.store ⟨1⟩) (strandedEdge.store ⟨2⟩) edge
      .creating :=
    ⟨by decide, rfl, by decide, ⟨⟨⟨1⟩, Dict.empty, none⟩, rfl⟩, by decide⟩
  obtain ⟨-, -, failed, halfway⟩ := failed_steps reached ⟨2⟩
  have refused := (halfway ⟨1⟩ edge .creating (by decide) stops).1
  refine ⟨refused, fun same => ?_⟩
  rcases ((failed ⟨1⟩ edge .creating _ refused).2).mp same with own | whole
  · exact absurd own (by decide)
  · exact whole stops

end World

end RoutedGraph
