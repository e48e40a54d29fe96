import RoutedGraph.Proofs.World.FailedSteps

/-!
# Endpoints that are created

An edge can be cloned together with its endpoints.  Each endpoint is then looked
up in the graph of the edge before it is asked whether it has a clone already.
So what decides is whether the endpoints are still stored there: an edge whose
endpoints both have clones is refused if one of them has been removed since,
though the same edge is cloned where no endpoint may be created.
-/

namespace RoutedGraph

/-- Where nothing has been copied, all is as it was. -/
theorem Holdings.Copied.eq_of_nil {ι β : Type} {source : GraphId} {Alike : ι → ι → β → Prop}
    {before after : Holdings ι β} (copied : Holdings.Copied source Alike [] before after) :
    after = before := by
  have elements : ∀ id, after.element? id = before.element? id := by
    intro id
    cases old : before.element? id with
    | some element => exact copied.kept old
    | none =>
        cases found : after.element? id with
        | none => rfl
        | some element =>
            obtain ⟨_, member, -⟩ := copied.new found old
            cases member
  have clones : ∀ origin, after.clone? origin = before.clone? origin := by
    intro origin
    cases found : after.clone? origin with
    | none => exact (copied.clone?_eq_none found).symm
    | some clone =>
        rcases copied.clone_new found with old | ⟨-, member⟩
        · exact old.symm
        · cases member
  obtain ⟨element?, clone?⟩ := after
  obtain rfl : element? = before.element? := funext elements
  obtain rfl : clone? = before.clone? := funext clones
  rfl

namespace Store

/-- The first endpoint of an edge that is not stored in the graph of the edge. -/
def gone? (origin : Store) (edge : Edge) : Option VertexId :=
  edge.endpoints.find? fun endpoint => (origin.vertex? endpoint).isNone

theorem gone?_eq_none_iff {origin : Store} {edge : Edge} :
    origin.gone? edge = none ↔
      ∀ endpoint ∈ edge.endpoints, ∃ vertex, origin.vertex? endpoint = some vertex := by
  simp [gone?, List.find?_eq_none, Option.ne_none_iff_exists']

/-- An edge has been cloned that had no clone.  Its clone is the only new edge and lies between the
clones of its endpoints, and the new vertices are the clones of the endpoints that had none. -/
structure ClonedWithEndpoints (source : GraphId) (origin before : Store) (edge : Edge)
    (id : EdgeId) (after : Store) : Prop where
  vertices : ∃ created, (∀ vertex, vertex ∈ created ↔
      vertex ∈ edge.endpoints ∧ before.vertexClone? ⟨source, vertex⟩ = none) ∧
    before.vertexHoldings.Copied source (VertexCopy origin) created after.vertexHoldings
  edge : ∃ outVertex inVertex,
    after.vertexClone? ⟨source, edge.outVertex⟩ = some outVertex ∧
    after.vertexClone? ⟨source, edge.inVertex⟩ = some inVertex ∧
    before.edgeHoldings.Adds source edge.id id
      ⟨id, edge.label, outVertex, inVertex, edge.properties, none⟩ after.edgeHoldings

section Creating

variable {store origin : Store} {source : GraphId} {edge : Edge} {options : CloneOptions}

/-- Whether endpoints can be cloned depends on their own graph only. -/
theorem cloneEndpoints_result (store : Store) (source : GraphId) (origin : Store)
    (endpoints : List VertexId) :
    (store.cloneEndpoints source origin endpoints).1 =
      match endpoints.find? fun endpoint => (origin.vertex? endpoint).isNone with
      | some missing => .error (.vertexNotFound missing)
      | none => .ok () := by
  induction endpoints generalizing store with
  | nil => rfl
  | cons endpoint rest ih =>
      cases found : origin.vertex? endpoint with
      | none => simp [cloneEndpoints, found]
      | some vertex => simp [cloneEndpoints, found, ih]

/-- New vertices take no identifier of an edge. -/
theorem nextEdge_cloneEndpoints (store : Store) (source : GraphId) (origin : Store)
    (endpoints : List VertexId) :
    (store.cloneEndpoints source origin endpoints).2.1.nextEdge = store.nextEdge := by
  induction endpoints generalizing store with
  | nil => rfl
  | cons endpoint rest ih =>
      cases found : origin.vertex? endpoint with
      | none => simp only [cloneEndpoints, found]
      | some vertex =>
          have kept : (store.cloneVertex source vertex).2.1.nextEdge = store.nextEdge := by
            cases cloned : store.vertexClone? ⟨source, vertex.id⟩ with
            | some clone => rw [cloneVertex_of_found cloned]
            | none => rw [cloneVertex_of_missing cloned]; rfl
          simp only [cloneEndpoints, found]
          rw [ih, kept]

theorem cloneEdge_of_known {clone : EdgeId}
    (known : store.edgeClone? ⟨source, edge.id⟩ = some clone) :
    store.cloneEdge source origin edge options = (.ok (some clone), store, []) := by
  simp [Store.cloneEdge, known]

theorem cloneEdge_of_gone (unknown : store.edgeClone? ⟨source, edge.id⟩ = none)
    (creates : options.createVertices = true) {missing : VertexId}
    (gone : origin.gone? edge = some missing) :
    (store.cloneEdge source origin edge options).1 = .error (.vertexNotFound missing) := by
  have refused := store.cloneEndpoints_result source origin edge.endpoints
  rw [show edge.endpoints.find? _ = some missing from gone] at refused
  simp only [Store.cloneEdge, unknown, creates, if_true]
  generalize store.cloneEndpoints source origin edge.endpoints = preparing at refused ⊢
  obtain ⟨result, grown, events⟩ := preparing
  obtain rfl : result = .error (.vertexNotFound missing) := refused
  rfl

/-- A clone of an edge between the clones of its endpoints is the only change. -/
theorem adds_attachClone (consistent : store.Consistent) (known : store.ClonesKnown)
    (unknown : store.edgeClone? ⟨source, edge.id⟩ = none) (options : CloneOptions)
    {outVertex inVertex : VertexId}
    (outFound : store.vertexClone? ⟨source, edge.outVertex⟩ = some outVertex)
    (inFound : store.vertexClone? ⟨source, edge.inVertex⟩ = some inVertex) :
    (store.attachClone source edge options).2.1.vertexHoldings = store.vertexHoldings ∧
      store.edgeHoldings.Adds source edge.id ⟨store.nextEdge⟩
        ⟨⟨store.nextEdge⟩, edge.label, outVertex, inVertex, edge.properties, none⟩
        (store.attachClone source edge options).2.1.edgeHoldings := by
  have outStored := (vertexClone?_eq_some_iff.mp outFound).2
  have inStored := (vertexClone?_eq_some_iff.mp inFound).2
  rw [attachClone_of_found outFound inFound]
  exact ⟨(vertexHoldings_withEdgeClone outStored inStored _ _ _).1, unknown,
    consistent.edge_fresh, edge?_withEdgeClone outStored inStored _ _ _,
    fun other => edgeClone?_withEdgeClone outStored inStored known _ other _ _⟩

/-- An edge without a clone is cloned with its endpoints if these are stored, whether they have
clones or not. -/
theorem cloneEdge_of_stored (consistent : store.Consistent) (known : store.ClonesKnown)
    (originConsistent : origin.Consistent) (unknown : store.edgeClone? ⟨source, edge.id⟩ = none)
    (creates : options.createVertices = true) (stored : origin.gone? edge = none) :
    (store.cloneEdge source origin edge options).1 = .ok (some ⟨store.nextEdge⟩) ∧
      ClonedWithEndpoints source origin store edge ⟨store.nextEdge⟩
        (store.cloneEdge source origin edge options).2.1 := by
  have numbered := store.nextEdge_cloneEndpoints source origin edge.endpoints
  have idle : Copied source origin store [] [] store := Copied.refl consistent known
  obtain ⟨succeeded, created, named, grown, cloned⟩ :=
    idle.cloneEndpoints originConsistent (gone?_eq_none_iff.mp stored)
  rw [List.append_nil] at grown
  simp only [Store.cloneEdge, unknown, creates, if_true]
  generalize store.cloneEndpoints source origin edge.endpoints = preparing
    at numbered succeeded grown cloned ⊢
  obtain ⟨result, prepared, events⟩ := preparing
  obtain rfl : result = .ok () := succeeded
  rw [← show prepared.nextEdge = store.nextEdge from numbered]
  have edgesKept : prepared.edgeHoldings = store.edgeHoldings := grown.ofEdges.eq_of_nil
  have unknownYet : prepared.edgeClone? ⟨source, edge.id⟩ = none :=
    (congrArg (Holdings.clone? · ⟨source, edge.id⟩) edgesKept).trans unknown
  obtain ⟨outVertex, outFound⟩ :=
    Option.isSome_iff_exists.mp (cloned _ (Edge.mem_endpoints.mpr (Or.inl rfl)))
  obtain ⟨inVertex, inFound⟩ :=
    Option.isSome_iff_exists.mp (cloned _ (Edge.mem_endpoints.mpr (Or.inr rfl)))
  obtain ⟨verticesKept, adds⟩ :=
    adds_attachClone grown.consistent grown.known unknownYet options outFound inFound
  have clonesKept := congrArg Holdings.clone? verticesKept
  refine ⟨attachClone_of_cloned options cloned, ?_, ?_⟩
  · refine ⟨created, fun vertex => ⟨fun member => ?_, fun uncloned => ?_⟩, ?_⟩
    · exact ⟨named member, (grown.ofVertices.copy member).1⟩
    · obtain ⟨member, missing⟩ := uncloned
      have found := (grown.vertexClone?_isSome_iff vertex).mp (cloned vertex member)
      simpa [missing] using found
    · rw [verticesKept]
      exact grown.ofVertices
  · exact ⟨outVertex, inVertex, (congrFun clonesKept _).trans outFound,
      (congrFun clonesKept _).trans inFound, edgesKept ▸ adds⟩

/-- Where no endpoint may be created, an edge is cloned if both endpoints have clones. -/
theorem cloneEdge_plain (plain : options.createVertices = false)
    (unknown : store.edgeClone? ⟨source, edge.id⟩ = none) :
    (∃ id, (store.cloneEdge source origin edge options).1 = .ok (some id)) ↔
      ∀ endpoint ∈ edge.endpoints, (store.vertexClone? ⟨source, endpoint⟩).isSome = true := by
  simp only [Store.cloneEdge, unknown, plain, Bool.false_eq_true, if_false]
  constructor
  · rintro ⟨id, attached⟩ endpoint member
    refine Option.isSome_iff_ne_none.mpr fun missing => ?_
    rw [(attachClone_of_missing ⟨endpoint, member, missing⟩ options).2] at attached
    split at attached <;> cases attached
  · exact fun cloned => ⟨_, attachClone_of_cloned options cloned⟩

end Creating

end Store

namespace World

section Creating

variable {world : World} {source target : GraphId}

theorem cloneEdge_result (foreign : source ≠ target) (edge : Edge) (options : CloneOptions) :
    (world.cloneEdge target source edge options).1 =
      ((world.store target).cloneEdge source (world.store source) edge options).1 := by
  simp [cloneEdge, foreign]

/-- What cloning an edge with its endpoints does, whatever the other options are.  A clone that
the edge has is answered.  Otherwise the edge is cloned exactly if both endpoints are stored in its
graph, and the first one that is not stored is reported, even if it has a clone.  So an edge is
cloned where no endpoint may be created and refused where they may exactly if it has no clone, both
endpoints have, and one of them is not stored any more; it is then refused without a change. -/
theorem cloneEdge_creating (reached : ∀ graph, (world.store graph).Reached)
    (foreign : source ≠ target) (edge : Edge) {options : CloneOptions}
    (creates : options.createVertices = true) :
    (world.cloneEdge target source edge options).1 =
      (match (world.store target).edgeClone? ⟨source, edge.id⟩, (world.store source).gone? edge with
      | some clone, _ => .ok (some clone)
      | none, some missing => .error (.vertexNotFound missing)
      | none, none => .ok (some ⟨(world.store target).nextEdge⟩)) ∧
    (∀ id, (world.cloneEdge target source edge options).1 = .ok (some id) →
      ((world.store target).edgeClone? ⟨source, edge.id⟩ = some id ∧
        (world.cloneEdge target source edge options).2.store target = world.store target) ∨
      ((world.store target).edgeClone? ⟨source, edge.id⟩ = none ∧
        Store.ClonedWithEndpoints source (world.store source) (world.store target) edge id
          ((world.cloneEdge target source edge options).2.store target))) ∧
    (∀ plain : CloneOptions, plain.createVertices = false →
      ((∃ id, (world.cloneEdge target source edge plain).1 = .ok (some id)) ∧
          (∀ id, (world.cloneEdge target source edge options).1 ≠ .ok (some id)) ↔
        (world.store target).edgeClone? ⟨source, edge.id⟩ = none ∧
          (∀ endpoint ∈ edge.endpoints,
            ((world.store target).vertexClone? ⟨source, endpoint⟩).isSome = true) ∧
          (world.store source).gone? edge ≠ none)) ∧
    ((∀ endpoint ∈ edge.endpoints,
        ((world.store target).vertexClone? ⟨source, endpoint⟩).isSome = true) →
      ∀ error, (world.cloneEdge target source edge options).1 = .error error →
        (world.cloneEdge target source edge options).2.store target = world.store target) := by
  have targetReached := reached target
  have sourceReached := reached source
  simp only [cloneEdge_result foreign, world.store_cloneEdge foreign]
  cases found : (world.store target).edgeClone? ⟨source, edge.id⟩ with
  | some clone =>
      simp [Store.cloneEdge_of_known found]
  | none =>
      have plainly := @Store.cloneEdge_plain (world.store target) (world.store source) source edge
      cases gone : (world.store source).gone? edge with
      | some missing =>
          have refused := Store.cloneEdge_of_gone found creates gone
          refine ⟨refused, fun id cloned => ?_, fun plain uncreating => ?_, ?_⟩
          · rw [refused] at cloned
            cases cloned
          · rw [plainly uncreating found, refused]
            simp
          · intro cloned error failed
            refine Store.failed_cloneEdge targetReached.consistent targetReached.known
              sourceReached.consistent failed fun halfway => ?_
            have outCloned := cloned edge.outVertex (Edge.mem_endpoints.mpr (Or.inl rfl))
            simp [halfway.outUncloned] at outCloned
      | none =>
          obtain ⟨answered, made⟩ := Store.cloneEdge_of_stored targetReached.consistent
            targetReached.known sourceReached.consistent found creates gone
          refine ⟨answered, fun id cloned => ?_, fun plain uncreating => ?_, ?_⟩
          · rw [answered] at cloned
            obtain rfl := Option.some.inj (Except.ok.inj cloned)
            exact Or.inr ⟨rfl, made⟩
          · simp [answered]
          · intro cloned error failed
            rw [answered] at failed
            cases failed

end Creating

/-- A graph whose edge from its first vertex to its second has been removed with the second vertex,
and a graph with clones of both. -/
def removedEndpoint : World :=
  ((empty.addGraph true TransactionConfig.standard).2.addGraph true
    TransactionConfig.standard).2.performAll
    [(⟨1⟩, .write (.addVertex Dict.empty)), (⟨1⟩, .write (.addVertex Dict.empty)),
      (⟨1⟩, .write (.addEdge "next" ⟨1⟩ ⟨2⟩ Dict.empty)),
      (⟨2⟩, .cloneVertex ⟨1⟩ ⟨⟨1⟩, Dict.empty, none⟩),
      (⟨2⟩, .cloneVertex ⟨1⟩ ⟨⟨2⟩, Dict.empty, none⟩),
      (⟨1⟩, .write (.removeVertex ⟨2⟩))]

/-- The edge is cloned where no endpoint may be created, and refused where they may. -/
theorem removed_endpoint_refused :
    let edge : Edge := ⟨⟨1⟩, "next", ⟨1⟩, ⟨2⟩, Dict.empty, none⟩
    (∃ id, (removedEndpoint.cloneEdge ⟨2⟩ ⟨1⟩ edge .standard).1 = .ok (some id)) ∧
      (removedEndpoint.cloneEdge ⟨2⟩ ⟨1⟩ edge .creating).1 = .error (.vertexNotFound ⟨2⟩) := by
  intro edge
  have fresh : ∀ graph, (empty.store graph).Reached := fun _ => .empty false
  have reached : ∀ graph, (removedEndpoint.store graph).Reached :=
    reached_performAll (reached_addGraph (reached_addGraph fresh _ _) _ _) _
  have creates : CloneOptions.creating.createVertices = true := rfl
  obtain ⟨answer, -, compared, -⟩ :=
    cloneEdge_creating reached (show (⟨1⟩ : GraphId) ≠ ⟨2⟩ by decide) edge creates
  exact ⟨((compared .standard rfl).mpr ⟨by decide, by decide, by decide⟩).1, answer⟩

end World

end RoutedGraph
