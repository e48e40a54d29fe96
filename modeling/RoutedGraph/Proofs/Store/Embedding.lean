import RoutedGraph.Proofs.Route.Copying
import RoutedGraph.Proofs.Store.Identity
import RoutedGraph.Proofs.World.GraphStep

/-!
# Clones as an embedding

The records of clones map the elements of other graphs to elements of a store.
No two elements have the same clone, and the clone of an edge looks like its
original and lies between the clones of the original's endpoints.  Records of
clones that are gone stay behind and are overwritten when an element is cloned
again; since identifiers are never handed out twice and a vertex takes its
edges with it, no stored edge relies on a record that is overwritten.  Only an
abort can break this, because it forgets records of clones that come back.
-/

namespace RoutedGraph

namespace Store

/-- The clone of an edge has its label and properties, and lies between what the store has recorded
as the clones of its endpoints. -/
structure Mirrors (store : Store) (source : GraphId) (edge copy : Edge) : Prop where
  label : copy.label = edge.label
  properties : copy.properties = edge.properties
  outVertex : store.vertexClones.get? ⟨source, edge.outVertex⟩ = some copy.outVertex
  inVertex : store.vertexClones.get? ⟨source, edge.inVertex⟩ = some copy.inVertex

/-- Different elements have different clones, and clones of edges mirror their originals. -/
structure Embedded (IsOriginal : Foreign EdgeId → Edge → Prop) (store : Store) : Prop where
  vertex_injective : ∀ {first second : Foreign VertexId} {clone : VertexId},
    store.vertexClones.get? first = some clone → store.vertexClones.get? second = some clone →
    first = second
  edge_injective : ∀ {first second : Foreign EdgeId} {clone : EdgeId},
    store.edgeClones.get? first = some clone → store.edgeClones.get? second = some clone →
    first = second
  edge_mirrors : ∀ {origin : Foreign EdgeId} {clone : EdgeId} {copy : Edge},
    store.edgeClones.get? origin = some clone → store.edges.get? clone = some copy →
    ∃ edge, IsOriginal origin edge ∧ store.Mirrors origin.graph edge copy

/-- A store in which clones are an embedding, with what keeps them one. -/
structure Embedding (IsOriginal : Foreign EdgeId → Edge → Prop) (store : Store) : Prop where
  consistent : store.Consistent
  known : store.ClonesKnown
  identities : store.Identities
  embedded : store.Embedded IsOriginal

theorem embedding_empty (IsOriginal : Foreign EdgeId → Edge → Prop) (transactional : Bool) :
    (empty transactional).Embedding IsOriginal where
  consistent := consistent_empty transactional
  known := clonesKnown_empty transactional
  identities := identities_empty transactional
  embedded :=
    { vertex_injective := fun found => by simp [empty] at found
      edge_injective := fun found => by simp [empty] at found
      edge_mirrors := fun found => by simp [empty] at found }

/-- A record that is new, of an identifier that no other record has, keeps records injective. -/
theorem injective_insert {ι : Type} [DecidableEq ι] [Ord ι] {records : Dict (Foreign ι) ι}
    {origin : Foreign ι} {fresh : ι} (unused : ∀ other, records.get? other ≠ some fresh)
    (injective : ∀ {first second : Foreign ι} {clone : ι},
      records.get? first = some clone → records.get? second = some clone → first = second)
    {first second : Foreign ι} {clone : ι}
    (firstFound : (records.insert origin fresh).get? first = some clone)
    (secondFound : (records.insert origin fresh).get? second = some clone) : first = second := by
  rw [Dict.get?_insert] at firstFound secondFound
  split at firstFound
  · next firstSame =>
      split at secondFound
      · next secondSame => exact firstSame.symm.trans secondSame
      · exact absurd (secondFound.trans firstFound.symm) (unused second)
  · split at secondFound
    · exact absurd (firstFound.trans secondFound.symm) (unused first)
    · exact injective firstFound secondFound

namespace Embedding

variable {IsOriginal : Foreign EdgeId → Edge → Prop} {store : Store}

theorem mono {Later : Foreign EdgeId → Edge → Prop} (embedding : store.Embedding IsOriginal)
    (more : ∀ {origin edge}, IsOriginal origin edge → Later origin edge) :
    store.Embedding Later :=
  { embedding with
    embedded :=
      { embedding.embedded with
        edge_mirrors := fun recorded stored => by
          obtain ⟨edge, original, mirrors⟩ := embedding.embedded.edge_mirrors recorded stored
          exact ⟨edge, more original, mirrors⟩ } }

theorem commit (embedding : store.Embedding IsOriginal) : store.commit.Embedding IsOriginal where
  consistent := embedding.consistent.commit
  known := embedding.known.commit
  identities := embedding.identities.apply .commit
  embedded :=
    { vertex_injective := embedding.embedded.vertex_injective
      edge_injective := embedding.embedded.edge_injective
      edge_mirrors := fun recorded stored => by
        obtain ⟨edge, original, mirrors⟩ := embedding.embedded.edge_mirrors recorded stored
        exact ⟨edge, original, mirrors.label, mirrors.properties, mirrors.outVertex,
          mirrors.inVertex⟩ }

/-- A write to vertices and edges changes neither a record nor an edge that is recorded. -/
theorem write (embedding : store.Embedding IsOriginal) (write : GraphWrite) :
    (store.apply write.op).2.Embedding IsOriginal := by
  obtain ⟨changes, writes, noted⟩ := writes_apply embedding.consistent write.isBoundary_op
  have vertexRecords := fun origin => writes.vertexClones origin (noted.vertexCloned_not_mem origin)
  have edgeRecords := fun origin => writes.edgeClones origin (noted.edgeCloned_not_mem origin)
  refine ⟨writes.consistent, writes.clonesKnown embedding.known noted.vertexCloned_not_mem
    noted.edgeCloned_not_mem, embedding.identities.apply write.op, ?_, ?_, ?_⟩
  · intro first second clone firstFound secondFound
    rw [vertexRecords] at firstFound secondFound
    exact embedding.embedded.vertex_injective firstFound secondFound
  · intro first second clone firstFound secondFound
    rw [edgeRecords] at firstFound secondFound
    exact embedding.embedded.edge_injective firstFound secondFound
  · intro origin clone copy recorded stored
    rw [edgeRecords] at recorded
    have older : store.edges.contains clone = true := by
      refine (writes.edge_old ((Dict.contains_iff_get? _ _).mpr ⟨copy, stored⟩)).resolve_right ?_
      exact Nat.not_le_of_lt (embedding.known.edge_lt recorded)
    obtain ⟨former, found⟩ := (Dict.contains_iff_get? _ _).mp older
    have same : copy = former :=
      embedding.identities.edge_eq embedding.consistent [write.op] writes.consistent found stored
    obtain ⟨edge, original, mirrors⟩ := embedding.embedded.edge_mirrors recorded found
    rw [← same] at mirrors
    exact ⟨edge, original, mirrors.label, mirrors.properties,
      (vertexRecords _).trans mirrors.outVertex, (vertexRecords _).trans mirrors.inVertex⟩

/-- A new clone of a vertex that has none takes a record over only from a vertex that is gone, at
which no edge is left. -/
theorem withVertexClone (embedding : store.Embedding IsOriginal) {origin : Foreign VertexId}
    (missing : store.vertexClone? origin = none) (properties : Properties) :
    (store.withVertexClone origin properties).Embedding IsOriginal := by
  have clones :=
    clones_withVertexClone embedding.consistent embedding.known missing properties
  have unused : ∀ other, store.vertexClones.get? other ≠ some ⟨store.nextVertex⟩ :=
    fun other recorded => Nat.lt_irrefl _ (embedding.known.vertex_lt recorded)
  have kept : ∀ {other clone}, store.vertexClones.get? other = some clone →
      store.vertices.contains clone = true →
      (store.withVertexClone origin properties).vertexClones.get? other = some clone := by
    intro other clone recorded stored
    exact (vertexClone?_eq_some_iff.mp
      (clones.vertex_kept (vertexClone?_eq_some_iff.mpr ⟨recorded, stored⟩))).1
  refine ⟨clones.writes.consistent, clones.known,
    (embedding.identities.apply (.addVertex properties)).apply (.recordVertexClone origin _),
    injective_insert unused embedding.embedded.vertex_injective,
    embedding.embedded.edge_injective, ?_⟩
  intro other clone copy recorded stored
  obtain ⟨edge, original, mirrors⟩ := embedding.embedded.edge_mirrors recorded stored
  have content := embedding.consistent.content
  exact ⟨edge, original, mirrors.label, mirrors.properties,
    kept mirrors.outVertex (content.outVertex_stored stored),
    kept mirrors.inVertex (content.inVertex_stored stored)⟩

theorem withEdgeClone (embedding : store.Embedding IsOriginal) {origin : Foreign EdgeId}
    {edge : Edge} (original : IsOriginal origin edge)
    (missing : store.edgeClone? origin = none) {outVertex inVertex : VertexId}
    (outCloned : store.vertexClone? ⟨origin.graph, edge.outVertex⟩ = some outVertex)
    (inCloned : store.vertexClone? ⟨origin.graph, edge.inVertex⟩ = some inVertex) :
    (store.withEdgeClone origin edge.label outVertex inVertex edge.properties).Embedding
      IsOriginal := by
  obtain ⟨outRecorded, outStored⟩ := vertexClone?_eq_some_iff.mp outCloned
  obtain ⟨inRecorded, inStored⟩ := vertexClone?_eq_some_iff.mp inCloned
  have clones := clones_withEdgeClone embedding.consistent embedding.known missing outStored
    inStored edge.label edge.properties
  have unused : ∀ other, store.edgeClones.get? other ≠ some ⟨store.nextEdge⟩ :=
    fun other recorded => Nat.lt_irrefl _ (embedding.known.edge_lt recorded)
  have identities : (store.withEdgeClone origin edge.label outVertex inVertex
      edge.properties).Identities :=
    (embedding.identities.apply (.addEdge edge.label outVertex inVertex edge.properties)).apply
      (.recordEdgeClone origin ⟨store.nextEdge⟩)
  have consistent := clones.writes.consistent
  have known := clones.known
  simp only [Store.withEdgeClone, addEdge_eq outStored inStored] at consistent known identities ⊢
  refine ⟨consistent, known, identities, embedding.embedded.vertex_injective,
    injective_insert unused embedding.embedded.edge_injective, ?_⟩
  intro other clone copy recorded stored
  change (store.edgeClones.insert origin ⟨store.nextEdge⟩).get? other = some clone at recorded
  change (store.edges.insert ⟨store.nextEdge⟩ _).get? clone = some copy at stored
  rw [Dict.get?_insert] at recorded stored
  split at recorded
  · next same =>
      subst same
      rw [if_pos (Option.some.inj recorded)] at stored
      obtain rfl := Option.some.inj stored
      exact ⟨edge, original, rfl, rfl, outRecorded, inRecorded⟩
  · have older : (⟨store.nextEdge⟩ : EdgeId) ≠ clone := by
      rintro rfl
      exact unused other recorded
    rw [if_neg older] at stored
    obtain ⟨former, formerOriginal, mirrors⟩ := embedding.embedded.edge_mirrors recorded stored
    exact ⟨former, formerOriginal, mirrors.label, mirrors.properties, mirrors.outVertex,
      mirrors.inVertex⟩

theorem cloneVertex (embedding : store.Embedding IsOriginal) (source : GraphId)
    (vertex : Vertex) : (store.cloneVertex source vertex).2.1.Embedding IsOriginal := by
  cases found : store.vertexClone? ⟨source, vertex.id⟩ with
  | some clone =>
      rw [cloneVertex_of_found found]
      exact embedding
  | none =>
      rw [cloneVertex_of_missing found]
      exact embedding.withVertexClone found vertex.properties

theorem cloneEndpoints (embedding : store.Embedding IsOriginal) (source : GraphId)
    (origin : Store) (endpoints : List VertexId) :
    (store.cloneEndpoints source origin endpoints).2.1.Embedding IsOriginal := by
  induction endpoints generalizing store with
  | nil => exact embedding
  | cons endpoint rest ih =>
      unfold Store.cloneEndpoints
      split
      · exact embedding
      · next vertex _ => exact ih (embedding.cloneVertex source vertex)

theorem attachClone (embedding : store.Embedding IsOriginal) {source : GraphId} {edge : Edge}
    (original : IsOriginal ⟨source, edge.id⟩ edge)
    (missing : store.edgeClone? ⟨source, edge.id⟩ = none) (options : CloneOptions) :
    (store.attachClone source edge options).2.1.Embedding IsOriginal := by
  rcases store.attachClone_cases source edge options with ⟨outVertex, inVertex, outFound, inFound⟩ |
    ⟨unchanged, -⟩
  · rw [attachClone_of_found outFound inFound]
    exact embedding.withEdgeClone original missing outFound inFound
  · rw [unchanged]
    exact embedding

theorem cloneEdge (embedding : store.Embedding IsOriginal) {source : GraphId} {edge : Edge}
    (original : IsOriginal ⟨source, edge.id⟩ edge) (origin : Store) (options : CloneOptions) :
    (store.cloneEdge source origin edge options).2.1.Embedding IsOriginal := by
  cases found : store.edgeClone? ⟨source, edge.id⟩ with
  | some clone =>
      simp only [Store.cloneEdge, found]
      exact embedding
  | none =>
      cases creates : options.createVertices with
      | false =>
          simp only [Store.cloneEdge, found, creates]
          exact embedding.attachClone original found options
      | true =>
          obtain ⟨changes, clones, noEdges⟩ := clones_cloneEndpoints embedding.consistent
            embedding.known source origin edge.endpoints
          have stillMissing := clones.writes.edgeClone?_eq_none embedding.known (noEdges _) found
          have prepared := embedding.cloneEndpoints source origin edge.endpoints
          simp only [Store.cloneEdge, found, creates, if_true]
          generalize store.cloneEndpoints source origin edge.endpoints = outcome
            at prepared stillMissing
          obtain ⟨result, grown, events⟩ := outcome
          cases result with
          | error error => exact prepared
          | ok value => exact prepared.attachClone original stillMissing options

theorem vertexClone?_injective (embedding : store.Embedding IsOriginal)
    {first second : Foreign VertexId} {clone : VertexId}
    (firstFound : store.vertexClone? first = some clone)
    (secondFound : store.vertexClone? second = some clone) : first = second :=
  embedding.embedded.vertex_injective (vertexClone?_eq_some_iff.mp firstFound).1
    (vertexClone?_eq_some_iff.mp secondFound).1

theorem edgeClone?_injective (embedding : store.Embedding IsOriginal)
    {first second : Foreign EdgeId} {clone : EdgeId}
    (firstFound : store.edgeClone? first = some clone)
    (secondFound : store.edgeClone? second = some clone) : first = second :=
  embedding.embedded.edge_injective (edgeClone?_eq_some_iff.mp firstFound).1
    (edgeClone?_eq_some_iff.mp secondFound).1

/-- A clone of an edge that is found is stored, and lies between the clones of the endpoints of its
original. -/
theorem edgeClone?_mirrors (embedding : store.Embedding IsOriginal) {origin : Foreign EdgeId}
    {clone : EdgeId} (found : store.edgeClone? origin = some clone) :
    ∃ edge copy, IsOriginal origin edge ∧ store.edge? clone = some copy ∧
      copy.label = edge.label ∧ copy.properties = edge.properties ∧
      store.vertexClone? ⟨origin.graph, edge.outVertex⟩ = some copy.outVertex ∧
      store.vertexClone? ⟨origin.graph, edge.inVertex⟩ = some copy.inVertex := by
  obtain ⟨recorded, present⟩ := edgeClone?_eq_some_iff.mp found
  obtain ⟨copy, stored⟩ := (Dict.contains_iff_get? _ _).mp present
  obtain ⟨edge, original, mirrors⟩ := embedding.embedded.edge_mirrors recorded stored
  have content := embedding.consistent.content
  exact ⟨edge, copy, original, stored, mirrors.label, mirrors.properties,
    vertexClone?_eq_some_iff.mpr ⟨mirrors.outVertex, content.outVertex_stored stored⟩,
    vertexClone?_eq_some_iff.mpr ⟨mirrors.inVertex, content.inVertex_stored stored⟩⟩

end Embedding

end Store

end RoutedGraph
