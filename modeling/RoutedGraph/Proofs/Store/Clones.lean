import RoutedGraph.Proofs.Store.CloneRecords
import RoutedGraph.World.Clone

/-!
# Clones within a store

Cloning writes a copy only where there is none: it turns the look-ups of the
elements it copies from nothing to the copy and keeps every copy that was
already found.
-/

namespace RoutedGraph

namespace Store

/-- Writes that only add clones where there are none. -/
structure Clones (before : Store) (changes : List Change) (after : Store) : Prop where
  writes : Writes before changes after
  known : after.ClonesKnown
  vertex_made : ∀ {origin : Foreign VertexId}, Change.vertexCloned origin ∈ changes →
    before.vertexClone? origin = none ∧ ∃ clone, after.vertexClone? origin = some clone
  edge_made : ∀ {origin : Foreign EdgeId}, Change.edgeCloned origin ∈ changes →
    before.edgeClone? origin = none ∧ ∃ clone, after.edgeClone? origin = some clone
  vertex_kept : ∀ {origin : Foreign VertexId} {clone : VertexId},
    before.vertexClone? origin = some clone → after.vertexClone? origin = some clone
  edge_kept : ∀ {origin : Foreign EdgeId} {clone : EdgeId},
    before.edgeClone? origin = some clone → after.edgeClone? origin = some clone

namespace Clones

variable {before middle after : Store} {earlier later : List Change}

theorem refl (consistent : before.Consistent) (known : before.ClonesKnown) :
    Clones before [] before where
  writes := Writes.refl consistent
  known := known
  vertex_made member := by simp at member
  edge_made member := by simp at member
  vertex_kept found := found
  edge_kept found := found

theorem trans (first : Clones before earlier middle) (second : Clones middle later after) :
    Clones before (later ++ earlier) after where
  writes := first.writes.trans second.writes
  known := second.known
  vertex_made {origin} member := by
    rcases List.mem_append.mp member with late | early
    · obtain ⟨missing, made⟩ := second.vertex_made late
      refine ⟨?_, made⟩
      cases found : before.vertexClone? origin with
      | none => rfl
      | some clone =>
          rw [first.vertex_kept found] at missing
          contradiction
    · obtain ⟨missing, clone, made⟩ := first.vertex_made early
      exact ⟨missing, clone, second.vertex_kept made⟩
  edge_made {origin} member := by
    rcases List.mem_append.mp member with late | early
    · obtain ⟨missing, made⟩ := second.edge_made late
      refine ⟨?_, made⟩
      cases found : before.edgeClone? origin with
      | none => rfl
      | some clone =>
          rw [first.edge_kept found] at missing
          contradiction
    · obtain ⟨missing, clone, made⟩ := first.edge_made early
      exact ⟨missing, clone, second.edge_kept made⟩
  vertex_kept found := second.vertex_kept (first.vertex_kept found)
  edge_kept found := second.edge_kept (first.edge_kept found)

/-- Cloning records no clone where one is found. -/
theorem advance (clones : Clones before earlier after) (known : before.ClonesKnown) :
    Advance before earlier after where
  writes := clones.writes
  known := clones.known
  vertexCloned origin := by
    constructor
    · intro recorded
      obtain ⟨missing, clone, found⟩ := clones.vertex_made recorded
      simp [missing, found]
    · rintro ⟨missing, found⟩
      refine Classical.byContradiction fun unrecorded => found ?_
      exact clones.writes.vertexClone?_eq_none known unrecorded missing
  edgeCloned origin := by
    constructor
    · intro recorded
      obtain ⟨missing, clone, found⟩ := clones.edge_made recorded
      simp [missing, found]
    · rintro ⟨missing, found⟩
      refine Classical.byContradiction fun unrecorded => found ?_
      exact clones.writes.edgeClone?_eq_none known unrecorded missing

end Clones

section Cloning

variable {store : Store}

/-- The store with a new vertex that is recorded as a clone. -/
def withVertexClone (store : Store) (origin : Foreign VertexId) (properties : Properties) : Store :=
  (store.addVertex properties).2.recordVertexClone origin ⟨store.nextVertex⟩

theorem clones_withVertexClone (consistent : store.Consistent) (known : store.ClonesKnown)
    {origin : Foreign VertexId} (missing : store.vertexClone? origin = none)
    (properties : Properties) :
    Clones store [.vertexCloned origin, .createdVertex ⟨store.nextVertex⟩]
      (store.withVertexClone origin properties) := by
  have added := writes_addVertex consistent properties
  have recorded := writes_recordVertexClone added.consistent origin ⟨store.nextVertex⟩
  have entries : ∀ other, (store.withVertexClone origin properties).vertexClones.get? other =
      if origin = other then some ⟨store.nextVertex⟩ else store.vertexClones.get? other :=
    fun other => Dict.get?_insert _ _ _ _
  have stored : ∀ other, (store.withVertexClone origin properties).vertices.get? other =
      if ⟨store.nextVertex⟩ = other then some ⟨⟨store.nextVertex⟩, properties, none⟩
      else store.vertices.get? other :=
    fun other => Dict.get?_insert _ _ _ _
  refine ⟨added.trans recorded, ⟨?_, ?_⟩, ?_, ?_, ?_, fun found => found⟩
  · intro other clone entry
    rw [entries] at entry
    split at entry
    · obtain rfl := Option.some.inj entry
      exact Nat.lt_succ_self _
    · exact Nat.lt_succ_of_lt (known.vertex_lt entry)
  · intro other clone entry
    exact known.edge_lt entry
  · intro other member
    obtain rfl : other = origin := by simpa using member
    refine ⟨missing, ⟨store.nextVertex⟩, vertexClone?_eq_some_iff.mpr ⟨?_, ?_⟩⟩
    · simp [entries]
    · simp [Dict.contains, stored]
  · intro other member
    simp at member
  · intro other clone found
    obtain ⟨entry, present⟩ := vertexClone?_eq_some_iff.mp found
    have different : origin ≠ other := by
      rintro rfl
      rw [missing] at found
      contradiction
    refine vertexClone?_eq_some_iff.mpr ⟨?_, ?_⟩
    · rw [entries, if_neg different]
      exact entry
    · simp only [Dict.contains, stored]
      split
      · rfl
      · exact present

theorem cloneVertex_of_missing {source : GraphId} {vertex : Vertex}
    (missing : store.vertexClone? ⟨source, vertex.id⟩ = none) :
    store.cloneVertex source vertex =
      (⟨store.nextVertex⟩, store.withVertexClone ⟨source, vertex.id⟩ vertex.properties,
        [.vertexCloned vertex.id ⟨store.nextVertex⟩]) := by
  simp [cloneVertex, missing, withVertexClone, addVertex]

theorem cloneVertex_of_found {source : GraphId} {vertex : Vertex} {clone : VertexId}
    (found : store.vertexClone? ⟨source, vertex.id⟩ = some clone) :
    store.cloneVertex source vertex = (clone, store, []) := by
  simp [cloneVertex, found]

theorem clones_cloneVertex (consistent : store.Consistent) (known : store.ClonesKnown)
    (source : GraphId) (vertex : Vertex) :
    ∃ changes, Clones store changes (store.cloneVertex source vertex).2.1 ∧
      ∀ origin, Change.edgeCloned origin ∉ changes := by
  cases found : store.vertexClone? ⟨source, vertex.id⟩ with
  | some clone =>
      rw [cloneVertex_of_found found]
      exact ⟨[], Clones.refl consistent known, by simp⟩
  | none =>
      rw [cloneVertex_of_missing found]
      exact ⟨_, clones_withVertexClone consistent known found vertex.properties, by simp⟩

theorem clones_cloneEndpoints (consistent : store.Consistent) (known : store.ClonesKnown)
    (source : GraphId) (origin : Store) (endpoints : List VertexId) :
    ∃ changes, Clones store changes (store.cloneEndpoints source origin endpoints).2.1 ∧
      ∀ edgeOrigin, Change.edgeCloned edgeOrigin ∉ changes := by
  induction endpoints generalizing store with
  | nil => exact ⟨[], Clones.refl consistent known, by simp⟩
  | cons endpoint rest ih =>
      cases found : origin.vertex? endpoint with
      | none =>
          simp only [cloneEndpoints, found]
          exact ⟨[], Clones.refl consistent known, by simp⟩
      | some vertex =>
          obtain ⟨earlier, first, firstEdges⟩ :=
            clones_cloneVertex consistent known source vertex
          obtain ⟨later, second, secondEdges⟩ := ih first.writes.consistent first.known
          simp only [cloneEndpoints, found]
          refine ⟨later ++ earlier, first.trans second, ?_⟩
          intro edgeOrigin member
          rcases List.mem_append.mp member with late | early
          · exact secondEdges edgeOrigin late
          · exact firstEdges edgeOrigin early

/-- The store with a new edge that is recorded as a clone. -/
def withEdgeClone (store : Store) (origin : Foreign EdgeId) (label : String)
    (outVertex inVertex : VertexId) (properties : Properties) : Store :=
  (store.addEdge label outVertex inVertex properties).2.recordEdgeClone origin ⟨store.nextEdge⟩

theorem clones_withEdgeClone (consistent : store.Consistent) (known : store.ClonesKnown)
    {origin : Foreign EdgeId} (missing : store.edgeClone? origin = none)
    {outVertex inVertex : VertexId} (outStored : store.vertices.contains outVertex = true)
    (inStored : store.vertices.contains inVertex = true) (label : String)
    (properties : Properties) :
    Clones store [.edgeCloned origin, .createdEdge ⟨store.nextEdge⟩]
      (store.withEdgeClone origin label outVertex inVertex properties) := by
  have added := writes_addEdge consistent outStored inStored label properties
  have recorded := writes_recordEdgeClone added.consistent origin ⟨store.nextEdge⟩
  have result := addEdge_eq outStored inStored label properties
  have entries : ∀ other,
      (store.withEdgeClone origin label outVertex inVertex properties).edgeClones.get? other =
        if origin = other then some ⟨store.nextEdge⟩ else store.edgeClones.get? other := by
    intro other
    simp only [withEdgeClone, result]
    exact Dict.get?_insert _ _ _ _
  have stored : ∀ other,
      (store.withEdgeClone origin label outVertex inVertex properties).edges.get? other =
        if ⟨store.nextEdge⟩ = other then
          some ⟨⟨store.nextEdge⟩, label, outVertex, inVertex, properties, none⟩
        else store.edges.get? other := by
    intro other
    simp only [withEdgeClone, result]
    exact Dict.get?_insert _ _ _ _
  have verticesSame :
      (store.withEdgeClone origin label outVertex inVertex properties).vertices =
        store.vertices ∧
      (store.withEdgeClone origin label outVertex inVertex properties).vertexClones =
        store.vertexClones ∧
      (store.withEdgeClone origin label outVertex inVertex properties).nextVertex =
        store.nextVertex ∧
      (store.withEdgeClone origin label outVertex inVertex properties).nextEdge =
        store.nextEdge + 1 := by
    simp only [withEdgeClone, result]
    exact ⟨rfl, rfl, rfl, rfl⟩
  obtain ⟨sameVertices, sameClones, sameNext, advanced⟩ := verticesSame
  refine ⟨added.trans recorded, ⟨?_, ?_⟩, ?_, ?_, ?_, ?_⟩
  · intro other clone entry
    rw [sameClones] at entry
    rw [sameNext]
    exact known.vertex_lt entry
  · intro other clone entry
    rw [advanced]
    rw [entries] at entry
    split at entry
    · obtain rfl := Option.some.inj entry
      exact Nat.lt_succ_self _
    · exact Nat.lt_succ_of_lt (known.edge_lt entry)
  · intro other member
    simp at member
  · intro other member
    obtain rfl : other = origin := by simpa using member
    refine ⟨missing, ⟨store.nextEdge⟩, edgeClone?_eq_some_iff.mpr ⟨?_, ?_⟩⟩
    · simp [entries]
    · simp [Dict.contains, stored]
  · intro other clone found
    simpa only [vertexClone?, sameClones, sameVertices] using found
  · intro other clone found
    obtain ⟨entry, present⟩ := edgeClone?_eq_some_iff.mp found
    have different : origin ≠ other := by
      rintro rfl
      rw [missing] at found
      contradiction
    refine edgeClone?_eq_some_iff.mpr ⟨?_, ?_⟩
    · rw [entries, if_neg different]
      exact entry
    · simp only [Dict.contains, stored]
      split
      · rfl
      · exact present

theorem attachClone_of_found {source : GraphId} {edge : Edge} {outVertex inVertex : VertexId}
    (outFound : store.vertexClone? ⟨source, edge.outVertex⟩ = some outVertex)
    (inFound : store.vertexClone? ⟨source, edge.inVertex⟩ = some inVertex)
    (options : CloneOptions) :
    store.attachClone source edge options =
      (.ok (some ⟨store.nextEdge⟩),
        store.withEdgeClone ⟨source, edge.id⟩ edge.label outVertex inVertex edge.properties,
        [.edgeCloned edge.id ⟨store.nextEdge⟩]) := by
  have outStored := (vertexClone?_eq_some_iff.mp outFound).2
  have inStored := (vertexClone?_eq_some_iff.mp inFound).2
  simp [attachClone, outFound, inFound, addEdge_eq outStored inStored, withEdgeClone]

theorem clones_attachClone (consistent : store.Consistent) (known : store.ClonesKnown)
    (source : GraphId) (edge : Edge) (options : CloneOptions)
    (missing : store.edgeClone? ⟨source, edge.id⟩ = none) :
    ∃ changes, Clones store changes (store.attachClone source edge options).2.1 := by
  have idle : ∃ changes, Clones store changes store := ⟨[], Clones.refl consistent known⟩
  cases outFound : store.vertexClone? ⟨source, edge.outVertex⟩ with
  | none =>
      simp only [attachClone, outFound]
      split <;> exact idle
  | some outVertex =>
      cases inFound : store.vertexClone? ⟨source, edge.inVertex⟩ with
      | none =>
          simp only [attachClone, outFound, inFound]
          split <;> exact idle
      | some inVertex =>
          rw [attachClone_of_found outFound inFound]
          exact ⟨_, clones_withEdgeClone consistent known missing
            (vertexClone?_eq_some_iff.mp outFound).2 (vertexClone?_eq_some_iff.mp inFound).2
            edge.label edge.properties⟩

theorem clones_cloneEdge (consistent : store.Consistent) (known : store.ClonesKnown)
    (source : GraphId) (origin : Store) (edge : Edge) (options : CloneOptions) :
    ∃ changes, Clones store changes (store.cloneEdge source origin edge options).2.1 := by
  cases found : store.edgeClone? ⟨source, edge.id⟩ with
  | some clone =>
      simp only [cloneEdge, found]
      exact ⟨[], Clones.refl consistent known⟩
  | none =>
      cases creates : options.createVertices with
      | false =>
          simp only [cloneEdge, found, creates]
          exact clones_attachClone consistent known source edge options found
      | true =>
          obtain ⟨earlier, first, noEdges⟩ :=
            clones_cloneEndpoints consistent known source origin edge.endpoints
          have stillMissing := first.writes.edgeClone?_eq_none known (noEdges _) found
          simp only [cloneEdge, found, creates, if_true]
          generalize store.cloneEndpoints source origin edge.endpoints = outcome
            at first stillMissing
          obtain ⟨result, grown, events⟩ := outcome
          cases result with
          | error error => exact ⟨earlier, first⟩
          | ok value =>
              obtain ⟨later, second⟩ := clones_attachClone first.writes.consistent first.known
                source edge options stillMissing
              exact ⟨later ++ earlier, first.trans second⟩

end Cloning

end Store

end RoutedGraph
