import RoutedGraph.Proofs.Store.Content
import RoutedGraph.Store.Op

/-!
# What writes do to a store

Every write of a consistent store leaves a consistent store, and the changes it
adds to the undo log, taken back newest first, lead to the content before the
write.  A write that fails adds no change.
-/

namespace RoutedGraph

namespace Store

/-- The content is consistent, and all identifiers in it have been handed out. -/
structure Consistent (store : Store) : Prop where
  content : store.content.Consistent
  vertex_lt : ∀ {id : VertexId} {vertex : Vertex},
    store.vertices.get? id = some vertex → id.raw < store.nextVertex
  edge_lt : ∀ {id : EdgeId} {edge : Edge},
    store.edges.get? id = some edge → id.raw < store.nextEdge

theorem consistent_empty (transactional : Bool) : (empty transactional).Consistent where
  content := Content.consistent_empty
  vertex_lt found := by simp [empty] at found
  edge_lt found := by simp [empty] at found

namespace Consistent

variable {store : Store}

theorem vertex_fresh (consistent : store.Consistent) :
    store.vertices.get? ⟨store.nextVertex⟩ = none := by
  cases found : store.vertices.get? ⟨store.nextVertex⟩ with
  | none => rfl
  | some vertex => exact absurd (consistent.vertex_lt found) (Nat.lt_irrefl _)

theorem edge_fresh (consistent : store.Consistent) :
    store.edges.get? ⟨store.nextEdge⟩ = none := by
  cases found : store.edges.get? ⟨store.nextEdge⟩ with
  | none => rfl
  | some edge => exact absurd (consistent.edge_lt found) (Nat.lt_irrefl _)

theorem mem_edgesAt (consistent : store.Consistent) (vertex : VertexId) (id : EdgeId) :
    id ∈ store.edgesAt vertex ↔
      ∃ edge, store.edges.get? id = some edge ∧
        (edge.outVertex = vertex ∨ edge.inVertex = vertex) := by
  have leaving := consistent.content.mem_outgoing vertex id
  have entering := consistent.content.mem_incoming vertex id
  simp only [edgesAt, List.mem_append, List.mem_filter, edgesOut, edgesIn]
  constructor
  · rintro (out | ⟨inside, -⟩)
    · obtain ⟨edge, found, same⟩ := leaving.mp out
      exact ⟨edge, found, Or.inl same⟩
    · obtain ⟨edge, found, same⟩ := entering.mp inside
      exact ⟨edge, found, Or.inr same⟩
  · rintro ⟨edge, found, touches⟩
    by_cases out : id ∈ store.outgoing.ids vertex
    · exact Or.inl out
    · right
      rcases touches with same | same
      · exact absurd (leaving.mpr ⟨edge, found, same⟩) out
      · refine ⟨entering.mpr ⟨edge, found, same⟩, ?_⟩
        rw [← Index.holds_iff_mem] at out
        simpa using out

theorem nodup_edgesAt (consistent : store.Consistent) (vertex : VertexId) :
    (store.edgesAt vertex).Nodup := by
  have leaving := consistent.content.outgoing_sound.nodup_ids vertex
  have entering := consistent.content.incoming_sound.nodup_ids vertex
  refine List.nodup_append.mpr ⟨leaving, entering.filter _, ?_⟩
  rintro id out other inside rfl
  have listed := (Index.holds_iff_mem store.outgoing vertex id).mpr out
  simp [listed] at inside

end Consistent

/-- One store comes from another by writes that have noted some changes, newest first. -/
structure Writes (before : Store) (changes : List Change) (after : Store) : Prop where
  consistent : after.Consistent
  undo : after.undo = before.undo.map fun log => ⟨changes ++ log.changes⟩
  rewind : after.content.rewind changes = before.content
  nextVertex_le : before.nextVertex ≤ after.nextVertex
  nextEdge_le : before.nextEdge ≤ after.nextEdge
  vertex_old : ∀ {id : VertexId}, after.vertices.contains id = true →
    before.vertices.contains id = true ∨ before.nextVertex ≤ id.raw
  edge_old : ∀ {id : EdgeId}, after.edges.contains id = true →
    before.edges.contains id = true ∨ before.nextEdge ≤ id.raw
  vertexClones : ∀ origin, Change.vertexCloned origin ∉ changes →
    after.vertexClones.get? origin = before.vertexClones.get? origin
  edgeClones : ∀ origin, Change.edgeCloned origin ∉ changes →
    after.edgeClones.get? origin = before.edgeClones.get? origin

/-- A write before it is noted, with the change that takes it back.  What most writes leave alone
need not be said. -/
structure Written (before : Store) (change : Change) (written : Store) : Prop where
  consistent : written.Consistent
  revert : written.content.revert change = before.content
  undo : written.undo = before.undo := by rfl
  nextVertex_le : before.nextVertex ≤ written.nextVertex := by exact Nat.le_refl _
  nextEdge_le : before.nextEdge ≤ written.nextEdge := by exact Nat.le_refl _
  vertex_old : ∀ {id : VertexId}, written.vertices.contains id = true →
    before.vertices.contains id = true ∨ before.nextVertex ≤ id.raw := by
      exact fun stored => Or.inl stored
  edge_old : ∀ {id : EdgeId}, written.edges.contains id = true →
    before.edges.contains id = true ∨ before.nextEdge ≤ id.raw := by
      exact fun stored => Or.inl stored
  vertexClones : ∀ origin, Change.vertexCloned origin ≠ change →
    written.vertexClones.get? origin = before.vertexClones.get? origin := by
      exact fun _ _ => rfl
  edgeClones : ∀ origin, Change.edgeCloned origin ≠ change →
    written.edgeClones.get? origin = before.edgeClones.get? origin := by
      exact fun _ _ => rfl

namespace Writes

variable {before middle after written : Store} {change : Change}
  {changes earlier later : List Change}

theorem refl (consistent : before.Consistent) : Writes before [] before where
  consistent := consistent
  undo := by cases before.undo <;> simp
  rewind := rfl
  nextVertex_le := Nat.le_refl _
  nextEdge_le := Nat.le_refl _
  vertex_old stored := Or.inl stored
  edge_old stored := Or.inl stored
  vertexClones _ _ := rfl
  edgeClones _ _ := rfl

theorem trans (first : Writes before earlier middle) (second : Writes middle later after) :
    Writes before (later ++ earlier) after where
  consistent := second.consistent
  undo := by
    rw [second.undo, first.undo]
    cases before.undo <;> simp
  rewind := by
    rw [← first.rewind, ← second.rewind]
    simp [Content.rewind]
  nextVertex_le := Nat.le_trans first.nextVertex_le second.nextVertex_le
  nextEdge_le := Nat.le_trans first.nextEdge_le second.nextEdge_le
  vertex_old stored := by
    rcases second.vertex_old stored with old | fresh
    · exact first.vertex_old old
    · exact Or.inr (Nat.le_trans first.nextVertex_le fresh)
  edge_old stored := by
    rcases second.edge_old stored with old | fresh
    · exact first.edge_old old
    · exact Or.inr (Nat.le_trans first.nextEdge_le fresh)
  vertexClones origin unseen := by
    simp only [List.mem_append, not_or] at unseen
    rw [second.vertexClones origin unseen.1, first.vertexClones origin unseen.2]
  edgeClones origin unseen := by
    simp only [List.mem_append, not_or] at unseen
    rw [second.edgeClones origin unseen.1, first.edgeClones origin unseen.2]

theorem record (made : Written before change written) :
    Writes before [change] (written.record change) where
  consistent := ⟨made.consistent.content, made.consistent.vertex_lt, made.consistent.edge_lt⟩
  undo := by
    simp only [Store.record, made.undo]
    rfl
  rewind := made.revert
  nextVertex_le := made.nextVertex_le
  nextEdge_le := made.nextEdge_le
  vertex_old := made.vertex_old
  edge_old := made.edge_old
  vertexClones origin unseen := made.vertexClones origin (by simpa using unseen)
  edgeClones origin unseen := made.edgeClones origin (by simpa using unseen)

end Writes

section Operations

variable {store : Store}

theorem writes_addVertex (consistent : store.Consistent) (properties : Properties) :
    Writes store [.createdVertex ⟨store.nextVertex⟩] (store.addVertex properties).2 := by
  refine Writes.record
    { consistent := ⟨?_, ?_, consistent.edge_lt⟩
      revert := ?_
      nextVertex_le := Nat.le_succ _
      vertex_old := ?_ }
  · exact consistent.content.put rfl
  · intro id vertex stored
    simp only [Dict.get?_insert] at stored
    split at stored
    · next same =>
        subst same
        exact Nat.lt_succ_self _
    · exact Nat.lt_succ_of_lt (consistent.vertex_lt stored)
  · exact store.content.drop_put consistent.vertex_fresh _
  · intro id stored
    simp only [Dict.contains, Dict.get?_insert] at stored
    split at stored
    · next same =>
        subst same
        exact Or.inr (Nat.le_refl _)
    · exact Or.inl stored

theorem writes_setProperty (consistent : store.Consistent) {id : VertexId} {vertex : Vertex}
    (found : store.vertices.get? id = some vertex) (name : String) (value : Value) :
    Writes store [.propertySet id name (vertex.properties.get? name)]
      (store.setProperty id name value).2 := by
  have written : (store.setProperty id name value).2 =
      { store with
        vertices := store.vertices.insert id
          { vertex with properties := vertex.properties.insert name value } }.record
        (.propertySet id name (vertex.properties.get? name)) := by
    simp [setProperty, found]
  rw [written]
  refine Writes.record
    { consistent := ⟨?_, ?_, consistent.edge_lt⟩
      revert := ?_
      vertex_old := ?_ }
  · have own : vertex.id = id := consistent.content.vertex_id found
    exact consistent.content.put own
  · intro other otherVertex stored
    simp only [Dict.get?_insert] at stored
    split at stored
    · next same =>
        subst same
        exact consistent.vertex_lt found
    · exact consistent.vertex_lt stored
  · simp only [content, Content.revert, Dict.get?_insert_self, Content.withFormer_insert]
    exact store.content.put_put found _
  · intro other stored
    simp only [Dict.contains, Dict.get?_insert] at stored
    split at stored
    · next same =>
        subst same
        exact Or.inl ((Dict.contains_iff_get? _ _).mpr ⟨vertex, found⟩)
    · exact Or.inl stored

theorem addEdge_eq {outVertex inVertex : VertexId}
    (outStored : store.vertices.contains outVertex = true)
    (inStored : store.vertices.contains inVertex = true) (label : String)
    (properties : Properties) :
    store.addEdge label outVertex inVertex properties =
      (.ok ⟨store.nextEdge⟩,
        ({ store with nextEdge := store.nextEdge + 1 }.attach
          ⟨⟨store.nextEdge⟩, label, outVertex, inVertex, properties, none⟩).record
          (.createdEdge ⟨store.nextEdge⟩)) := by
  simp [addEdge, outStored, inStored]

theorem writes_addEdge (consistent : store.Consistent) {outVertex inVertex : VertexId}
    (outStored : store.vertices.contains outVertex = true)
    (inStored : store.vertices.contains inVertex = true) (label : String)
    (properties : Properties) :
    Writes store [.createdEdge ⟨store.nextEdge⟩]
      (store.addEdge label outVertex inVertex properties).2 := by
  rw [addEdge_eq outStored inStored]
  refine Writes.record
    { consistent := ⟨?_, consistent.vertex_lt, ?_⟩
      revert := ?_
      nextEdge_le := Nat.le_succ _
      edge_old := ?_ }
  · exact consistent.content.attach consistent.edge_fresh outStored inStored
  · intro id edge stored
    simp only [attach, Dict.get?_insert] at stored
    split at stored
    · next same =>
        subst same
        exact Nat.lt_succ_self _
    · exact Nat.lt_succ_of_lt (consistent.edge_lt stored)
  · rw [content_attach]
    exact Content.revert_attach consistent.content consistent.edge_fresh
  · intro id stored
    simp only [attach, Dict.contains, Dict.get?_insert] at stored
    split at stored
    · next same =>
        subst same
        exact Or.inr (Nat.le_refl _)
    · exact Or.inl stored

theorem removeEdge_eq {id : EdgeId} {edge : Edge} (found : store.edges.get? id = some edge) :
    store.removeEdge id = (.ok (), (store.detach edge id).record (.removedEdge edge)) := by
  simp [removeEdge, found]

theorem removeEdges_cons {id : EdgeId} {edge : Edge} (found : store.edges.get? id = some edge)
    (rest : List EdgeId) :
    store.removeEdges (id :: rest) = (store.removeEdge id).2.removeEdges rest := by
  simp [removeEdges, removeEdge_eq found]

theorem writes_removeEdge (consistent : store.Consistent) {id : EdgeId} {edge : Edge}
    (found : store.edges.get? id = some edge) :
    Writes store [.removedEdge edge] (store.removeEdge id).2 := by
  rw [removeEdge_eq found]
  refine Writes.record
    { consistent := ⟨?_, consistent.vertex_lt, ?_⟩
      revert := ?_
      edge_old := ?_ }
  · exact consistent.content.detach found
  · intro other otherEdge stored
    exact consistent.edge_lt (store.content.stored_of_detach edge id stored)
  · exact consistent.content.attach_detach found
  · intro other stored
    obtain ⟨kept, present⟩ := (Dict.contains_iff_get? _ _).mp stored
    exact Or.inl ((Dict.contains_iff_get? _ _).mpr
      ⟨kept, store.content.stored_of_detach edge id present⟩)

theorem writes_recordVertexClone (consistent : store.Consistent) (origin : Foreign VertexId)
    (clone : VertexId) :
    Writes store [.vertexCloned origin] (store.recordVertexClone origin clone) := by
  refine Writes.record
    { consistent := ⟨consistent.content, consistent.vertex_lt, consistent.edge_lt⟩
      revert := rfl
      vertexClones := ?_ }
  intro other different
  have elsewhere : origin ≠ other := fun same => different (congrArg _ same.symm)
  exact Dict.get?_insert_of_ne _ elsewhere _

theorem writes_recordEdgeClone (consistent : store.Consistent) (origin : Foreign EdgeId)
    (clone : EdgeId) :
    Writes store [.edgeCloned origin] (store.recordEdgeClone origin clone) := by
  refine Writes.record
    { consistent := ⟨consistent.content, consistent.vertex_lt, consistent.edge_lt⟩
      revert := rfl
      edgeClones := ?_ }
  intro other different
  have elsewhere : origin ≠ other := fun same => different (congrArg _ same.symm)
  exact Dict.get?_insert_of_ne _ elsewhere _

end Operations

/-- What removing some edges leaves of a store. -/
structure EdgesRemoved (store : Store) (ids : List EdgeId) (bare : Store) : Prop where
  vertices : bare.vertices = store.vertices
  edges : ∀ id, bare.edges.get? id = if id ∈ ids then none else store.edges.get? id
  nextVertex : bare.nextVertex = store.nextVertex
  nextEdge : bare.nextEdge = store.nextEdge

/-- Removing stored edges, each named once, succeeds and removes just them. -/
theorem removeEdges_spec {store : Store} (consistent : store.Consistent) {ids : List EdgeId}
    (distinct : ids.Nodup) (stored : ∀ id ∈ ids, store.edges.contains id = true) :
    (store.removeEdges ids).1 = .ok () ∧
      EdgesRemoved store ids (store.removeEdges ids).2 ∧
      ∃ changes, Writes store changes (store.removeEdges ids).2 ∧
        ∀ change ∈ changes, ∃ edge, change = .removedEdge edge := by
  -- What is left to remove stays stored, because no edge is named twice.
  induction ids generalizing store with
  | nil =>
      exact ⟨rfl, ⟨rfl, by simp [removeEdges], rfl, rfl⟩, [], Writes.refl consistent, by simp⟩
  | cons id rest ih =>
      obtain ⟨edge, found⟩ := (Dict.contains_iff_get? _ _).mp (stored id List.mem_cons_self)
      obtain ⟨apart, restDistinct⟩ := List.nodup_cons.mp distinct
      have first := writes_removeEdge consistent found
      have shrunk : (store.removeEdge id).2.edges = store.edges.erase id := by
        rw [removeEdge_eq found]
        rfl
      have restStored : ∀ other ∈ rest,
          (store.removeEdge id).2.edges.contains other = true := by
        intro other member
        have different : id ≠ other := fun same => apart (same ▸ member)
        have present := stored other (List.mem_cons_of_mem _ member)
        simpa [shrunk, Dict.contains, Dict.get?_erase, different] using present
      obtain ⟨succeeds, removed, changes, later, kinds⟩ :=
        ih first.consistent restDistinct restStored
      rw [removeEdges_cons found]
      refine ⟨succeeds, ⟨?_, ?_, ?_, ?_⟩, changes ++ [.removedEdge edge], first.trans later, ?_⟩
      · rw [removed.vertices, removeEdge_eq found]
        rfl
      · intro other
        rw [removed.edges, shrunk, Dict.get?_erase]
        by_cases same : id = other
        · simp [same]
        · simp [same, Ne.symm same]
      · rw [removed.nextVertex, removeEdge_eq found]
        rfl
      · rw [removed.nextEdge, removeEdge_eq found]
        rfl
      · intro change member
        rcases List.mem_append.mp member with old | new
        · exact kinds change old
        · exact ⟨edge, by simpa using new⟩

/-- A store without one of its vertices, once its edges are gone, with the change noted. -/
def dropVertex (bare : Store) (id : VertexId) (vertex : Vertex) : Store :=
  { bare with vertices := bare.vertices.erase id }.record (.removedVertex vertex)

/-- Removing a stored vertex succeeds: no edge of the cascade is missing. -/
theorem removeVertex_spec {store : Store} (consistent : store.Consistent) {id : VertexId}
    {vertex : Vertex} (found : store.vertices.get? id = some vertex) :
    ∃ bare, store.removeEdges (store.edgesAt id) = (.ok (), bare) ∧
      store.removeVertex id = (.ok (), bare.dropVertex id vertex) ∧
      EdgesRemoved store (store.edgesAt id) bare ∧
      ∃ changes, Writes store (.removedVertex vertex :: changes) (bare.dropVertex id vertex) ∧
        ∀ change ∈ changes, ∃ edge, change = .removedEdge edge := by
  have stored : ∀ edgeId ∈ store.edgesAt id, store.edges.contains edgeId = true := by
    intro edgeId member
    obtain ⟨edge, present, -⟩ := (consistent.mem_edgesAt id edgeId).mp member
    exact (Dict.contains_iff_get? _ _).mpr ⟨edge, present⟩
  obtain ⟨succeeds, removed, changes, cascade, kinds⟩ :=
    removeEdges_spec consistent (consistent.nodup_edgesAt id) stored
  generalize result : store.removeEdges (store.edgesAt id) = outcome at succeeds removed cascade
  obtain ⟨answer, bare⟩ := outcome
  obtain rfl : answer = .ok () := succeeds
  have bareFound : bare.vertices.get? id = some vertex := by rw [removed.vertices, found]
  have isolated : ∀ {edgeId : EdgeId} {edge : Edge}, bare.content.edges.get? edgeId = some edge →
      edge.outVertex ≠ id ∧ edge.inVertex ≠ id := by
    intro edgeId edge present
    have survived := removed.edges edgeId
    rw [show bare.edges.get? edgeId = some edge from present] at survived
    split at survived
    · contradiction
    · next elsewhere =>
        constructor
        · intro same
          exact elsewhere ((consistent.mem_edgesAt id edgeId).mpr
            ⟨edge, survived.symm, Or.inl same⟩)
        · intro same
          exact elsewhere ((consistent.mem_edgesAt id edgeId).mpr
            ⟨edge, survived.symm, Or.inr same⟩)
  have dropped : Writes bare [.removedVertex vertex] (bare.dropVertex id vertex) := by
    refine Writes.record
      { consistent := ⟨?_, ?_, cascade.consistent.edge_lt⟩
        revert := ?_
        vertex_old := ?_ }
    · exact cascade.consistent.content.drop isolated
    · intro other otherVertex present
      simp only [Dict.get?_erase] at present
      split at present
      · contradiction
      · exact cascade.consistent.vertex_lt present
    · have own := cascade.consistent.content.vertex_id bareFound
      simp only [Content.revert, own]
      exact cascade.consistent.content.put_drop bareFound
    · intro other stored
      simp only [Dict.contains, Dict.get?_erase] at stored
      split at stored
      · simp at stored
      · exact Or.inl stored
  refine ⟨bare, rfl, ?_, removed, changes, cascade.trans dropped, kinds⟩
  simp only [removeVertex, found, result, dropVertex]

/-- Whether an operation is a commit or an abort; all others are writes. -/
def Op.isBoundary : Op → Bool
  | .commit => true
  | .abort => true
  | _ => false

/-- What a write notes: nothing if it fails, and a clone exactly if it records one. -/
structure Noted (store : Store) (op : Op) (changes : List Change) : Prop where
  failed : changes = [] ↔ ∃ error, (store.apply op).1 = .error error
  unchanged : changes = [] → (store.apply op).2 = store
  vertexCloned : ∀ origin, Change.vertexCloned origin ∈ changes ↔
    ∃ clone, op = .recordVertexClone origin clone
  edgeCloned : ∀ origin, Change.edgeCloned origin ∈ changes ↔
    ∃ clone, op = .recordEdgeClone origin clone

theorem noted_nil {store : Store} {op : Op} {error : GraphError}
    (refused : store.apply op = (.error error, store))
    (noVertexClone : ∀ origin clone, op ≠ .recordVertexClone origin clone)
    (noEdgeClone : ∀ origin clone, op ≠ .recordEdgeClone origin clone) : Noted store op [] where
  failed := by simp [refused]
  unchanged _ := by simp [refused]
  vertexCloned origin := by simp [noVertexClone]
  edgeCloned origin := by simp [noEdgeClone]

theorem noted_cons {store : Store} {op : Op} (answer : Answer) {change : Change}
    {changes : List Change} (succeeded : (store.apply op).1 = .ok answer)
    (vertexCloned : ∀ origin, Change.vertexCloned origin ∈ change :: changes ↔
      ∃ clone, op = .recordVertexClone origin clone)
    (edgeCloned : ∀ origin, Change.edgeCloned origin ∈ change :: changes ↔
      ∃ clone, op = .recordEdgeClone origin clone) : Noted store op (change :: changes) where
  failed := by simp [succeeded]
  unchanged nothing := by simp at nothing
  vertexCloned := vertexCloned
  edgeCloned := edgeCloned

/-- Every write leaves a consistent store and notes how to take itself back. -/
theorem writes_apply {store : Store} (consistent : store.Consistent) {op : Op}
    (isWrite : op.isBoundary = false) :
    ∃ changes, Writes store changes (store.apply op).2 ∧ Noted store op changes := by
  cases op with
  | addVertex properties =>
      exact ⟨_, writes_addVertex consistent properties,
        noted_cons (.vertex ⟨store.nextVertex⟩) rfl (by simp) (by simp)⟩
  | addEdge label outVertex inVertex properties =>
      by_cases outStored : store.vertices.contains outVertex = true
      · by_cases inStored : store.vertices.contains inVertex = true
        · refine ⟨_, writes_addEdge consistent outStored inStored label properties, ?_⟩
          refine noted_cons (.edge ⟨store.nextEdge⟩) ?_ (by simp) (by simp)
          simp only [apply, addEdge_eq outStored inStored]
          rfl
        · have refused : store.apply (.addEdge label outVertex inVertex properties) =
              (.error (.vertexNotFound inVertex), store) := by
            simp [apply, addEdge, outStored, inStored, Except.map]
          refine ⟨[], ?_, noted_nil refused (by simp) (by simp)⟩
          rw [refused]
          exact Writes.refl consistent
      · have refused : store.apply (.addEdge label outVertex inVertex properties) =
            (.error (.vertexNotFound outVertex), store) := by
          simp [apply, addEdge, outStored, Except.map]
        refine ⟨[], ?_, noted_nil refused (by simp) (by simp)⟩
        rw [refused]
        exact Writes.refl consistent
  | setProperty id name value =>
      cases found : store.vertices.get? id with
      | none =>
          have refused : store.apply (.setProperty id name value) =
              (.error (.vertexNotFound id), store) := by
            simp [apply, setProperty, found, Except.map]
          refine ⟨[], ?_, noted_nil refused (by simp) (by simp)⟩
          rw [refused]
          exact Writes.refl consistent
      | some vertex =>
          refine ⟨_, writes_setProperty consistent found name value, ?_⟩
          refine noted_cons .done ?_ (by simp) (by simp)
          simp [apply, setProperty, found, Except.map]
  | removeVertex id =>
      cases found : store.vertices.get? id with
      | none =>
          have refused : store.apply (.removeVertex id) =
              (.error (.vertexNotFound id), store) := by
            simp [apply, removeVertex, found, Except.map]
          refine ⟨[], ?_, noted_nil refused (by simp) (by simp)⟩
          rw [refused]
          exact Writes.refl consistent
      | some vertex =>
          obtain ⟨bare, -, succeeded, -, changes, writes, kinds⟩ :=
            removeVertex_spec consistent found
          refine ⟨.removedVertex vertex :: changes, ?_, ?_⟩
          · simpa only [apply, succeeded] using writes
          · refine noted_cons .done ?_ ?_ ?_
            · simp only [apply, succeeded]
              rfl
            · intro origin
              simp only [List.mem_cons, reduceCtorEq, false_or, exists_false, iff_false]
              intro member
              obtain ⟨edge, same⟩ := kinds _ member
              contradiction
            · intro origin
              simp only [List.mem_cons, reduceCtorEq, false_or, exists_false, iff_false]
              intro member
              obtain ⟨edge, same⟩ := kinds _ member
              contradiction
  | removeEdge id =>
      cases found : store.edges.get? id with
      | none =>
          have refused : store.apply (.removeEdge id) = (.error (.edgeNotFound id), store) := by
            simp [apply, removeEdge, found, Except.map]
          refine ⟨[], ?_, noted_nil refused (by simp) (by simp)⟩
          rw [refused]
          exact Writes.refl consistent
      | some edge =>
          refine ⟨_, writes_removeEdge consistent found, ?_⟩
          refine noted_cons .done ?_ (by simp) (by simp)
          simp only [apply, removeEdge_eq found]
          rfl
  | recordVertexClone origin clone =>
      refine ⟨_, writes_recordVertexClone consistent origin clone, ?_⟩
      exact noted_cons .done rfl (by simp [eq_comm]) (by simp)
  | recordEdgeClone origin clone =>
      refine ⟨_, writes_recordEdgeClone consistent origin clone, ?_⟩
      exact noted_cons .done rfl (by simp) (by simp [eq_comm])
  | commit => simp [Op.isBoundary] at isWrite
  | abort => simp [Op.isBoundary] at isWrite

end Store

end RoutedGraph
