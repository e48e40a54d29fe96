import RoutedGraph.Proofs.SoundIndex
import RoutedGraph.Store.Op

/-!
# The content of a store

The content of a store is what a rollback has to bring back: its elements and
the indexes of its edges.  Four small changes make up all writes: a vertex is
put or dropped, an edge is attached or detached.  Each of them keeps a
consistent content consistent, and each undoes its opposite exactly.
-/

namespace RoutedGraph

/-- The elements of a store and the indexes of its edges. -/
structure Content where
  vertices : Dict VertexId Vertex
  edges : Dict EdgeId Edge
  outgoing : Index VertexId EdgeId
  incoming : Index VertexId EdgeId
  labels : Index String EdgeId

namespace Content

/-- Nothing is stored. -/
def empty : Content := ⟨Dict.empty, Dict.empty, Index.empty, Index.empty, Index.empty⟩

/-- Store a vertex under an identifier. -/
def put (content : Content) (id : VertexId) (vertex : Vertex) : Content :=
  { content with vertices := content.vertices.insert id vertex }

/-- Take a vertex out. -/
def drop (content : Content) (id : VertexId) : Content :=
  { content with vertices := content.vertices.erase id }

/-- Store an edge and enter it into every index. -/
def attach (content : Content) (edge : Edge) : Content :=
  { content with
    edges := content.edges.insert edge.id edge
    outgoing := content.outgoing.add edge.outVertex edge.id
    incoming := content.incoming.add edge.inVertex edge.id
    labels := content.labels.add edge.label edge.id }

/-- Take an edge out of the content and of every index. -/
def detach (content : Content) (edge : Edge) (id : EdgeId) : Content :=
  { content with
    edges := content.edges.erase id
    outgoing := content.outgoing.remove edge.outVertex id
    incoming := content.incoming.remove edge.inVertex id
    labels := content.labels.remove edge.label id }

/-- Elements are stored under their own identifiers, edges lie between stored vertices, and the
indexes list exactly the stored edges. -/
structure Consistent (content : Content) : Prop where
  vertices_ordered : content.vertices.Ordered
  edges_ordered : content.edges.Ordered
  outgoing_sound : content.outgoing.Sound
  incoming_sound : content.incoming.Sound
  labels_sound : content.labels.Sound
  vertex_id : ∀ {id : VertexId} {vertex : Vertex},
    content.vertices.get? id = some vertex → vertex.id = id
  edge_id : ∀ {id : EdgeId} {edge : Edge}, content.edges.get? id = some edge → edge.id = id
  outVertex_stored : ∀ {id : EdgeId} {edge : Edge},
    content.edges.get? id = some edge → content.vertices.contains edge.outVertex = true
  inVertex_stored : ∀ {id : EdgeId} {edge : Edge},
    content.edges.get? id = some edge → content.vertices.contains edge.inVertex = true
  mem_outgoing : ∀ (vertex : VertexId) (id : EdgeId),
    id ∈ content.outgoing.ids vertex ↔
      ∃ edge, content.edges.get? id = some edge ∧ edge.outVertex = vertex
  mem_incoming : ∀ (vertex : VertexId) (id : EdgeId),
    id ∈ content.incoming.ids vertex ↔
      ∃ edge, content.edges.get? id = some edge ∧ edge.inVertex = vertex
  mem_labels : ∀ (label : String) (id : EdgeId),
    id ∈ content.labels.ids label ↔
      ∃ edge, content.edges.get? id = some edge ∧ edge.label = label

theorem consistent_empty : empty.Consistent where
  vertices_ordered := Dict.ordered_empty
  edges_ordered := Dict.ordered_empty
  outgoing_sound := Index.sound_empty
  incoming_sound := Index.sound_empty
  labels_sound := Index.sound_empty
  vertex_id found := by simp [empty] at found
  edge_id found := by simp [empty] at found
  outVertex_stored found := by simp [empty] at found
  inVertex_stored found := by simp [empty] at found
  mem_outgoing := by simp [empty]
  mem_incoming := by simp [empty]
  mem_labels := by simp [empty]

section Projected

variable {κ : Type} [DecidableEq κ] [Ord κ]

/-- An index by some aspect of the edges follows an edge that is attached. -/
theorem mem_ids_attach {edges : Dict EdgeId Edge} {index : Index κ EdgeId} {aspect : Edge → κ}
    (follows : ∀ key id, id ∈ index.ids key ↔
      ∃ edge, edges.get? id = some edge ∧ aspect edge = key)
    {fresh : Edge} (absent : edges.get? fresh.id = none) (key : κ) (id : EdgeId) :
    id ∈ (index.add (aspect fresh) fresh.id).ids key ↔
      ∃ edge, (edges.insert fresh.id fresh).get? id = some edge ∧ aspect edge = key := by
  rw [Index.mem_ids_add, follows, Dict.get?_insert]
  by_cases same : fresh.id = id
  · subst same
    simp [absent]
  · simp [same]

/-- An index by some aspect of the edges follows an edge that is detached. -/
theorem mem_ids_detach {edges : Dict EdgeId Edge} {index : Index κ EdgeId} {aspect : Edge → κ}
    (follows : ∀ key id, id ∈ index.ids key ↔
      ∃ edge, edges.get? id = some edge ∧ aspect edge = key)
    {stored : Edge} {gone : EdgeId} (found : edges.get? gone = some stored) (key : κ)
    (id : EdgeId) :
    id ∈ (index.remove (aspect stored) gone).ids key ↔
      ∃ edge, (edges.erase gone).get? id = some edge ∧ aspect edge = key := by
  rw [Index.mem_ids_remove, follows, Dict.get?_erase]
  by_cases same : gone = id
  · subst same
    simp [found]
  · simp [same]

end Projected

theorem stored_of_detach (content : Content) (edge : Edge) (gone : EdgeId) {id : EdgeId}
    {other : Edge}
    (stored : (content.detach edge gone).edges.get? id = some other) :
    content.edges.get? id = some other := by
  simp only [detach, Dict.get?_erase] at stored
  split at stored
  · contradiction
  · exact stored

namespace Consistent

variable {content : Content}

theorem contains_put {id other : VertexId} {vertex : Vertex}
    (stored : content.vertices.contains other = true) :
    (content.put id vertex).vertices.contains other = true := by
  simp only [put, Dict.contains, Dict.get?_insert]
  split
  · rfl
  · exact stored

theorem put (consistent : content.Consistent) {id : VertexId} {vertex : Vertex}
    (own : vertex.id = id) : (content.put id vertex).Consistent :=
  { consistent with
    vertices_ordered := consistent.vertices_ordered.insert _ _
    vertex_id := by
      intro other found stored
      simp only [Content.put, Dict.get?_insert] at stored
      split at stored
      · next same =>
          obtain rfl := Option.some.inj stored
          exact own.trans same
      · exact consistent.vertex_id stored
    outVertex_stored := fun stored => contains_put (consistent.outVertex_stored stored)
    inVertex_stored := fun stored => contains_put (consistent.inVertex_stored stored) }

theorem contains_drop {id other : VertexId} (stored : content.vertices.contains other = true)
    (different : other ≠ id) : (content.drop id).vertices.contains other = true := by
  simpa [Content.drop, Dict.contains, Dict.get?_erase, Ne.symm different] using stored

theorem drop (consistent : content.Consistent) {id : VertexId}
    (bare : ∀ {edgeId : EdgeId} {edge : Edge}, content.edges.get? edgeId = some edge →
      edge.outVertex ≠ id ∧ edge.inVertex ≠ id) : (content.drop id).Consistent :=
  { consistent with
    vertices_ordered := consistent.vertices_ordered.erase _
    vertex_id := by
      intro other vertex stored
      simp only [Content.drop, Dict.get?_erase] at stored
      split at stored
      · contradiction
      · exact consistent.vertex_id stored
    outVertex_stored := fun stored =>
      contains_drop (consistent.outVertex_stored stored) (bare stored).1
    inVertex_stored := fun stored =>
      contains_drop (consistent.inVertex_stored stored) (bare stored).2 }

theorem attach (consistent : content.Consistent) {edge : Edge}
    (absent : content.edges.get? edge.id = none)
    (outStored : content.vertices.contains edge.outVertex = true)
    (inStored : content.vertices.contains edge.inVertex = true) :
    (content.attach edge).Consistent := by
  have stored_cases : ∀ {id : EdgeId} {other : Edge},
      (content.attach edge).edges.get? id = some other →
        (edge.id = id ∧ edge = other) ∨ content.edges.get? id = some other := by
    intro id other stored
    simp only [Content.attach, Dict.get?_insert] at stored
    split at stored
    · next same => exact Or.inl ⟨same, Option.some.inj stored⟩
    · exact Or.inr stored
  exact
    { vertices_ordered := consistent.vertices_ordered
      edges_ordered := consistent.edges_ordered.insert _ _
      outgoing_sound := consistent.outgoing_sound.add _ _
      incoming_sound := consistent.incoming_sound.add _ _
      labels_sound := consistent.labels_sound.add _ _
      vertex_id := consistent.vertex_id
      edge_id := by
        intro id other stored
        rcases stored_cases stored with ⟨same, rfl⟩ | old
        · exact same
        · exact consistent.edge_id old
      outVertex_stored := by
        intro id other stored
        rcases stored_cases stored with ⟨-, rfl⟩ | old
        · exact outStored
        · exact consistent.outVertex_stored old
      inVertex_stored := by
        intro id other stored
        rcases stored_cases stored with ⟨-, rfl⟩ | old
        · exact inStored
        · exact consistent.inVertex_stored old
      mem_outgoing := mem_ids_attach consistent.mem_outgoing absent
      mem_incoming := mem_ids_attach consistent.mem_incoming absent
      mem_labels := mem_ids_attach consistent.mem_labels absent }

theorem detach (consistent : content.Consistent) {edge : Edge} {id : EdgeId}
    (found : content.edges.get? id = some edge) : (content.detach edge id).Consistent where
  vertices_ordered := consistent.vertices_ordered
  edges_ordered := consistent.edges_ordered.erase _
  outgoing_sound := consistent.outgoing_sound.remove _ _
  incoming_sound := consistent.incoming_sound.remove _ _
  labels_sound := consistent.labels_sound.remove _ _
  vertex_id := consistent.vertex_id
  edge_id stored := consistent.edge_id (content.stored_of_detach edge id stored)
  outVertex_stored stored := consistent.outVertex_stored (content.stored_of_detach edge id stored)
  inVertex_stored stored := consistent.inVertex_stored (content.stored_of_detach edge id stored)
  mem_outgoing := mem_ids_detach consistent.mem_outgoing found
  mem_incoming := mem_ids_detach consistent.mem_incoming found
  mem_labels := mem_ids_detach consistent.mem_labels found

theorem put_drop (consistent : content.Consistent) {id : VertexId} {vertex : Vertex}
    (found : content.vertices.get? id = some vertex) :
    (content.drop id).put id vertex = content := by
  simp [Content.put, Content.drop, Dict.insert_erase_cancel consistent.vertices_ordered found]

theorem detach_attach (consistent : content.Consistent) {edge : Edge}
    (absent : content.edges.get? edge.id = none) :
    (content.attach edge).detach edge edge.id = content := by
  have unlisted {κ : Type} {aspect : Edge → κ} {key : κ} :
      ¬ ∃ other, content.edges.get? edge.id = some other ∧ aspect other = key := by
    simp [absent]
  have outgoing := consistent.outgoing_sound.remove_add
    (mt (consistent.mem_outgoing edge.outVertex edge.id).mp unlisted)
  have incoming := consistent.incoming_sound.remove_add
    (mt (consistent.mem_incoming edge.inVertex edge.id).mp unlisted)
  have labels := consistent.labels_sound.remove_add
    (mt (consistent.mem_labels edge.label edge.id).mp unlisted)
  simp [Content.attach, Content.detach, Dict.erase_insert_cancel absent, outgoing, incoming,
    labels]

theorem attach_detach (consistent : content.Consistent) {edge : Edge} {id : EdgeId}
    (found : content.edges.get? id = some edge) :
    (content.detach edge id).attach edge = content := by
  obtain rfl := consistent.edge_id found
  have outgoing := consistent.outgoing_sound.add_remove
    ((consistent.mem_outgoing edge.outVertex edge.id).mpr ⟨edge, found, rfl⟩)
  have incoming := consistent.incoming_sound.add_remove
    ((consistent.mem_incoming edge.inVertex edge.id).mpr ⟨edge, found, rfl⟩)
  have labels := consistent.labels_sound.add_remove
    ((consistent.mem_labels edge.label edge.id).mpr ⟨edge, found, rfl⟩)
  simp [Content.attach, Content.detach,
    Dict.insert_erase_cancel consistent.edges_ordered found, outgoing, incoming, labels]

end Consistent

theorem drop_put (content : Content) {id : VertexId}
    (absent : content.vertices.get? id = none) (vertex : Vertex) :
    (content.put id vertex).drop id = content := by
  simp [put, drop, Dict.erase_insert_cancel absent]

theorem put_put (content : Content) {id : VertexId} {old : Vertex}
    (found : content.vertices.get? id = some old) (vertex : Vertex) :
    (content.put id vertex).put id old = content := by
  simp [put, Dict.insert_insert_cancel found]

/-- A vertex with a property as it was before it was set. -/
def withFormer (vertex : Vertex) (name : String) : Option Value → Vertex
  | some value => { vertex with properties := vertex.properties.insert name value }
  | none => { vertex with properties := vertex.properties.erase name }

theorem withFormer_insert (vertex : Vertex) (name : String) (value : Value) :
    withFormer { vertex with properties := vertex.properties.insert name value } name
      (vertex.properties.get? name) = vertex := by
  cases former : vertex.properties.get? name with
  | some old => simp [withFormer, Dict.insert_insert_cancel former]
  | none => simp [withFormer, Dict.erase_insert_cancel former]

/-- Take one change back. -/
def revert (content : Content) : Change → Content
  | .createdVertex id => content.drop id
  | .createdEdge id =>
      match content.edges.get? id with
      | some edge => content.detach edge id
      | none => content
  | .removedVertex vertex => content.put vertex.id vertex
  | .removedEdge edge => content.attach edge
  | .propertySet id name former =>
      match content.vertices.get? id with
      | some vertex => content.put id (withFormer vertex name former)
      | none => content
  | .vertexCloned _ => content
  | .edgeCloned _ => content

theorem revert_attach {content : Content} (consistent : content.Consistent) {edge : Edge}
    (absent : content.edges.get? edge.id = none) :
    (content.attach edge).revert (.createdEdge edge.id) = content := by
  have found : (content.attach edge).edges.get? edge.id = some edge :=
    Dict.get?_insert_self _ _ _
  simp only [revert, found]
  exact consistent.detach_attach absent

/-- Take changes back one after the other. -/
def rewind (content : Content) (changes : List Change) : Content := changes.foldl revert content

end Content

namespace Store

/-- The elements of a store and the indexes of its edges. -/
def content (store : Store) : Content :=
  ⟨store.vertices, store.edges, store.outgoing, store.incoming, store.labels⟩

@[simp]
theorem content_empty (transactional : Bool) : (empty transactional).content = Content.empty :=
  rfl

@[simp]
theorem content_attach (store : Store) (edge : Edge) :
    (store.attach edge).content = store.content.attach edge := rfl

/-- Taking a change back reverts the content, or forgets a clone, and leaves the rest alone. -/
theorem revert_eq (store : Store) (change : Change) :
    store.revert change =
      { store with
        vertices := (store.content.revert change).vertices
        edges := (store.content.revert change).edges
        outgoing := (store.content.revert change).outgoing
        incoming := (store.content.revert change).incoming
        labels := (store.content.revert change).labels
        vertexClones :=
          match change with
          | .vertexCloned origin => store.vertexClones.erase origin
          | _ => store.vertexClones
        edgeClones :=
          match change with
          | .edgeCloned origin => store.edgeClones.erase origin
          | _ => store.edgeClones } := by
  cases change with
  | createdEdge id =>
      simp only [revert, Content.revert, content]
      cases store.edges.get? id <;> rfl
  | propertySet id name former =>
      simp only [revert, Content.revert, content]
      cases store.vertices.get? id with
      | none => rfl
      | some vertex => cases former <;> rfl
  | _ => rfl

theorem content_revert (store : Store) (change : Change) :
    (store.revert change).content = store.content.revert change := by
  rw [revert_eq]
  rfl

theorem content_foldl_revert (changes : List Change) (store : Store) :
    (changes.foldl revert store).content = store.content.rewind changes := by
  induction changes generalizing store with
  | nil => rfl
  | cons change rest ih =>
      rw [List.foldl_cons, ih, content_revert]
      rfl

end Store

end RoutedGraph
