import RoutedGraph.Store.Basic

/-!
# Writes and boundaries of a store

The writes of a transactional store stay open until a commit forgets the undo
log or an abort takes them back, newest first.  As data, writes and boundaries
make a history a list and its outcome a fold.
-/

namespace RoutedGraph

namespace Store

/-- Note a change in the undo log, if there is one. -/
def record (store : Store) (change : Change) : Store :=
  { store with undo := store.undo.map fun log => log.record change }

/-- Store an edge under its identifier and enter it into every index. -/
def attach (store : Store) (edge : Edge) : Store :=
  { store with
    edges := store.edges.insert edge.id edge
    outgoing := store.outgoing.add edge.outVertex edge.id
    incoming := store.incoming.add edge.inVertex edge.id
    labels := store.labels.add edge.label edge.id }

/-- Take an edge out of the store and of every index. -/
def detach (store : Store) (edge : Edge) (id : EdgeId) : Store :=
  { store with
    edges := store.edges.erase id
    outgoing := store.outgoing.remove edge.outVertex id
    incoming := store.incoming.remove edge.inVertex id
    labels := store.labels.remove edge.label id }

def addVertex (store : Store) (properties : Properties) : VertexId × Store :=
  let id : VertexId := ⟨store.nextVertex⟩
  let grown : Store :=
    { store with
      vertices := store.vertices.insert id ⟨id, properties, none⟩
      nextVertex := store.nextVertex + 1 }
  (id, grown.record (.createdVertex id))

def setProperty (store : Store) (id : VertexId) (name : String) (value : Value) :
    Except GraphError Unit × Store :=
  match store.vertices.get? id with
  | none => (.error (.vertexNotFound id), store)
  | some vertex =>
      let changed : Vertex := { vertex with properties := vertex.properties.insert name value }
      let written : Store := { store with vertices := store.vertices.insert id changed }
      (.ok (), written.record (.propertySet id name (vertex.properties.get? name)))

def addEdge (store : Store) (label : String) (outVertex inVertex : VertexId)
    (properties : Properties) : Except GraphError EdgeId × Store :=
  if !store.vertices.contains outVertex then (.error (.vertexNotFound outVertex), store)
  else if !store.vertices.contains inVertex then (.error (.vertexNotFound inVertex), store)
  else
    let id : EdgeId := ⟨store.nextEdge⟩
    let grown : Store := { store with nextEdge := store.nextEdge + 1 }
    (.ok id,
      (grown.attach ⟨id, label, outVertex, inVertex, properties, none⟩).record (.createdEdge id))

def removeEdge (store : Store) (id : EdgeId) : Except GraphError Unit × Store :=
  match store.edges.get? id with
  | none => (.error (.edgeNotFound id), store)
  | some edge => (.ok (), (store.detach edge id).record (.removedEdge edge))

/-- Remove edges one after the other, up to the first that fails. -/
def removeEdges (store : Store) : List EdgeId → Except GraphError Unit × Store
  | [] => (.ok (), store)
  | id :: rest =>
      match store.removeEdge id with
      | (.error error, stopped) => (.error error, stopped)
      | (.ok (), shrunk) => shrunk.removeEdges rest

/-- Remove a vertex after every edge at it. -/
def removeVertex (store : Store) (id : VertexId) : Except GraphError Unit × Store :=
  match store.vertices.get? id with
  | none => (.error (.vertexNotFound id), store)
  | some vertex =>
      match store.removeEdges (store.edgesAt id) with
      | (.error error, stopped) => (.error error, stopped)
      | (.ok (), bare) =>
          (.ok (),
            { bare with vertices := bare.vertices.erase id }.record (.removedVertex vertex))

def recordVertexClone (store : Store) (origin : Foreign VertexId) (clone : VertexId) : Store :=
  { store with vertexClones := store.vertexClones.insert origin clone }.record
    (.vertexCloned origin)

def recordEdgeClone (store : Store) (origin : Foreign EdgeId) (clone : EdgeId) : Store :=
  { store with edgeClones := store.edgeClones.insert origin clone }.record (.edgeCloned origin)

/-- Take one change back. -/
def revert (store : Store) : Change → Store
  | .createdVertex id => { store with vertices := store.vertices.erase id }
  | .createdEdge id =>
      match store.edges.get? id with
      | some edge => store.detach edge id
      | none => store
  | .removedVertex vertex => { store with vertices := store.vertices.insert vertex.id vertex }
  | .removedEdge edge => store.attach edge
  | .propertySet id name former =>
      match store.vertices.get? id with
      | some vertex =>
          let properties :=
            match former with
            | some value => vertex.properties.insert name value
            | none => vertex.properties.erase name
          { store with
            vertices := store.vertices.insert id { vertex with properties := properties } }
      | none => store
  | .vertexCloned origin => { store with vertexClones := store.vertexClones.erase origin }
  | .edgeCloned origin => { store with edgeClones := store.edgeClones.erase origin }

def commit (store : Store) : Store := { store with undo := store.undo.map fun _ => UndoLog.empty }

/-- Take every pending write back, newest first. -/
def abort (store : Store) : Store :=
  match store.undo with
  | none => store
  | some log =>
      { log.changes.foldl revert { store with undo := none } with undo := some UndoLog.empty }

inductive Op where
  | addVertex (properties : Properties)
  | addEdge (label : String) (outVertex inVertex : VertexId) (properties : Properties)
  | setProperty (id : VertexId) (name : String) (value : Value)
  | removeVertex (id : VertexId)
  | removeEdge (id : EdgeId)
  | recordVertexClone (origin : Foreign VertexId) (clone : VertexId)
  | recordEdgeClone (origin : Foreign EdgeId) (clone : EdgeId)
  | commit
  | abort

inductive Answer where
  | done
  | vertex (id : VertexId)
  | edge (id : EdgeId)
  deriving DecidableEq

def apply (store : Store) : Op → Except GraphError Answer × Store
  | .addVertex properties =>
      let (id, grown) := store.addVertex properties
      (.ok (.vertex id), grown)
  | .addEdge label outVertex inVertex properties =>
      let (answer, grown) := store.addEdge label outVertex inVertex properties
      (answer.map Answer.edge, grown)
  | .setProperty id name value =>
      let (answer, written) := store.setProperty id name value
      (answer.map fun _ => Answer.done, written)
  | .removeVertex id =>
      let (answer, shrunk) := store.removeVertex id
      (answer.map fun _ => Answer.done, shrunk)
  | .removeEdge id =>
      let (answer, shrunk) := store.removeEdge id
      (answer.map fun _ => Answer.done, shrunk)
  | .recordVertexClone origin clone => (.ok .done, store.recordVertexClone origin clone)
  | .recordEdgeClone origin clone => (.ok .done, store.recordEdgeClone origin clone)
  | .commit => (.ok .done, store.commit)
  | .abort => (.ok .done, store.abort)

def run (store : Store) (history : List Op) : Store :=
  history.foldl (fun current op => (current.apply op).2) store

end Store

end RoutedGraph
