import RoutedGraph.Dict
import RoutedGraph.Element
import RoutedGraph.Fault

/-!
# The element store

A store keeps vertices and edges, indexes of the edges by endpoint and by
label, and the clones it holds of other graphs' elements.  In an index each key
holds a set of identifiers in ascending order, and a key whose set becomes
empty leaves the index.

Every write of a transactional store leaves a change in its undo log that says
how to take it back, newest first.  Identifiers are handed out in ascending
order and never again, whatever is taken back.
-/

namespace RoutedGraph

structure Index (κ ι : Type) where
  buckets : Dict κ (Dict ι Unit)

namespace Index

variable {κ ι : Type}

def empty : Index κ ι := ⟨Dict.empty⟩

variable [DecidableEq κ] [DecidableEq ι]

/-- The set of a key, empty for a key that is not in the index. -/
def bucket (index : Index κ ι) (key : κ) : Dict ι Unit := index.buckets.getD key Dict.empty

/-- The identifiers of a key in ascending order. -/
def ids (index : Index κ ι) (key : κ) : List ι := (index.bucket key).keys

def holds (index : Index κ ι) (key : κ) (id : ι) : Bool := (index.bucket key).contains id

variable [Ord κ] [Ord ι]

/-- Put an identifier into the set of a key. -/
def add (index : Index κ ι) (key : κ) (id : ι) : Index κ ι :=
  ⟨index.buckets.insert key ((index.bucket key).insert id ())⟩

/-- Take an identifier out of the set of a key, and the key out with its last identifier. -/
def remove (index : Index κ ι) (key : κ) (id : ι) : Index κ ι :=
  match index.buckets.get? key with
  | none => index
  | some bucket =>
      let rest := bucket.erase id
      if rest.isEmpty then ⟨index.buckets.erase key⟩ else ⟨index.buckets.insert key rest⟩

end Index

/-- An identifier as another graph gave it. -/
structure Foreign (ι : Type) where
  graph : GraphId
  id : ι
  deriving DecidableEq

instance {ι : Type} [Ord ι] : Ord (Foreign ι) :=
  ⟨fun first second => (compare first.graph second.graph).then (compare first.id second.id)⟩

inductive Change where
  | createdVertex (id : VertexId)
  | createdEdge (id : EdgeId)
  | removedVertex (vertex : Vertex)
  | removedEdge (edge : Edge)
  | propertySet (id : VertexId) (name : String) (former : Option Value)
  | vertexCloned (origin : Foreign VertexId)
  | edgeCloned (origin : Foreign EdgeId)

/-- The writes since the last boundary, newest first. -/
structure UndoLog where
  changes : List Change

namespace UndoLog

def empty : UndoLog := ⟨[]⟩

def record (log : UndoLog) (change : Change) : UndoLog := ⟨change :: log.changes⟩

def isEmpty (log : UndoLog) : Bool := log.changes.isEmpty

/-- Take every change, newest first, and leave the log empty. -/
def drain (log : UndoLog) : List Change × UndoLog := (log.changes, empty)

@[simp]
theorem drain_record (log : UndoLog) (change : Change) :
    (log.record change).drain = (change :: log.drain.1, empty) := rfl

end UndoLog

/-- Vertices, edges, their indexes and the undo log of one graph. -/
structure Store where
  vertices : Dict VertexId Vertex
  edges : Dict EdgeId Edge
  nextVertex : Nat
  nextEdge : Nat
  outgoing : Index VertexId EdgeId
  incoming : Index VertexId EdgeId
  labels : Index String EdgeId
  /-- The latest clone of each vertex of another graph, whether it still exists or not. -/
  vertexClones : Dict (Foreign VertexId) VertexId
  /-- The latest clone of each edge of another graph, whether it still exists or not. -/
  edgeClones : Dict (Foreign EdgeId) EdgeId
  /-- Absent for a store that cannot take its writes back. -/
  undo : Option UndoLog

namespace Store

/-- The empty store, with an undo log if it is transactional. -/
def empty (transactional : Bool) : Store where
  vertices := Dict.empty
  edges := Dict.empty
  nextVertex := 1
  nextEdge := 1
  outgoing := Index.empty
  incoming := Index.empty
  labels := Index.empty
  vertexClones := Dict.empty
  edgeClones := Dict.empty
  undo := if transactional then some UndoLog.empty else none

instance : Inhabited Store := ⟨empty false⟩

def vertex? (store : Store) (id : VertexId) : Option Vertex := store.vertices.get? id

def edge? (store : Store) (id : EdgeId) : Option Edge := store.edges.get? id

/-- The edges that leave a vertex, in ascending order. -/
def edgesOut (store : Store) (id : VertexId) : List EdgeId := store.outgoing.ids id

/-- The edges that enter a vertex, in ascending order. -/
def edgesIn (store : Store) (id : VertexId) : List EdgeId := store.incoming.ids id

def edgesByLabel (store : Store) (label : String) : List EdgeId := store.labels.ids label

/-- The edges at a vertex, each once: those that leave it, then the others that enter it. -/
def edgesAt (store : Store) (id : VertexId) : List EdgeId :=
  store.edgesOut id ++ (store.edgesIn id).filter fun edge => !store.outgoing.holds id edge

def vertexIds (store : Store) : List VertexId := store.vertices.keys

def edgeIds (store : Store) : List EdgeId := store.edges.keys

def vertexCount (store : Store) : Nat := store.vertices.size

def edgeCount (store : Store) : Nat := store.edges.size

def isTransactional (store : Store) : Bool := store.undo.isSome

/-- Whether writes wait for a commit or an abort. -/
def hasPendingChanges (store : Store) : Bool :=
  match store.undo with
  | some log => !log.isEmpty
  | none => false

/-- The local clone of another graph's vertex, if it still exists. -/
def vertexClone? (store : Store) (origin : Foreign VertexId) : Option VertexId :=
  (store.vertexClones.get? origin).filter store.vertices.contains

/-- The local clone of another graph's edge, if it still exists. -/
def edgeClone? (store : Store) (origin : Foreign EdgeId) : Option EdgeId :=
  (store.edgeClones.get? origin).filter store.edges.contains

end Store

end RoutedGraph
