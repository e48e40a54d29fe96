import RoutedGraph.World.Basic

/-!
# Cloning elements between graphs

A graph takes a copy of a vertex or an edge of another graph at most once: as
long as the copy exists, cloning answers it again.  An edge is attached to the
copies of its endpoints.
-/

namespace RoutedGraph

/-- What cloning an edge does when an endpoint has no copy yet. -/
structure CloneOptions where
  /-- Answer nothing in place of failing. -/
  ignoreMissing : Bool
  showMissing : Bool
  createVertices : Bool
  deriving DecidableEq

namespace CloneOptions

/-- Fail for an edge whose endpoints are missing. -/
def standard : CloneOptions := ⟨false, false, false⟩

instance : Inhabited CloneOptions := ⟨standard⟩

/-- Skip an edge whose endpoints are missing. -/
def skipping : CloneOptions := ⟨true, false, false⟩

/-- Clone the endpoints that are missing. -/
def creating : CloneOptions := ⟨false, false, true⟩

end CloneOptions

namespace Store

/-- Copy a vertex of another graph, unless its copy exists.  The events are those to be logged. -/
def cloneVertex (store : Store) (source : GraphId) (vertex : Vertex) :
    VertexId × Store × List LogEvent :=
  match store.vertexClone? ⟨source, vertex.id⟩ with
  | some existing => (existing, store, [])
  | none =>
      let (id, grown) := store.addVertex vertex.properties
      (id, grown.recordVertexClone ⟨source, vertex.id⟩ id, [.vertexCloned vertex.id id])

/-- Copy endpoints of an edge, found in the store of their graph. -/
def cloneEndpoints (store : Store) (source : GraphId) (origin : Store) :
    List VertexId → Except GraphError Unit × Store × List LogEvent
  | [] => (.ok (), store, [])
  | endpoint :: rest =>
      match origin.vertex? endpoint with
      | none => (.error (.vertexNotFound endpoint), store, [])
      | some vertex =>
          let (_, grown, events) := store.cloneVertex source vertex
          let (result, final, later) := grown.cloneEndpoints source origin rest
          (result, final, events ++ later)

/-- Attach a copy of an edge to the copies of its endpoints. -/
def attachClone (store : Store) (source : GraphId) (edge : Edge) (options : CloneOptions) :
    Except GraphError (Option EdgeId) × Store × List LogEvent :=
  match store.vertexClone? ⟨source, edge.outVertex⟩, store.vertexClone? ⟨source, edge.inVertex⟩ with
  | some outVertex, some inVertex =>
      match store.addEdge edge.label outVertex inVertex edge.properties with
      | (.ok id, grown) =>
          (.ok (some id), grown.recordEdgeClone ⟨source, edge.id⟩ id, [.edgeCloned edge.id id])
      | (.error error, refused) => (.error error, refused, [])
  | foundOut, foundIn =>
      let warnings : List LogEvent :=
        if options.showMissing then [.missingEndpoints edge foundOut.isSome foundIn.isSome] else []
      if options.ignoreMissing then (.ok none, store, warnings)
      else (.error (.missingEndpoints edge.id edge.outVertex edge.inVertex), store, warnings)

/-- Copy an edge of another graph, unless its copy exists; `origin` is the store of that graph. -/
def cloneEdge (store : Store) (source : GraphId) (origin : Store) (edge : Edge)
    (options : CloneOptions) : Except GraphError (Option EdgeId) × Store × List LogEvent :=
  match store.edgeClone? ⟨source, edge.id⟩ with
  | some existing => (.ok (some existing), store, [])
  | none =>
      let (prepared, grown, events) :=
        if options.createVertices then store.cloneEndpoints source origin edge.endpoints
        else (.ok (), store, [])
      match prepared with
      | .error error => (.error error, grown, events)
      | .ok () =>
          let (result, final, later) := grown.attachClone source edge options
          (result, final, events ++ later)

end Store

namespace World

def emitAll (world : World) (events : List LogEvent) : World := events.foldl emit world

def ownElements (graph : GraphId) : GraphError :=
  .invalidOperation ("can not clone elements of " ++ graph.text ++ " into itself")

def cloneVertex (world : World) (target source : GraphId) (vertex : Vertex) :
    Except GraphError VertexId × World :=
  if source = target then (.error (ownElements target), world)
  else
    let (id, store, events) := (world.store target).cloneVertex source vertex
    (.ok id, (world.setStore target store).emitAll events)

def cloneEdge (world : World) (target source : GraphId) (edge : Edge) (options : CloneOptions) :
    Except GraphError (Option EdgeId) × World :=
  if source = target then (.error (ownElements target), world)
  else
    let (result, store, events) :=
      (world.store target).cloneEdge source (world.store source) edge options
    (result, (world.setStore target store).emitAll events)

end World

end RoutedGraph
