import RoutedGraph.Pipe.Basic
import RoutedGraph.Route.Basic
import RoutedGraph.Script.Step
import RoutedGraph.World.Transaction

/-!
# Sessions

The names that a script has given, and what it has written down.  Routes and
announcements belong to the thread that made them; everything else is shared.
Written down are the end of every step, the start of every transaction body,
the items that are pulled and processed, and the notes of listeners and
sorters, most of them with a summary of what is named.
-/

namespace RoutedGraph

namespace Script

/-- A stored vertex with the edges that leave it and those that enter it. -/
structure VertexDump where
  vertex : Vertex
  outgoing : List EdgeId
  incoming : List EdgeId

structure Dump where
  graph : GraphId
  vertices : List VertexDump
  edges : List Edge

namespace Dump

def ofStore (graph : GraphId) (store : Store) : Dump where
  graph := graph
  vertices := store.vertices.values.map fun vertex =>
    ⟨vertex, store.edgesOut vertex.id, store.edgesIn vertex.id⟩
  edges := store.edges.values

end Dump

inductive Reply where
  | nothing
  | flag (flag : Bool)
  | number (number : Nat)
  | text (text : String)
  | value (value : Value)
  | vertex (vertex : Option Vertex)
  | edge (edge : Option Edge)
  | edges (edges : List Edge)
  | dump (dump : Dump)
  /-- The clone of an edge or of a vertex, if there is one. -/
  | clone (id : Option Nat)
  | context (context : Option Context)
  | config (config : TransactionConfig) (inTransaction : Bool) (description : String)
  | handle (handle : Handle)
  | outcome (outcome : Outcome Unit)
  | route (type : ElementType) (name : Option String) (graph : Option GraphId)
      (description : String)
  | items (items : List Item)
  | paths (paths : List Path)
  /-- The graph of a subgraph, and whether it is the one that was given. -/
  | subgraph (graph : GraphId) (isTarget : Option Bool)

structure GraphSummary where
  vertices : Nat
  edges : Nat
  pending : Bool
  depth : Nat
  registrySize : Nat

structure ManagerSummary where
  depth : Nat
  registrySize : Nat
  calls : String

/-- The state of all that is named, as seen by a thread. -/
structure Summary where
  graphs : Dict String GraphSummary
  managers : Dict String ManagerSummary

inductive Record where
  | finished (step : String) (result : Except RouteError Reply) (summary : Summary)
  | began (handle : Handle) (summary : Summary)
  | job (number : Nat) (item : Item) (summary : Summary)
  | pulled (answer : Answer Item)
  | note (note : Note Item)

/-- Names, and the trace so far. -/
structure Session where
  graphs : Dict String GraphId
  managers : Dict String ManagerId
  handles : Dict String Handle
  routes : Dict String Route
  events : Dict String EventsId
  /-- The records, newest first. -/
  trace : List Record

namespace Session

def empty : Session := ⟨Dict.empty, Dict.empty, Dict.empty, Dict.empty, Dict.empty, []⟩

end Session

abbrev Run (α : Type) : Type := Task (Scene Session) α

/-- The state of a graph as seen by a thread. -/
def summarizeGraph (world : World) (thread : ThreadId) (id : GraphId) : GraphSummary where
  vertices := (world.store id).vertexCount
  edges := (world.store id).edgeCount
  pending := (world.store id).hasPendingChanges
  depth := world.depth thread (.graph id)
  registrySize := (world.registryOf (.graph id)).size

/-- The calls that a resource outside the graphs has seen. -/
def callText (world : World) : ResourceId → String
  | .external number => (world.external number).callText
  | .graph _ => ""

/-- The state of a manager as seen by a thread. -/
def summarizeManager (world : World) (thread : ThreadId) (id : ManagerId) : ManagerSummary where
  depth := world.depth thread id
  registrySize := (world.registryOf id).size
  calls := callText world (world.manager id).resource

/-- The state of all that is named. -/
def summarize (thread : ThreadId) (scene : Scene Session) : Summary where
  graphs := scene.rest.graphs.mapValues (summarizeGraph scene.world thread)
  managers := scene.rest.managers.mapValues (summarizeManager scene.world thread)

/-- Move the notes that wait in the hub to the trace. -/
def collectNotes (scene : Scene Session) : Scene Session where
  world := { scene.world with notes := [] }
  rest := { scene.rest with trace := scene.world.notes.map Record.note ++ scene.rest.trace }

/-- Write a record down, after the notes that wait. -/
def write (record : Record) (scene : Scene Session) : Scene Session :=
  let collected := collectNotes scene
  { collected with rest := { collected.rest with trace := record :: collected.rest.trace } }

def writeSummarized (thread : ThreadId) (record : Summary → Record) : Run Unit :=
  Task.modify fun scene => write (record (summarize thread scene)) scene

def unknownName (kind name : String) : RouteError :=
  .graph (.invalidOperation ("there is no " ++ kind ++ " named " ++ name))

def lookUp {β : Type} (kind name : String) (table : Session → Dict String β) : Run β :=
  fun scene =>
    match (table scene.rest).get? name with
    | some found => (.done found, scene)
    | none => (.failed (unknownName kind name), scene)

def updateSession (change : Session → Session) : Run Unit :=
  Task.modify fun scene => { scene with rest := change scene.rest }

def graphNamed (name : String) : Run GraphId := lookUp "graph" name Session.graphs

def routeNamed (name : String) : Run Route := lookUp "route" name Session.routes

def eventsNamed (name : String) : Run EventsId := lookUp "section source" name Session.events

def handleNamed (name : String) : Run Handle := lookUp "transaction" name Session.handles

def managerNamed (name : String) : Run ManagerId := fun scene =>
  match scene.rest.graphs.get? name with
  | some graph => (.done (.graph graph), scene)
  | none => lookUp "manager" name Session.managers scene

def nameGraph (name : String) (id : GraphId) : Run Unit :=
  updateSession fun session => { session with graphs := session.graphs.insert name id }

def nameManager (name : String) (id : ManagerId) : Run Unit :=
  updateSession fun session => { session with managers := session.managers.insert name id }

def nameHandle (name : String) (handle : Handle) : Run Unit :=
  updateSession fun session => { session with handles := session.handles.insert name handle }

def nameRoute (name : String) (route : Route) : Run Unit :=
  updateSession fun session => { session with routes := session.routes.insert name route }

def nameEvents (name : String) (id : EventsId) : Run Unit :=
  updateSession fun session => { session with events := session.events.insert name id }

/-- Take a named route, which is used up. -/
def takeRoute (name : String) : Run Route := do
  let route ← routeNamed name
  updateSession fun session => { session with routes := session.routes.erase name }
  return route

def onHub {α : Type} (change : Hub Item → α × Hub Item) : Run α :=
  Scene.step fun world =>
    let (answer, hub) := change world.toHub
    (answer, world.withHub hub)

def readWorld : Run World := fun scene => (.done scene.world, scene)

def readStore (id : GraphId) : Run Store := fun scene => (.done (scene.world.store id), scene)

end Script

end RoutedGraph
