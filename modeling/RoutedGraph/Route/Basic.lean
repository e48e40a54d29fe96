import RoutedGraph.Path
import RoutedGraph.Pipe.Pull
import RoutedGraph.Route.Projection
import RoutedGraph.Value.Order
import RoutedGraph.World.Basic

/-!
# Routes

A route is a pipe that declares the type of its elements and may have a name
and a graph.  A stage put on a route keeps its graph and drops its name, unless
it only selects.  A stage on paths reads an item that is none as a path of one
slot, and one that changes paths gives the route a name.
-/

namespace RoutedGraph

/-- A lazy sequence of items that is used up as it is pulled. -/
structure Route where
  pipe : Pipe Stores Item
  type : ElementType
  name : Option String
  graph : Option GraphId

namespace Route

/-- A route over a pipe, without name and graph. -/
def ofPipe (pipe : Pipe Stores Item) (type : ElementType) : Route := ⟨pipe, type, none, none⟩

def ofItems (items : List Item) (type : ElementType) : Route := ofPipe (.ofItems items) type

def withGraph (route : Route) (graph : GraphId) : Route := { route with graph := some graph }

def withName (route : Route) (name : String) : Route := { route with name := some name }

def chain (route : Route) (type : ElementType) (build : Pipe Stores Item → Pipe Stores Item) :
    Route :=
  ⟨build route.pipe, type, none, route.graph⟩

/-- Change every item, given how many came before it. -/
def mapIndexed (route : Route) (type : ElementType)
    (change : Nat → Item → Except RouteError Item) : Route :=
  route.chain type (.map (fun _ => change) 0)

def map (route : Route) (type : ElementType) (change : Item → Except RouteError Item) : Route :=
  route.mapIndexed type fun _ => change

/-- Keep some items, given how many came before each. -/
def select (route : Route) (keeps : Nat → Item → Bool) : Route :=
  { route.chain route.type (.select keeps 0) with name := route.name }

def paths (graph : GraphId) (paths : List Path) : Route :=
  (ofItems (paths.map Item.path) .path).withGraph graph

def vertices (graph : GraphId) (stores : Stores) : Route :=
  (ofItems ((stores.getD graph default).vertices.values.map Item.vertex) .vertex).withGraph graph

def readEdge (graph : GraphId) (id : EdgeId) (stores : Stores) : Except RouteError Item :=
  match (stores.getD graph default).edge? id with
  | some edge => .ok (.edge edge)
  | none => .error (.graph (.edgeNotFound id))

/-- The edges of a graph with given identifiers, looked up as they are pulled. -/
def edges (graph : GraphId) (ids : List EdgeId) : Route :=
  (ofPipe (.source (ids.map (readEdge graph))) .edge).withGraph graph

/-- Expand every item into a section, and answer the announcements of the sections. -/
def sections (route : Route) (type : ElementType)
    (expand : Stores → Item → Except RouteError (List Item)) (hub : Hub Item) :
    (Route × EventsId) × Hub Item :=
  let (events, opened) := hub.openEvents
  ((route.chain type (.sections expand events none [] 0), events), opened)

def sort (route : Route) (sorter : Sorter Item) (hub : Hub Item) : Route × Hub Item :=
  let (window, opened) := hub.openWindow sorter
  (route.chain route.type (.sort window 0 false false), opened.startWindow window 0)

def sortSections (route : Route) (events : EventsId) (sorter : Sorter Item) (hub : Hub Item) :
    Route × Hub Item :=
  let (window, opened) := hub.openWindow sorter
  (route.chain route.type (.sort window 0 false false), opened.subscribe events (.window window))

def sorterBy (aspect : Projection) (direction : Direction) (traced : Bool) : Sorter Item where
  inOrder marker index first second :=
    if direction.isDescending marker index then
      (aspect.ofItem second).sortOrder (aspect.ofItem first) != .gt
    else (aspect.ofItem first).sortOrder (aspect.ofItem second) != .gt
  traced := traced

/-- Sort by the aspect that is chosen, if one is.  Else the items are sorted by their values:
these have one order, so that direction and trace do not apply. -/
def sorter (aspect : Option Projection) (direction : Direction) (traced : Bool) : Sorter Item :=
  match aspect with
  | some chosen => sorterBy chosen direction traced
  | none => sorterBy .value .ascending false

def graphText : Option GraphId → String
  | some graph => "Some(GraphId(" ++ graph.raw.repr ++ "))"
  | none => "None"

def text (route : Route) : String :=
  "Route \x7b element_type: " ++ route.type.title ++ ", name: " ++
    LogEvent.routeText route.name ++ ", graph: " ++ graphText route.graph ++ " \x7d"

end Route

namespace World

def pull (world : World) (route : Route) : Answer Item × Route × World :=
  match route.pipe.pull world.stores world.toHub with
  | (answer, pipe, hub) => (answer, { route with pipe := pipe }, world.withHub hub)

def collect (world : World) (route : Route) : Except RouteError (List Item) × World :=
  let (result, hub) := route.pipe.collect world.stores world.toHub
  (result, world.withHub hub)

end World

namespace Route

def mapPaths (route : Route) (type : ElementType) (change : Path → Except RouteError Item) :
    Route :=
  route.map type fun item => change item.toPath

/-- Replace every element by its payload, with a hole where there is none. -/
def payloads (route : Route) : Route :=
  (route.mapPaths .path fun path => .ok (.path path.payloads)).withName "payloads"

def compact (route : Route) : Route :=
  (route.mapPaths .path fun path => .ok (.path path.compact)).withName "compact"

def heads (route : Route) (type : ElementType) : Route :=
  (route.mapPaths type fun path => (path.slotAt 0).map Item.slot).withName "heads"

def tails (route : Route) (type : ElementType) : Route :=
  (route.mapPaths type fun path => (path.slotAt (-1)).map Item.slot).withName "tails"

/-- The slots of every path at two possibly negative indices. -/
def pairs (route : Route) (head tail : Int) : Route :=
  (route.mapPaths .path fun path => (path.pair head tail).map Item.path).withName
    ("pairs[" ++ head.repr ++ "," ++ tail.repr ++ "]")

def lengths (route : Route) (condition : LengthMatch) : Route :=
  route.select fun _ item => condition.accepts item.toPath.length

def trees (route : Route) : Route :=
  (route.mapPaths .hash fun path => .ok (.value (.map path.tree))).withName "trees"

/-- The children of an item: the slots of a path, the items of a list, nothing for null, and the
edges that leave a vertex of the graph. -/
def children (graph : Option GraphId) (stores : Stores) : Item → Except RouteError (List Item)
  | .path path => .ok (path.slots.map Item.slot)
  | .value (.list items) => .ok (items.map Item.value)
  | .value .null => .ok []
  | .value content => .error (.graph (.invalidOperation ("cannot expand " ++ content.text)))
  | .vertex vertex =>
      match graph with
      | none => .error .noGraph
      | some id =>
          let store := stores.getD id default
          .ok (((store.edgesOut vertex.id).filterMap store.edge?).map Item.edge)
  | .slot slot => .ok [.slot slot]
  | .edge edge => .ok [.edge edge]

end Route

namespace World

def transpose (world : World) (route : Route) : Except RouteError (List Path) × World :=
  let (result, later) := world.collect route
  (result.bind fun items => Path.transpose (items.map Item.toPath), later)

end World

end RoutedGraph
