import RoutedGraph.Path
import RoutedGraph.Route.Projection
import RoutedGraph.Route.Subgraph

/-!
# Scripts

A script is a list of steps over named graphs, managers, handles, routes and
announcements.  Some steps hold scripts of their own: the body of a
transaction, the job of a bulk run, a part whose failure is caught, and a part
that runs on a thread of its own.
-/

namespace RoutedGraph

namespace Script

/-- A slot as a script gives it: written out, or taken from the graph at hand when the step runs,
with a payload of its own. -/
inductive SlotSource where
  | given (slot : Slot)
  | storedVertex (id : VertexId) (payload : Option Value)
  | storedEdge (id : EdgeId) (payload : Option Value)

inductive RouteSource where
  | paths (paths : List (List SlotSource)) (graph : Option String) (type : ElementType)
  | slots (slots : List SlotSource) (type : ElementType)
  | values (values : List Value) (type : ElementType)
  | vertices (graph : String)
  | edges (graph : String) (ids : List EdgeId)
  | cues (events : String) (cues : List (Cue Item))

inductive Change where
  | keep
  | toPath
  | project (aspect : Projection)

inductive RouteStage where
  | payloads
  | compact
  | heads (type : ElementType)
  | tails (type : ElementType)
  | pairs (head tail : Int)
  | trees
  | lengths (condition : LengthMatch)
  | name (name : String)
  | graph (name : String)
  /-- Keep the items whose aspect stands in an order to a value. -/
  | compared (aspect : Projection) (order : Ordering) (bound : Value)
  /-- Keep the first item and every so many after it. -/
  | every (period : Nat)
  | map (change : Change) (type : Option ElementType) (failure : Option (Nat × RouteError))
  | sections (name : String) (type : ElementType) (listen : Bool)
  | sort (aspect : Option Projection) (direction : Direction)
  | sortSections (events : String) (aspect : Option Projection) (direction : Direction)
      (traced : Bool)

inductive GraphCall where
  | describe
  | addVertex (properties : Properties)
  | addEdge (label : String) (outVertex inVertex : VertexId) (properties : Properties)
  | setProperty (id : VertexId) (name : String) (value : Value)
  | removeVertex (id : VertexId)
  | removeEdge (id : EdgeId)
  | vertex (id : VertexId)
  | edge (id : EdgeId)
  | edgesOut (id : VertexId)
  | edgesIn (id : VertexId)
  | edgesByLabel (label : String)
  | dump
  | cloneVertex (source : String) (element : SlotSource)
  | cloneEdge (source : String) (element : SlotSource) (options : CloneOptions)
  | clonedVertex (source : String) (id : VertexId)
  | clonedEdge (source : String) (id : EdgeId)

inductive Closing where
  | commit
  | rollback
  | policy

/-- A call on the manager of a graph or on a manager of its own. -/
inductive ManagerCall where
  | setNative (native : Bool)
  | context
  | enterRegistry
  | exitRegistry
  | bindRegistry (handle : String)
  | setDisabled (disabled : Bool)
  | setImplicit (policy : ImplicitPolicy)
  | config
  | closeImplicit (closing : Closing)

inductive HandleCall where
  | commit
  | rollback (message : Option String)
  | info

inductive RouteCall where
  | info
  | pull (count : Nat)
  | next (count : Nat)
  | collect
  | transpose
  | subgraph (target name : Option String) (options : SubgraphOptions)

inductive EventsCall where
  | listen
  | announce (border : Border) (marker : Item) (index : Nat)

inductive Call where
  | makeGraph (name : String) (native : Bool) (config : TransactionConfig)
  | aliasGraph (graph name : String)
  | same (first second : String)
  | makeManager (name : String) (external : External) (resourceOf registryOf : Option String)
      (config : TransactionConfig)
  | makeEvents (name : String)
  | makeRoute (name : String) (source : RouteSource) (stages : List RouteStage)
  | onGraph (graph : String) (call : GraphCall)
  | onManager (manager : String) (call : ManagerCall)
  | onHandle (handle : String) (call : HandleCall)
  | onRoute (route : String) (call : RouteCall)
  | onEvents (events : String) (call : EventsCall)
  | fail (error : RouteError)
  | panic (message : String)

/-- A step of a script.  If a step that is required fails, so does the script that it is in. -/
inductive Step where
  | call (required : Bool) (call : Call)
  | transaction (required : Bool) (manager : String) (name : Option String) (nesting : Bool)
      (body : List Step) (result : Value)
  | bulk (required : Bool) (route target : String) (size : Nat)
      (failure : Option (Nat × RouteError)) (job : List Step)
  | caught (required : Bool) (body : List Step)
  | thread (required : Bool) (body : List Step)

def GraphCall.name : GraphCall → String
  | describe => "debug"
  | addVertex _ => "add_vertex"
  | addEdge _ _ _ _ => "add_edge"
  | setProperty _ _ _ => "set"
  | removeVertex _ => "remove_vertex"
  | removeEdge _ => "remove_edge"
  | vertex _ => "vertex"
  | edge _ => "edge"
  | edgesOut _ => "edges_out"
  | edgesIn _ => "edges_in"
  | edgesByLabel _ => "edges_by_label"
  | dump => "dump"
  | cloneVertex _ _ => "clone_vertex"
  | cloneEdge _ _ _ => "clone_edge"
  | clonedVertex _ _ => "cloned_vertex"
  | clonedEdge _ _ => "cloned_edge"

def ManagerCall.name : ManagerCall → String
  | setNative _ => "set_native"
  | context => "context"
  | enterRegistry => "registry_enter"
  | exitRegistry => "registry_exit"
  | bindRegistry _ => "registry_bind"
  | setDisabled _ => "set_disable"
  | setImplicit _ => "set_implicit"
  | config => "config"
  | closeImplicit _ => "implicit"

def HandleCall.name : HandleCall → String
  | commit => "commit"
  | rollback _ => "rollback"
  | info => "tx_info"

def RouteCall.name : RouteCall → String
  | info => "info"
  | pull _ => "pull"
  | next _ => "next"
  | collect => "collect"
  | transpose => "transpose"
  | subgraph _ _ _ => "subgraph"

def EventsCall.name : EventsCall → String
  | listen => "listen"
  | announce _ _ _ => "fire"

def Call.name : Call → String
  | makeGraph _ _ _ => "graph"
  | aliasGraph _ _ => "alias"
  | same _ _ => "same"
  | makeManager _ _ _ _ _ => "manager"
  | makeEvents _ => "events"
  | makeRoute _ _ _ => "route"
  | onGraph _ call => call.name
  | onManager _ call => call.name
  | onHandle _ call => call.name
  | onRoute _ call => call.name
  | onEvents _ call => call.name
  | fail _ => "fail"
  | panic _ => "panic"

end Script

end RoutedGraph
