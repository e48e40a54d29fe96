import RoutedGraph.Route.Projection
import RoutedGraph.Section.Hub
import RoutedGraph.Store.Op
import RoutedGraph.Transaction.Config
import RoutedGraph.Transaction.Registry

/-!
# The world

Everything that graphs, managers of transactions and threads share: the stores
of the graphs, the scripted resources, the managers and their registries, the
counters of identities, and the hub of the section events.  A scripted resource
is one outside the graphs that only counts what it is asked to do and fails
where it has been told to.
-/

namespace RoutedGraph

/-- A call that a transaction made on its resource. -/
structure BoundaryCall where
  /-- Whether it was a commit; otherwise it was an abort. -/
  isCommit : Bool
  succeeded : Bool
  deriving DecidableEq

namespace BoundaryCall

/-- A letter: C for a commit and A for an abort, small if it failed. -/
def letter (call : BoundaryCall) : Char :=
  if call.isCommit then if call.succeeded then 'C' else 'c'
  else if call.succeeded then 'A' else 'a'

end BoundaryCall

/-- A resource that fails the calls it has been told to. -/
structure External where
  /-- Whether it takes part in transactions. -/
  native : Bool
  /-- The numbers, from zero, of the commits that fail. -/
  failingCommits : List Nat
  /-- The numbers, from zero, of the aborts that fail. -/
  failingAborts : List Nat
  /-- The calls so far in order. -/
  calls : List BoundaryCall

namespace External

instance : Inhabited External := ⟨⟨true, [], [], []⟩⟩

/-- How many calls of one kind there have been. -/
def count (external : External) (isCommit : Bool) : Nat :=
  external.calls.countP fun call => call.isCommit == isCommit

def callText (external : External) : String :=
  String.ofList (external.calls.map BoundaryCall.letter)

def note (external : External) (call : BoundaryCall) : External :=
  { external with calls := external.calls ++ [call] }

def commitAll (external : External) : Except TransactionError Unit × External :=
  let number := external.count true
  if external.failingCommits.contains number then
    (.error (.resource ("commit #" ++ number.repr ++ " failed")), external.note ⟨true, false⟩)
  else (.ok (), external.note ⟨true, true⟩)

def abortAll (external : External) : Except TransactionError Unit × External :=
  let number := external.count false
  if external.failingAborts.contains number then
    (.error (.resource ("abort #" ++ number.repr ++ " failed")), external.note ⟨false, false⟩)
  else (.ok (), external.note ⟨false, true⟩)

end External

/-- The identity of a manager of transactions.  Every graph has one of its own. -/
inductive ManagerId where
  | graph (id : GraphId)
  | standalone (number : Nat)
  deriving DecidableEq

namespace ManagerId

/-- Managers of graphs come first, and like is ordered by number. -/
def order : ManagerId → ManagerId → Ordering
  | graph first, graph second => compare first second
  | graph _, standalone _ => .lt
  | standalone _, graph _ => .gt
  | standalone first, standalone second => compare first second

instance : Ord ManagerId := ⟨order⟩

end ManagerId

/-- What a manager of transactions works with. -/
structure Manager where
  resource : ResourceId
  /-- The manager whose registry it uses, often itself. -/
  registry : ManagerId
  config : TransactionConfig

instance : Inhabited Manager := ⟨⟨.external 0, .standalone 0, TransactionConfig.standard⟩⟩

abbrev Stores := Dict GraphId Store

/-- The shared state. -/
structure World extends Hub Item where
  stores : Stores
  externals : Dict Nat External
  managers : Dict ManagerId Manager
  registries : Dict ManagerId Registry
  nextGraph : Nat
  nextManager : Nat
  nextToken : Nat
  nextScope : Nat
  nextThread : Nat

namespace World

/-- Nothing has been made yet.  The first thread is number zero, and no scope is. -/
def empty : World where
  toHub := Hub.empty
  stores := Dict.empty
  externals := Dict.empty
  managers := Dict.empty
  registries := Dict.empty
  nextGraph := 1
  nextManager := 1
  nextToken := 1
  nextScope := 1
  nextThread := 1

def withHub (world : World) (hub : Hub Item) : World := { world with toHub := hub }

def emit (world : World) (event : LogEvent) : World := world.withHub (world.toHub.emit event)

def store (world : World) (id : GraphId) : Store := world.stores.getD id default

def setStore (world : World) (id : GraphId) (store : Store) : World :=
  { world with stores := world.stores.insert id store }

def external (world : World) (number : Nat) : External := world.externals.getD number default

def setExternal (world : World) (number : Nat) (external : External) : World :=
  { world with externals := world.externals.insert number external }

def manager (world : World) (id : ManagerId) : Manager := world.managers.getD id default

def registry (world : World) (id : ManagerId) : Registry := world.registries.getD id default

def setRegistry (world : World) (id : ManagerId) (registry : Registry) : World :=
  { world with registries := world.registries.insert id registry }

def registryOf (world : World) (id : ManagerId) : Registry :=
  world.registry (world.manager id).registry

def key (world : World) (thread : ThreadId) (id : ManagerId) : ContextKey :=
  ⟨thread, (world.manager id).resource⟩

/-- The number of scopes that a thread has open with a manager. -/
def depth (world : World) (thread : ThreadId) (id : ManagerId) : Nat :=
  (world.registryOf id).depth (world.key thread id)

def configure (world : World) (id : ManagerId) (change : TransactionConfig → TransactionConfig) :
    World :=
  let manager := world.manager id
  { world with
    managers := world.managers.insert id { manager with config := change manager.config } }

/-- Add a manager with a registry of its own, unless it uses another one. -/
def addManager (world : World) (id : ManagerId) (manager : Manager) : World :=
  let managed : World := { world with managers := world.managers.insert id manager }
  if manager.registry = id then managed.setRegistry id Registry.empty else managed

/-- A new graph with a manager of its own. -/
def addGraph (world : World) (transactional : Bool) (config : TransactionConfig) :
    GraphId × World :=
  let id : GraphId := ⟨world.nextGraph⟩
  let numbered : World := { world with nextGraph := world.nextGraph + 1 }
  (id,
    (numbered.setStore id (Store.empty transactional)).addManager (.graph id)
      ⟨.graph id, .graph id, config⟩)

/-- A new manager, on a new scripted resource or on that of another manager. -/
def addStandalone (world : World) (resource : External ⊕ ManagerId) (registry : Option ManagerId)
    (config : TransactionConfig) : ManagerId × World :=
  let number := world.nextManager
  let id : ManagerId := .standalone number
  let numbered : World := { world with nextManager := number + 1 }
  match resource with
  | .inl external =>
      (id,
        (numbered.setExternal number external).addManager id
          ⟨.external number, registry.getD id, config⟩)
  | .inr other =>
      (id, numbered.addManager id ⟨(world.manager other).resource, registry.getD id, config⟩)

def addThread (world : World) : ThreadId × World :=
  (⟨world.nextThread⟩, { world with nextThread := world.nextThread + 1 })

def takesPart (world : World) : ResourceId → Bool
  | .graph id => (world.store id).isTransactional
  | .external number => (world.external number).native

def commitAll (world : World) : ResourceId → Except TransactionError Unit × World
  | .graph id => (.ok (), (world.setStore id (world.store id).commit).emit (.implicitCommitted id))
  | .external number =>
      let (result, later) := (world.external number).commitAll
      (result, world.setExternal number later)

def abortAll (world : World) : ResourceId → Except TransactionError Unit × World
  | .graph id =>
      if (world.store id).isTransactional then
        (.ok (), (world.setStore id (world.store id).abort).emit (.implicitAborted id))
      else
        (.error (.resource ("graph " ++ id.text ++ " does not support transactions")), world)
  | .external number =>
      let (result, later) := (world.external number).abortAll
      (result, world.setExternal number later)

end World

end RoutedGraph
