import RoutedGraph.Script.Session

/-!
# Steps without scripts of their own

What each call does and answers.
-/

namespace RoutedGraph

namespace Script

/-- A slot, as the graph at hand has it now if it is not written out. -/
def resolveSlot (graph : Option GraphId) (source : SlotSource) : Run Slot := fun scene =>
  let store := (graph.map scene.world.store).getD default
  match source with
  | .given slot => (.done slot, scene)
  | .storedVertex id payload =>
      match store.vertex? id with
      | some vertex => (.done (some (.vertex { vertex with payload := payload })), scene)
      | none => (.failed (.graph (.vertexNotFound id)), scene)
  | .storedEdge id payload =>
      match store.edge? id with
      | some edge => (.done (some (.edge { edge with payload := payload })), scene)
      | none => (.failed (.graph (.edgeNotFound id)), scene)

def resolveSlots (graph : Option GraphId) : List SlotSource → Run (List Slot)
  | [] => Task.value []
  | source :: rest => do
      let slot ← resolveSlot graph source
      let slots ← resolveSlots graph rest
      return slot :: slots

def resolvePaths (graph : Option GraphId) : List (List SlotSource) → Run (List Path)
  | [] => Task.value []
  | sources :: rest => do
      let slots ← resolveSlots graph sources
      let paths ← resolvePaths graph rest
      return ⟨slots⟩ :: paths

/-- The failure of a step that was given something else than it needs. -/
def unexpectedElement (expected : String) : RouteError :=
  .graph (.invalidOperation ("the element is not " ++ expected))

def onStore {α : Type} (graph : GraphId) (run : Store → Except GraphError α × Store) : Run α :=
  Scene.attempt fun world =>
    let (result, store) := run (world.store graph)
    (result.mapError RouteError.graph, world.setStore graph store)

def describeGraph (id : GraphId) (store : Store) : String :=
  "Graph \x7b id: GraphId(" ++ id.raw.repr ++ "), vertices: " ++ store.vertexCount.repr ++
    ", edges: " ++ store.edgeCount.repr ++ ", transactional: " ++
    TransactionConfig.flagText store.isTransactional ++ " \x7d"

def runGraphCall (graph : GraphId) : GraphCall → Run Reply
  | .describe => do
      let store ← readStore graph
      return .text (describeGraph graph store)
  | .addVertex properties => do
      let id ← onStore graph fun store =>
        let (id, grown) := store.addVertex properties
        (.ok id, grown)
      return .number id.raw
  | .addEdge label outVertex inVertex properties => do
      let id ← onStore graph fun store => store.addEdge label outVertex inVertex properties
      return .number id.raw
  | .setProperty id name value => do
      onStore graph fun store => store.setProperty id name value
      return .nothing
  | .removeVertex id => do
      onStore graph fun store => store.removeVertex id
      return .nothing
  | .removeEdge id => do
      onStore graph fun store => store.removeEdge id
      return .nothing
  | .vertex id => do
      let store ← readStore graph
      return .vertex (store.vertex? id)
  | .edge id => do
      let store ← readStore graph
      return .edge (store.edge? id)
  | .edgesOut id => do
      let store ← readStore graph
      return .edges ((store.edgesOut id).filterMap store.edge?)
  | .edgesIn id => do
      let store ← readStore graph
      return .edges ((store.edgesIn id).filterMap store.edge?)
  | .edgesByLabel label => do
      let store ← readStore graph
      return .edges ((store.edgesByLabel label).filterMap store.edge?)
  | .dump => do
      let store ← readStore graph
      return .dump (Dump.ofStore graph store)
  | .cloneVertex source element => do
      let origin ← graphNamed source
      match ← resolveSlot (some origin) element with
      | some (.vertex vertex) =>
          let id ← Scene.attempt fun world =>
            let (result, later) := world.cloneVertex graph origin vertex
            (result.mapError RouteError.graph, later)
          return .number id.raw
      | _ => Task.fail (unexpectedElement "a vertex")
  | .cloneEdge source element options => do
      let origin ← graphNamed source
      match ← resolveSlot (some origin) element with
      | some (.edge edge) =>
          let id ← Scene.attempt fun world =>
            let (result, later) := world.cloneEdge graph origin edge options
            (result.mapError RouteError.graph, later)
          return .clone (id.map EdgeId.raw)
      | _ => Task.fail (unexpectedElement "an edge")
  | .clonedVertex source id => do
      let origin ← graphNamed source
      let store ← readStore graph
      return .clone ((store.vertexClone? ⟨origin, id⟩).map VertexId.raw)
  | .clonedEdge source id => do
      let origin ← graphNamed source
      let store ← readStore graph
      return .clone ((store.edgeClone? ⟨origin, id⟩).map EdgeId.raw)

/-- Run a step of the shared state that may fail as transactions do. -/
def onTransactions {α : Type} (run : World → Except TransactionError α × World) : Run α :=
  Scene.attempt fun world =>
    let (result, later) := run world
    (result.mapError RouteError.transaction, later)

/-- Change whether a scripted resource takes part in transactions. -/
def setNative (native : Bool) (world : World) : ResourceId → World
  | .external number => world.setExternal number { world.external number with native := native }
  | .graph _ => world

def describeManager (native : Bool) (config : TransactionConfig) : String :=
  "TransactionManager \x7b native: " ++ TransactionConfig.flagText native ++ ", config: " ++
    config.text ++ " \x7d"

def strangeScope : ScopeId := ⟨0⟩

def runManagerCall (thread : ThreadId) (id : ManagerId) : ManagerCall → Run Reply
  | .setNative native => do
      Scene.modify fun world => setNative native world (world.manager id).resource
      return .nothing
  | .context => do
      let world ← readWorld
      return .context ((world.registryOf id).snapshot? (world.key thread id))
  | .enterRegistry => do
      let previous ← Scene.step fun world =>
        world.enter (world.manager id).registry (world.key thread id)
      return .number previous
  | .exitRegistry => do
      Scene.modify fun world => world.leave (world.manager id).registry (world.key thread id)
      return .nothing
  | .bindRegistry name => do
      let handle ← handleNamed name
      Scene.modify fun world =>
        let registry := (world.manager id).registry
        let bound := (world.registry registry).bind (world.key thread id) handle.token
          handle.strategy strangeScope
        world.setRegistry registry bound
      return .nothing
  | .setDisabled disabled => do
      Scene.modify fun world =>
        world.configure id fun config => { config with disabled := disabled }
      return .flag disabled
  | .setImplicit policy => do
      Scene.modify fun world =>
        world.configure id fun config => { config with implicit := policy }
      return .text policy.name
  | .config => do
      let world ← readWorld
      let manager := world.manager id
      return .config manager.config (0 < world.depth thread id)
        (describeManager (world.takesPart manager.resource) manager.config)
  | .closeImplicit closing => do
      onTransactions fun world =>
        match closing with
        | .commit => world.commitAll (world.manager id).resource
        | .rollback => world.abortAll (world.manager id).resource
        | .policy => world.closeImplicit id
      return .nothing

def runHandleCall (handle : Handle) : HandleCall → Run Reply
  | .commit => do
      onTransactions fun world => world.commit handle
      return .nothing
  | .rollback message => do
      onTransactions fun world => world.rollback handle message
      return .nothing
  | .info => return .handle handle

def makeSource : RouteSource → Run Route
  | .paths sources none type => do
      let paths ← resolvePaths none sources
      return Route.ofItems (paths.map Item.path) type
  | .paths sources (some name) _ => do
      let graph ← graphNamed name
      let paths ← resolvePaths (some graph) sources
      return Route.paths graph paths
  | .slots sources type => do
      let slots ← resolveSlots none sources
      return Route.ofItems (slots.map Item.slot) type
  | .values values type => return Route.ofItems (values.map Item.value) type
  | .vertices name => do
      let graph ← graphNamed name
      let world ← readWorld
      return Route.vertices graph world.stores
  | .edges name ids => do
      let graph ← graphNamed name
      return Route.edges graph ids
  | .cues name cues => do
      let events ← eventsNamed name
      return Route.ofPipe (.script events cues) .scalar

def Change.apply : Change → Item → Item
  | keep, item => item
  | toPath, item => .path item.toPath
  | project aspect, item => .value (aspect.ofItem item)

/-- Change an item, unless it is the one that fails. -/
def changeItem (change : Change) (failure : Option (Nat × RouteError)) (seen : Nat)
    (item : Item) : Except RouteError Item :=
  match failure with
  | some (position, error) => if seen = position then .error error else .ok (change.apply item)
  | none => .ok (change.apply item)

def addStage (route : Route) : RouteStage → Run Route
  | .payloads => return route.payloads
  | .compact => return route.compact
  | .heads type => return route.heads type
  | .tails type => return route.tails type
  | .pairs head tail => return route.pairs head tail
  | .trees => return route.trees
  | .lengths condition => return route.lengths condition
  | .name name => return route.withName name
  | .graph name => do
      let graph ← graphNamed name
      return route.withGraph graph
  | .compared aspect order bound =>
      return route.select fun _ item => (aspect.ofItem item).sortOrder bound == order
  | .every period => return route.select fun seen _ => seen % period == 0
  | .map change type failure =>
      return route.mapIndexed (type.getD route.type) (changeItem change failure)
  | .sections name type listen => do
      let (expanded, events) ← onHub (route.sections type (Route.children route.graph))
      nameEvents name events
      if listen then
        onHub fun hub => ((), hub.subscribe events (.watcher name))
      return expanded
  | .sort aspect direction => onHub (route.sort (Route.sorter aspect direction false))
  | .sortSections name aspect direction traced => do
      let events ← eventsNamed name
      onHub (route.sortSections events (Route.sorter aspect direction traced))

def addStages (route : Route) : List RouteStage → Run Route
  | [] => Task.value route
  | stage :: rest => do
      let staged ← addStage route stage
      addStages staged rest

def describeRoute (route : Route) : Reply :=
  .route route.type route.name route.graph route.text

/-- Pull a named route a number of times, and write each answer down. -/
def pullRoute (name : String) : Nat → Run Unit
  | 0 => Task.value ()
  | count + 1 => do
      let route ← routeNamed name
      let (answer, rest) ← Scene.step fun world =>
        let (answer, rest, later) := world.pull route
        ((answer, rest), later)
      nameRoute name rest
      Task.modify (write (.pulled answer))
      pullRoute name count

/-- The graph with a name, if one is given. -/
def graphNamed? : Option String → Run (Option GraphId)
  | none => Task.value none
  | some name => do
      let graph ← graphNamed name
      return some graph

def runRouteCall (thread : ThreadId) (name : String) : RouteCall → Run Reply
  | .info => do
      let route ← routeNamed name
      return describeRoute route
  | .pull count => do
      pullRoute name count
      return .nothing
  | .next count => do
      pullRoute name count
      return .nothing
  | .collect => do
      let route ← takeRoute name
      let items ← Scene.attempt fun world => world.collect route
      return .items items
  | .transpose => do
      let route ← takeRoute name
      let paths ← Scene.attempt fun world => world.transpose route
      return .paths paths
  | .subgraph target result options => do
      let route ← takeRoute name
      let given ← graphNamed? target
      let graph ← Subgraph.copy thread route given options
      match result with
      | some label => nameGraph label graph
      | none => Task.value ()
      return .subgraph graph (given.map fun other => decide (other = graph))

def runEventsCall (name : String) (events : EventsId) : EventsCall → Run Reply
  | .listen => do
      onHub fun hub => ((), hub.subscribe events (.watcher name))
      return .nothing
  | .announce border marker index => do
      onHub fun hub => ((), hub.announce events border marker index)
      return .nothing

/-- The manager with a name, if one is given. -/
def managerNamed? : Option String → Run (Option ManagerId)
  | none => Task.value none
  | some name => do
      let manager ← managerNamed name
      return some manager

def runCall (thread : ThreadId) : Call → Run Reply
  | .makeGraph name native config => do
      let id ← Scene.step fun world => world.addGraph native config
      nameGraph name id
      return .number id.raw
  | .aliasGraph graph name => do
      let id ← graphNamed graph
      nameGraph name id
      return .nothing
  | .same first second => do
      let one ← graphNamed first
      let two ← graphNamed second
      return .flag (decide (one = two))
  | .makeManager name external resourceOf registryOf config => do
      let resource ← managerNamed? resourceOf
      let registry ← managerNamed? registryOf
      let id ← Scene.step fun world =>
        world.addStandalone ((resource.map Sum.inr).getD (.inl external))
          (registry.map fun other => (world.manager other).registry) config
      nameManager name id
      return .nothing
  | .makeEvents name => do
      let events ← onHub Hub.openEvents
      nameEvents name events
      return .nothing
  | .makeRoute name source stages => do
      let start ← makeSource source
      let route ← addStages start stages
      nameRoute name route
      return describeRoute route
  | .onGraph name call => do
      let graph ← graphNamed name
      runGraphCall graph call
  | .onManager name call => do
      let manager ← managerNamed name
      runManagerCall thread manager call
  | .onHandle name call => do
      let handle ← handleNamed name
      runHandleCall handle call
  | .onRoute name call => runRouteCall thread name call
  | .onEvents name call => do
      let events ← eventsNamed name
      runEventsCall name events call
  | .fail error => Task.fail error
  | .panic message => Task.panic message

end Script

end RoutedGraph
