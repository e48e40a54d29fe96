import RoutedGraph.Route.Basic
import RoutedGraph.World.Clone
import RoutedGraph.World.Transaction

/-!
# Bulk jobs and subgraphs

A bulk job runs a task for every item of a route inside a transaction on a
target graph and commits after every so many items.  The scope allows nesting,
so that a bulk job may run inside a transaction of its caller.

A subgraph copies the vertices and edges on the paths of a route into another
graph by bulk jobs.  An edge whose endpoints are not there yet is deferred, and
tried once more from its own graph after all paths have been copied.
-/

namespace RoutedGraph

namespace Bulk

variable {χ : Type}

def commitChunk (handle : Handle) (name : Option String) (size count : Nat) :
    Task (Scene χ) Unit :=
  if count % size = 0 then
    (Scene.attempt fun world =>
      match world.commit handle with
      | (.ok (), committed) => (.ok (), committed.emit (.chunkCommitted name count))
      | (.error error, refused) => (.error (.transaction error), refused))
  else Task.value ()

def loop (handle : Handle) (name : Option String) (size : Nat)
    (job : Nat → Item → Task (Scene χ) Unit) (pipe : Pipe Stores Item) (count : Nat) :
    Task (Scene χ) Nat := fun scene =>
  match _pulled : pipe.pull scene.world.stores scene.world.toHub with
  | (.item item, next, hub) =>
      ((job count item).andThen fun _ =>
        (commitChunk handle name size (count + 1)).andThen fun _ =>
          loop handle name size job next (count + 1))
        (scene.withHub hub)
  | (.done, _, hub) => (.done count, scene.withHub hub)
  | (.failed error, _, hub) => (.failed error, scene.withHub hub)
termination_by pipe.rank
decreasing_by exact Pipe.pull_lowers _pulled (by simp)

/-- The loop is a pull, followed by the job and the rest if the pull brings an item. -/
theorem loop_eq (handle : Handle) (name : Option String) (size : Nat)
    (job : Nat → Item → Task (Scene χ) Unit) (pipe : Pipe Stores Item) (count : Nat)
    (scene : Scene χ) :
    loop handle name size job pipe count scene =
      match pipe.pull scene.world.stores scene.world.toHub with
      | (.item item, next, hub) =>
          ((job count item).andThen fun _ =>
            (commitChunk handle name size (count + 1)).andThen fun _ =>
              loop handle name size job next (count + 1))
            (scene.withHub hub)
      | (.done, _, hub) => (.done count, scene.withHub hub)
      | (.failed error, _, hub) => (.failed error, scene.withHub hub) := by
  rw [loop]
  split <;> rename_i pulled <;> simp only [pulled]

/-- Run a job, which is told how many items came before, for every item of a route, and answer
the number of items. -/
def run (thread : ThreadId) (route : Route) (target : GraphId) (size : Nat)
    (job : Nat → Item → Task (Scene χ) Unit) : Task (Scene χ) Nat :=
  transact thread (.graph target) true fun handle =>
    (loop handle route.name (max size 1) job route.pipe 0).andThen fun count =>
      (Scene.modify fun world => world.emit (.bulkFinished route.name count target)).andThen
        fun _ => Task.value count

/-- The number of items between commits where none is given. -/
def standardSize : Nat := 5000

end Bulk

structure SubgraphOptions where
  /-- What is done with a deferred edge whose endpoints are still missing. -/
  missing : CloneOptions
  bulkSize : Nat
  deriving DecidableEq

namespace Subgraph

variable {χ : Type}

def copyVertices (target source : GraphId) (world : World) :
    List Vertex → Except RouteError Unit × World
  | [] => (.ok (), world)
  | vertex :: rest =>
      match world.cloneVertex target source vertex with
      | (.error error, later) => (.error (.graph error), later)
      | (.ok _, later) => copyVertices target source later rest

/-- Copy edges, and defer those whose endpoints are missing, each once. -/
def copyEdges (target source : GraphId) (world : World) (deferred : List EdgeId) :
    List Edge → Except RouteError (List EdgeId) × World
  | [] => (.ok deferred, world)
  | edge :: rest =>
      match world.cloneEdge target source edge .skipping with
      | (.error error, later) => (.error (.graph error), later)
      | (.ok (some _), later) => copyEdges target source later deferred rest
      | (.ok none, later) =>
          let known := deferred.contains edge.id
          copyEdges target source later (if known then deferred else deferred ++ [edge.id]) rest

/-- Copy one path, and note the edges that are deferred. -/
def copyPath (target source : GraphId) (path : Path) : Task (Scene (List EdgeId)) Unit :=
  fun scene =>
    match copyVertices target source scene.world path.vertices with
    | (.error error, later) => (.failed error, { scene with world := later })
    | (.ok (), later) =>
        match copyEdges target source later scene.rest path.edges with
        | (.error error, final) => (.failed error, { scene with world := final })
        | (.ok deferred, final) => (.done (), ⟨final, deferred⟩)

def copyItem (target source : GraphId) (options : CloneOptions) (item : Item) :
    Task (Scene χ) Unit :=
  match item with
  | .edge edge =>
      Scene.attempt fun world =>
        match world.cloneEdge target source edge options with
        | (.ok _, later) => (.ok (), later)
        | (.error error, later) => (.error (.graph error), later)
  | _ => Task.value ()

/-- Copy every path of a route, and answer the edges that were deferred. -/
def copyPaths (thread : ThreadId) (route : Route) (source target : GraphId) (size : Nat) :
    Task (Scene χ) (List EdgeId) := fun scene =>
  let (outcome, after) :=
    Bulk.run thread route target size (fun _ item => copyPath target source item.toPath)
      ⟨scene.world, []⟩
  (outcome.map fun _ => after.rest, { scene with world := after.world })

def retryEdges (thread : ThreadId) (source target : GraphId) (options : SubgraphOptions)
    (deferred : List EdgeId) : Task (Scene χ) Unit :=
  if deferred.isEmpty then Task.value ()
  else
    (Scene.modify fun world =>
      world.emit (.retryingEdges source target deferred.length)).andThen fun _ =>
        (Bulk.run thread (Route.edges source deferred) target options.bulkSize fun _ item =>
          copyItem target source options.missing item).andThen fun _ => Task.value ()

/-- The graph to copy into: the one given, or a new one. -/
def takeTarget (target : Option GraphId) : Task (Scene χ) GraphId :=
  match target with
  | some graph => Task.value graph
  | none => Scene.step fun world => world.addGraph true TransactionConfig.standard

/-- Copy what is on the paths of a route into a graph, and answer the graph. -/
def copy (thread : ThreadId) (route : Route) (target : Option GraphId)
    (options : SubgraphOptions) : Task (Scene χ) GraphId :=
  match route.graph with
  | none => Task.fail .noGraph
  | some source =>
      if target = some source then Task.fail .selfSubgraph
      else
        (takeTarget target).andThen fun graph =>
          (copyPaths thread route source graph options.bulkSize).andThen fun deferred =>
            (retryEdges thread source graph options deferred).andThen fun _ => Task.value graph

end Subgraph

end RoutedGraph
