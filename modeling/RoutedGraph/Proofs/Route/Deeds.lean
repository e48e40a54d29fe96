import RoutedGraph.Proofs.World.Deeds
import RoutedGraph.Route.Subgraph

/-!
# Bulk jobs and subgraphs as deeds

A bulk job whose task is a deed is a deed itself, and so is a subgraph: each is
composed of pulls, clones and commits within transactions, and runs as the
route does.
-/

namespace RoutedGraph

/-- What a pull brings and what is left of the pipe, beside the hub after it. -/
def Pipe.pulled (pipe : Pipe Stores Item) (stores : Stores) (hub : Hub Item) :
    Body.Pulled pipe × Hub Item :=
  let pulled := pipe.pull stores hub
  (⟨(pulled.1, pulled.2.1), fun _ brought => pull_lowers (Prod.ext brought rfl) (by simp)⟩,
    pulled.2.2)

namespace Deed

variable {χ α : Type}

/-- End with a value. -/
def value (result : α) : Deed χ α := aside (Task.value result) fun _ => .refl _

def fail (error : RouteError) : Deed χ α := aside (Task.fail error) fun _ => .refl _

/-- Add an event to the log. -/
def log (event : LogEvent) : Deed χ Unit :=
  aside (Scene.modify fun world => world.emit event) fun _ => ⟨rfl, rfl⟩

/-- Read what a deed works on besides the world. -/
def ask : Deed χ χ := aside (fun scene => (.done scene.rest, scene)) fun _ => .refl _

/-- Put something else in the place of what a deed works on besides the world. -/
def keep (rest : χ) : Deed χ Unit :=
  aside (fun scene => (.done (), { scene with rest := rest })) fun _ => .refl _

/-- Pull a pipe once. -/
def pull (pipe : Pipe Stores Item) : Deed χ (Body.Pulled pipe) :=
  aside
    (fun scene =>
      let (pulled, hub) := pipe.pulled scene.world.stores scene.world.toHub
      (.done pulled, scene.withHub hub))
    fun _ => ⟨rfl, rfl⟩

def commitChunk (target : GraphId) (handle : Handle) (name : Option String) (size count : Nat) :
    Deed χ Unit :=
  if count % size = 0 then
    (act target (.commit handle)).andThen fun _ => log (.chunkCommitted name count)
  else value ()

/-- Run the job for what is left of a pipe. -/
def loop (target : GraphId) (handle : Handle) (name : Option String) (size : Nat)
    (job : Nat → Item → Deed χ Unit) (pipe : Pipe Stores Item) (count : Nat) : Deed χ Nat :=
  (pull pipe).andThen fun pulled =>
    match _brought : pulled.val.1 with
    | .item item =>
        (job count item).andThen fun _ =>
          (commitChunk target handle name size (count + 1)).andThen fun _ =>
            loop target handle name size job pulled.val.2 (count + 1)
    | .done => value count
    | .failed error => fail error
termination_by pipe.rank
decreasing_by exact pulled.property item _brought

/-- A bulk job on a target graph. -/
def bulk (thread : ThreadId) (route : Route) (target : GraphId) (size : Nat)
    (job : Nat → Item → Deed χ Unit) : Deed χ Nat :=
  transaction thread target true fun handle =>
    (loop target handle route.name (max size 1) job route.pipe 0).andThen fun count =>
      (log (.bulkFinished route.name count target)).andThen fun _ => value count

theorem run_commitChunk (target : GraphId) (handle : Handle) (name : Option String)
    (size count : Nat) :
    (commitChunk target handle name size count : Deed χ Unit).run =
      Bulk.commitChunk handle name size count := by
  unfold commitChunk Bulk.commitChunk
  split
  · funext scene
    simp only [log, run_andThen, run_act, Task.andThen, Scene.attempt, GraphAction.perform,
      World.transactional]
    rcases scene.world.commit handle with ⟨_ | _, later⟩ <;> rfl
  · rfl

theorem run_loop (target : GraphId) (handle : Handle) (name : Option String) (size : Nat)
    (job : Nat → Item → Deed χ Unit) (pipe : Pipe Stores Item) (count : Nat) :
    (loop target handle name size job pipe count).run =
      Bulk.loop handle name size (fun number item => (job number item).run) pipe count := by
  refine Bulk.eq_loop (fun pipe count => (loop target handle name size job pipe count).run)
    (fun pipe count scene => ?_) pipe count
  rw [loop]
  simp only [pull, Pipe.pulled, run_andThen, run_aside, Task.andThen]
  rcases pipe.pull scene.world.stores scene.world.toHub with ⟨item | _ | error, next, hub⟩
  · simp only [run_andThen, run_commitChunk, Task.andThen]
  · rfl
  · rfl

/-- A bulk job whose task is a deed runs as the bulk job of the route. -/
theorem run_bulk (thread : ThreadId) (route : Route) (target : GraphId) (size : Nat)
    (job : Nat → Item → Deed χ Unit) :
    (bulk thread route target size job).run =
      Bulk.run thread route target size fun number item => (job number item).run := by
  simp only [bulk, Bulk.run, run_transaction, run_andThen, run_loop]
  rfl

section Subgraph

variable (target source : GraphId)

def copyVertices : List Vertex → Deed χ Unit
  | [] => value ()
  | vertex :: rest =>
      (act target (.cloneVertex source vertex)).andThen fun _ => copyVertices rest

/-- Copy edges, and answer those that are deferred behind those that are already. -/
def copyEdges (deferred : List EdgeId) : List Edge → Deed χ (List EdgeId)
  | [] => value deferred
  | edge :: rest =>
      (act target (.cloneEdge source edge .skipping)).andThen fun
        | some _ => copyEdges deferred rest
        | none =>
            copyEdges (if deferred.contains edge.id then deferred else deferred ++ [edge.id]) rest

def copyPath (path : Path) : Deed (List EdgeId) Unit :=
  (copyVertices target source path.vertices).andThen fun _ =>
    ask.andThen fun deferred =>
      (copyEdges target source deferred path.edges).andThen keep

def copyItem (options : CloneOptions) : Item → Deed χ Unit
  | .edge edge => (act target (.cloneEdge source edge options)).andThen fun _ => value ()
  | _ => value ()

def copyPaths (thread : ThreadId) (route : Route) (size : Nat) : Deed χ (List EdgeId) :=
  within []
    (bulk thread route target size fun _ item => copyPath target source item.toPath)
    fun _ deferred => deferred

def retryEdges (thread : ThreadId) (options : SubgraphOptions) (deferred : List EdgeId) :
    Deed χ Unit :=
  if deferred.isEmpty then value ()
  else
    (log (.retryingEdges source target deferred.length)).andThen fun _ =>
      (bulk thread (Route.edges source deferred) target options.bulkSize fun _ item =>
        copyItem target source options.missing item).andThen fun _ => value ()

end Subgraph

def takeTarget : Option GraphId → Deed χ GraphId
  | some graph => value graph
  | none => make true TransactionConfig.standard

/-- Copy what is on the paths of a route into a graph, and answer the graph. -/
def subgraph (thread : ThreadId) (route : Route) (target : Option GraphId)
    (options : SubgraphOptions) : Deed χ GraphId :=
  match route.graph with
  | none => fail .noGraph
  | some source =>
      if target = some source then fail .selfSubgraph
      else
        (takeTarget target).andThen fun graph =>
          (copyPaths graph source thread route options.bulkSize).andThen fun deferred =>
            (retryEdges graph source thread options deferred).andThen fun _ => value graph

section Subgraph

variable (target source : GraphId)

theorem run_copyVertices (vertices : List Vertex) (scene : Scene χ) :
    (copyVertices target source vertices).run scene =
      Scene.attempt (fun world => Subgraph.copyVertices target source world vertices) scene := by
  induction vertices generalizing scene with
  | nil => rfl
  | cons vertex rest ih =>
      simp only [copyVertices, run_andThen, run_act, Task.andThen, Scene.attempt,
        GraphAction.perform, World.graphical, Subgraph.copyVertices, ih]
      rcases scene.world.cloneVertex target source vertex with ⟨_ | _, later⟩ <;> rfl

theorem run_copyEdges (deferred : List EdgeId) (edges : List Edge) (scene : Scene χ) :
    (copyEdges target source deferred edges).run scene =
      Scene.attempt (fun world => Subgraph.copyEdges target source world deferred edges)
        scene := by
  induction edges generalizing deferred scene with
  | nil => rfl
  | cons edge rest ih =>
      simp only [copyEdges, run_andThen, run_act, Task.andThen, Scene.attempt,
        GraphAction.perform, World.graphical, Subgraph.copyEdges]
      rcases scene.world.cloneEdge target source edge .skipping with ⟨_ | _ | _, later⟩
      · rfl
      · exact ih _ _
      · exact ih _ _

theorem run_copyPath (path : Path) :
    (copyPath target source path).run = Subgraph.copyPath target source path := by
  funext scene
  simp only [copyPath, ask, keep, run_andThen, run_aside, run_copyVertices, run_copyEdges,
    Task.andThen, Scene.attempt, Subgraph.copyPath]
  rcases Subgraph.copyVertices target source scene.world path.vertices with ⟨_ | _, later⟩
  · rfl
  · dsimp only [Outcome.ofExcept]
    rcases Subgraph.copyEdges target source later scene.rest path.edges with ⟨_ | _, final⟩ <;> rfl

theorem run_copyItem (options : CloneOptions) (item : Item) :
    (copyItem target source options item : Deed χ Unit).run =
      Subgraph.copyItem target source options item := by
  cases item with
  | edge edge =>
      funext scene
      simp only [copyItem, run_andThen, run_act, Task.andThen, Scene.attempt,
        GraphAction.perform, World.graphical, Subgraph.copyItem]
      rcases scene.world.cloneEdge target source edge options with ⟨_ | _, later⟩ <;> rfl
  | _ => rfl

theorem run_copyPaths (thread : ThreadId) (route : Route) (size : Nat) :
    (copyPaths target source thread route size : Deed χ (List EdgeId)).run =
      Subgraph.copyPaths thread route source target size := by
  funext scene
  simp only [copyPaths, run_within, run_bulk, run_copyPath, Subgraph.copyPaths]

theorem run_retryEdges (thread : ThreadId) (options : SubgraphOptions)
    (deferred : List EdgeId) :
    (retryEdges target source thread options deferred : Deed χ Unit).run =
      Subgraph.retryEdges thread source target options deferred := by
  unfold retryEdges Subgraph.retryEdges
  split
  · rfl
  · simp only [run_andThen, run_bulk, run_copyItem]
    rfl

end Subgraph

/-- The deed of a subgraph runs as the subgraph of the route. -/
theorem run_subgraph (thread : ThreadId) (route : Route) (target : Option GraphId)
    (options : SubgraphOptions) :
    (subgraph thread route target options : Deed χ GraphId).run =
      Subgraph.copy thread route target options := by
  unfold subgraph Subgraph.copy
  cases route.graph with
  | none => rfl
  | some source =>
      dsimp only
      split
      · rfl
      · simp only [run_andThen, run_copyPaths, run_retryEdges]
        cases target <;> rfl

end Deed

end RoutedGraph
