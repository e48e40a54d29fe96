import RoutedGraph.Proofs.Store.Content
import RoutedGraph.Proofs.Transaction.Opening
import RoutedGraph.Proofs.World.GraphStep
import RoutedGraph.Route.Subgraph

/-!
# Bodies of transactions

A body is what one thread does with one graph: it reads and writes the graph,
clones into it, commits and rolls back through handles and without them,
changes the configuration, and runs further transactions and bulk jobs.  What
comes next may depend on everything that was read or that failed before.  A
body runs as a task.  Beside the run, the log tells which commits reached the
store of the graph, and so what content was the last to be committed.
-/

namespace RoutedGraph

/-- One thing done with a graph. -/
inductive GraphAction : Type → Type 1 where
  | read {α : Type} (look : Store → α) : GraphAction α
  | write (change : GraphWrite) : GraphAction Store.Answer
  | cloneVertex (source : GraphId) (vertex : Vertex) : GraphAction VertexId
  | cloneEdge (source : GraphId) (edge : Edge) (options : CloneOptions) :
      GraphAction (Option EdgeId)
  | commit (handle : Handle) : GraphAction Unit
  | rollback (handle : Handle) (message : Option String) : GraphAction Unit
  | commitImplicit : GraphAction Unit
  | rollbackImplicit : GraphAction Unit
  | closeImplicit : GraphAction Unit
  | configure (change : TransactionConfig → TransactionConfig) : GraphAction Unit

/-- A step that fails as transactions do. -/
def World.transactional {α : Type} (step : Except TransactionError α × World) :
    Except RouteError α × World :=
  (step.1.mapError RouteError.transaction, step.2)

/-- A step that fails as graphs do. -/
def World.graphical {α : Type} (step : Except GraphError α × World) :
    Except RouteError α × World :=
  (step.1.mapError RouteError.graph, step.2)

def GraphAction.perform (graph : GraphId) (world : World) {α : Type} :
    GraphAction α → Except RouteError α × World
  | read look => (.ok (look (world.store graph)), world)
  | write change => World.graphical (world.write graph change)
  | cloneVertex source vertex => World.graphical (world.cloneVertex graph source vertex)
  | cloneEdge source edge options => World.graphical (world.cloneEdge graph source edge options)
  | commit handle => World.transactional (world.commit handle)
  | rollback handle message => World.transactional (world.rollback handle message)
  | commitImplicit =>
      World.transactional (world.commitAll (world.manager (.graph graph)).resource)
  | rollbackImplicit =>
      World.transactional (world.abortAll (world.manager (.graph graph)).resource)
  | closeImplicit => World.transactional (world.closeImplicit (.graph graph))
  | configure change => (.ok (), world.configure (.graph graph) change)

/-- The scopes that a thread has open on a graph. -/
def World.context? (world : World) (thread : ThreadId) (graph : GraphId) : Option Context :=
  (world.registry (.graph graph)).snapshot? ⟨thread, .graph graph⟩

/-- A graph, its manager and the scopes that a thread has open on it are left alone. -/
structure World.LeavesAlone (thread : ThreadId) (graph : GraphId) (before after : World) :
    Prop where
  store : after.store graph = before.store graph
  manager : after.manager (.graph graph) = before.manager (.graph graph)
  context? : after.context? thread graph = before.context? thread graph

/-- What a thread does with a graph.  What is done aside leaves the graph alone: it may change
everything else, fail or panic. -/
inductive Body (thread : ThreadId) (graph : GraphId) (χ : Type) : Type → Type 1 where
  | aside {α : Type} (task : Task (Scene χ) α)
      (alone : ∀ scene, World.LeavesAlone thread graph scene.world (task scene).2.world) :
      Body thread graph χ α
  | act {α : Type} (action : GraphAction α) : Body thread graph χ α
  | andThen {α β : Type} (first : Body thread graph χ α) (next : α → Body thread graph χ β) :
      Body thread graph χ β
  | caught {α : Type} (body : Body thread graph χ α) : Body thread graph χ (Outcome α)
  | transaction {α : Type} (nesting : Bool) (body : Handle → Body thread graph χ α) :
      Body thread graph χ α

/-- Whether an event is a commit that reached the store of a graph. -/
def LogEvent.isCommitOf (graph : GraphId) : LogEvent → Bool
  | implicitCommitted other => decide (other = graph)
  | _ => false

namespace World

/-- The number of commits that have reached the store of a graph. -/
def commits (world : World) (graph : GraphId) : Nat := world.log.countP (LogEvent.isCommitOf graph)

/-- The content that was committed last: that of a graph after a step if a commit reached its
store in the step, and what it was before otherwise. -/
def committed (graph : GraphId) (before after : World) (kept : Content) : Content :=
  if after.commits graph = before.commits graph then kept else (after.store graph).content

end World

/-- What pulls a pipe, runs the job and goes on as the loop of a bulk job does is that loop. -/
theorem Bulk.eq_loop {χ : Type} {handle : Handle} {name : Option String} {size : Nat}
    {job : Nat → Item → Task (Scene χ) Unit} (other : Pipe Stores Item → Nat → Task (Scene χ) Nat)
    (unfolded : ∀ pipe count scene, other pipe count scene =
      match pipe.pull scene.world.stores scene.world.toHub with
      | (.item item, next, hub) =>
          ((job count item).andThen fun _ =>
            (commitChunk handle name size (count + 1)).andThen fun _ => other next (count + 1))
            (scene.withHub hub)
      | (.done, _, hub) => (.done count, scene.withHub hub)
      | (.failed error, _, hub) => (.failed error, scene.withHub hub))
    (pipe : Pipe Stores Item) (count : Nat) :
    other pipe count = loop handle name size job pipe count := by
  funext scene
  rw [unfolded, loop_eq]
  -- Only a pull that brings an item goes on, and it lowers the rank of the pipe.
  cases pulled : pipe.pull scene.world.stores scene.world.toHub with
  | mk answer rest =>
      obtain ⟨next, hub⟩ := rest
      cases answer with
      | item item => simp only [eq_loop other unfolded next (count + 1)]
      | done => rfl
      | failed error => rfl
termination_by pipe.rank
decreasing_by exact Pipe.pull_lowers pulled (by simp)

namespace Body

variable {thread : ThreadId} {graph : GraphId} {χ α β : Type}

/-- Run a body as a task. -/
def run : {α : Type} → Body thread graph χ α → Task (Scene χ) α
  | _, aside task _ => task
  | _, act action => Scene.attempt fun world => action.perform graph world
  | _, andThen first next => first.run.andThen fun value => (next value).run
  | _, caught body => Task.caught body.run
  | _, transaction nesting body =>
      transact thread (.graph graph) nesting fun handle => (body handle).run

/-- The content that was committed last when a body ends, from that when it starts. -/
def committed : {α : Type} → Body thread graph χ α → Scene χ → Content → Content
  | _, aside _ _, _, kept => kept
  | _, act action, scene, kept =>
      World.committed graph scene.world (action.perform graph scene.world).2 kept
  | _, andThen first next, scene, kept =>
      match first.run scene with
      | (.done value, later) => (next value).committed later (first.committed scene kept)
      | _ => first.committed scene kept
  | _, caught body, scene, kept => body.committed scene kept
  | _, transaction nesting body, scene, kept =>
      match scene.world.openScope thread (.graph graph) nesting with
      | (.error _, refused) => World.committed graph scene.world refused kept
      | (.ok handle, started) =>
          let opened : Scene χ := { scene with world := started }
          let (outcome, after) := (body handle).run opened
          World.committed graph after.world (after.world.conclude handle outcome).2
            ((body handle).committed opened (World.committed graph scene.world started kept))

/-- A transaction call opens a scope, runs its body, ends the scope as the body ended, and leaves
the scope. -/
theorem run_transaction (nesting : Bool) (body : Handle → Body thread graph χ α)
    (scene : Scene χ) :
    (transaction nesting body).run scene =
      match scene.world.openScope thread (.graph graph) nesting with
      | (.error error, refused) =>
          (.failed (.transaction error),
            { scene with
              world := refused.leave (scene.world.manager (.graph graph)).registry
                (scene.world.key thread (.graph graph)) })
      | (.ok handle, started) =>
          let (outcome, after) := (body handle).run { scene with world := started }
          let (result, concluded) := after.world.conclude handle outcome
          (result,
            { after with
              world := concluded.leave (scene.world.manager (.graph graph)).registry
                (scene.world.key thread (.graph graph)) }) := rfl

/-- End with a value. -/
def value (result : α) : Body thread graph χ α :=
  aside (Task.value result) fun _ => ⟨rfl, rfl, rfl⟩

/-- Fail. -/
def fail (error : RouteError) : Body thread graph χ α :=
  aside (Task.fail error) fun _ => ⟨rfl, rfl, rfl⟩

/-- Add an event to the log. -/
def log (event : LogEvent) : Body thread graph χ Unit :=
  aside (Scene.modify fun world => world.emit event) fun _ => ⟨rfl, rfl, rfl⟩

/-- What a pull brings and what is left of the pipe, which is less if it brings an item. -/
abbrev Pulled (pipe : Pipe Stores Item) : Type :=
  { pulled : Answer Item × Pipe Stores Item //
    ∀ item, pulled.1 = .item item → pulled.2.rank.Lower pipe.rank }

/-- Pull a pipe once. -/
def pull (pipe : Pipe Stores Item) : Body thread graph χ (Pulled pipe) :=
  aside
    (fun scene =>
      let pulled := pipe.pull scene.world.stores scene.world.toHub
      (.done ⟨(pulled.1, pulled.2.1), fun _ brought =>
        Pipe.pull_lowers (Prod.ext brought rfl) (by simp)⟩, scene.withHub pulled.2.2))
    fun _ => ⟨rfl, rfl, rfl⟩

/-- Commit after the last item of a chunk. -/
def commitChunk (handle : Handle) (name : Option String) (size count : Nat) :
    Body thread graph χ Unit :=
  if count % size = 0 then
    (act (.commit handle)).andThen fun _ => log (.chunkCommitted name count)
  else value ()

/-- Run the job for what is left of a pipe. -/
def loop (handle : Handle) (name : Option String) (size : Nat)
    (job : Nat → Item → Body thread graph χ Unit) (pipe : Pipe Stores Item) (count : Nat) :
    Body thread graph χ Nat :=
  (pull pipe).andThen fun pulled =>
    match _brought : pulled.val.1 with
    | .item item =>
        (job count item).andThen fun _ =>
          (commitChunk handle name size (count + 1)).andThen fun _ =>
            loop handle name size job pulled.val.2 (count + 1)
    | .done => value count
    | .failed error => fail error
termination_by pipe.rank
decreasing_by exact pulled.property item _brought

/-- A bulk job on the graph. -/
def bulk (route : Route) (size : Nat) (job : Nat → Item → Body thread graph χ Unit) :
    Body thread graph χ Nat :=
  transaction true fun handle =>
    (loop handle route.name (max size 1) job route.pipe 0).andThen fun count =>
      (log (.bulkFinished route.name count graph)).andThen fun _ => value count

theorem run_commitChunk (handle : Handle) (name : Option String) (size count : Nat) :
    (commitChunk handle name size count : Body thread graph χ Unit).run =
      Bulk.commitChunk handle name size count := by
  unfold commitChunk Bulk.commitChunk
  split
  · funext scene
    simp only [run, log, Task.andThen, Scene.attempt, GraphAction.perform, World.transactional]
    rcases scene.world.commit handle with ⟨_ | _, later⟩ <;> rfl
  · rfl

theorem run_loop (handle : Handle) (name : Option String) (size : Nat)
    (job : Nat → Item → Body thread graph χ Unit) (pipe : Pipe Stores Item) (count : Nat) :
    (loop handle name size job pipe count).run =
      Bulk.loop handle name size (fun number item => (job number item).run) pipe count := by
  refine Bulk.eq_loop (fun pipe count => (loop handle name size job pipe count).run)
    (fun pipe count scene => ?_) pipe count
  rw [loop]
  simp only [run, Task.andThen, pull]
  rcases pipe.pull scene.world.stores scene.world.toHub with ⟨item | _ | error, next, hub⟩
  · simp only [run, run_commitChunk, Task.andThen]
  · rfl
  · rfl

/-- A bulk job is a body: it runs as the job of the route does. -/
theorem run_bulk (route : Route) (size : Nat) (job : Nat → Item → Body thread graph χ Unit) :
    (bulk route size job).run =
      Bulk.run thread route graph size fun number item => (job number item).run := by
  simp only [bulk, Bulk.run, run, run_loop]
  rfl

end Body

end RoutedGraph
