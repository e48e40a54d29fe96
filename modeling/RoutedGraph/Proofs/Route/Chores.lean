import RoutedGraph.Proofs.Route.Copying
import RoutedGraph.Proofs.Store.Pending
import RoutedGraph.Proofs.Transaction.Touch
import RoutedGraph.Proofs.Transaction.Windows

/-!
# Chores

A chore is what a job does for an item: it writes to its target and clones into
it, and what comes next may depend on what the graphs hold, on what failed
before and on a state of its own.  It asks for no boundary.  It may note
anything down, what is pending included, but it never reads its notes.  So what
a chore does is the same before and after a commit.
-/

namespace RoutedGraph

/-- Something done to a graph that is no boundary. -/
inductive Edit : Type → Type 1 where
  | write (change : GraphWrite) : Edit Store.Answer
  | cloneVertex (source : GraphId) (vertex : Vertex) : Edit VertexId
  | cloneEdge (source : GraphId) (edge : Edge) (options : CloneOptions) : Edit (Option EdgeId)

/-- The stores as they look if nobody asks what is pending in one of them. -/
def Stores.seen (target : GraphId) (stores : Stores) (graph : GraphId) : Store :=
  let store := stores.getD graph default
  if graph = target then store.commit else store

def World.seen (world : World) (target : GraphId) : GraphId → Store :=
  Stores.seen target world.stores

/-- What a job does with its target.  `χ` is the state of the job and `ν` what it notes down. -/
inductive Chore (χ ν : Type) : Type → Type 1 where
  | own {α : Type} (task : Task χ α) : Chore χ ν α
  | look {α : Type} (read : (GraphId → Store) → α) : Chore χ ν α
  | note (write : World → ν → ν) : Chore χ ν Unit
  | edit {α : Type} (change : Edit α) : Chore χ ν α
  | andThen {α β : Type} (first : Chore χ ν α) (next : α → Chore χ ν β) : Chore χ ν β
  | caught {α : Type} (chore : Chore χ ν α) : Chore χ ν (Outcome α)

namespace World

variable {first second : World} {target : GraphId}

@[simp]
theorem seen_target (world : World) (target : GraphId) :
    world.seen target target = (world.store target).commit := if_pos rfl

theorem seen_of_ne (world : World) {target graph : GraphId} (different : graph ≠ target) :
    world.seen target graph = world.store graph := if_neg different

theorem seen_congr (own : (first.store target).commit = (second.store target).commit)
    (others : ∀ graph, graph ≠ target → first.store graph = second.store graph) :
    first.seen target = second.seen target := by
  funext graph
  by_cases here : graph = target
  · rw [here, seen_target, seen_target, own]
  · rw [seen_of_ne _ here, seen_of_ne _ here, others graph here]

theorem commit_eq_of_seen (same : first.seen target = second.seen target) :
    (first.store target).commit = (second.store target).commit := by
  simpa using congrFun same target

theorem store_eq_of_seen (same : first.seen target = second.seen target) {graph : GraphId}
    (different : graph ≠ target) : first.store graph = second.store graph := by
  simpa only [seen_of_ne _ different] using congrFun same graph

/-- What is seen after a step on a graph that is blind and leaves all others alone. -/
theorem seen_of_blind {α : Type} {step : Store → α × Store} (blind : Store.Blind step)
    (same : first.seen target = second.seen target) {firstLater secondLater : World}
    (firstStep : firstLater.store target = (step (first.store target)).2)
    (secondStep : secondLater.store target = (step (second.store target)).2)
    (firstOthers : ∀ graph, graph ≠ target → firstLater.store graph = first.store graph)
    (secondOthers : ∀ graph, graph ≠ target → secondLater.store graph = second.store graph) :
    firstLater.seen target = secondLater.seen target := by
  refine seen_congr ?_ fun graph different => ?_
  · rw [firstStep, secondStep]
    exact (blind.same (commit_eq_of_seen same)).2
  · rw [firstOthers graph different, secondOthers graph different,
      store_eq_of_seen same different]

end World

namespace Edit

variable {α : Type} {target : GraphId} {world : World}

def action : {α : Type} → Edit α → GraphAction α
  | _, write change => .write change
  | _, cloneVertex source vertex => .cloneVertex source vertex
  | _, cloneEdge source edge options => .cloneEdge source edge options

def step : {α : Type} → Edit α → GraphStep
  | _, write change => .write change
  | _, cloneVertex source vertex => .cloneVertex source vertex
  | _, cloneEdge source edge options => .cloneEdge source edge options

theorem isBoundary_step (edit : Edit α) : edit.step.isBoundary = false := by
  cases edit <;> rfl

theorem perform_action (edit : Edit α) (target : GraphId) (world : World) :
    (edit.action.perform target world).2 = world.perform target edit.step := by
  cases edit <;> rfl

/-- What an edit does to the store of its target can be taken back. -/
theorem rollsBackTo_perform {kept : Content} (reached : (world.store target).RollsBackTo kept)
    (edit : Edit α) : ((edit.action.perform target world).2.store target).RollsBackTo kept := by
  obtain ⟨changes, advance⟩ :=
    World.advance_perform reached.consistent reached.known edit.step edit.isBoundary_step
  rw [edit.perform_action]
  exact reached.advance advance

theorem sameScopes_perform (edit : Edit α) (target : GraphId) (world : World) :
    World.SameScopes world (edit.action.perform target world).2 := by
  cases edit with
  | write change => exact ⟨⟨rfl, rfl⟩, rfl⟩
  | cloneVertex source vertex => exact world.sameScopes_cloneVertex target source vertex
  | cloneEdge source edge options => exact world.sameScopes_cloneEdge target source edge options

theorem sameWindows_perform (edit : Edit α) (target : GraphId) (world : World) :
    World.SameWindows world (edit.action.perform target world).2 := by
  cases edit with
  | write change => exact world.sameWindows_write target change
  | cloneVertex source vertex => exact world.sameWindows_cloneVertex target source vertex
  | cloneEdge source edge options => exact world.sameWindows_cloneEdge target source edge options

theorem commits_perform (edit : Edit α) (target : GraphId) (world : World) :
    (edit.action.perform target world).2.commits target = world.commits target := by
  cases edit with
  | write change => rfl
  | cloneVertex source vertex => exact world.commits_cloneVertex target source vertex
  | cloneEdge source edge options => exact world.commits_cloneEdge target source edge options

/-- An edit does the same whatever is pending in its target. -/
theorem seen_perform {first second : World} (same : first.seen target = second.seen target)
    (edit : Edit α) :
    (edit.action.perform target first).1 = (edit.action.perform target second).1 ∧
      (edit.action.perform target first).2.seen target =
        (edit.action.perform target second).2.seen target := by
  have own := World.commit_eq_of_seen same
  have others : ∀ world : World, ∀ graph, graph ≠ target →
      (world.perform target edit.step).store graph = world.store graph :=
    fun world graph different => world.store_perform_of_ne (Ne.symm different) edit.step
  simp only [edit.perform_action]
  cases edit with
  | write change =>
      have blind := Store.blind_write change
      refine ⟨congrArg (Except.mapError RouteError.graph) (blind.same own).1, ?_⟩
      exact World.seen_of_blind blind same (first.store_write target change)
        (second.store_write target change) (others first) (others second)
  | cloneVertex source vertex =>
      by_cases foreign : source = target
      · simpa [step, action, World.perform, GraphAction.perform, World.cloneVertex, foreign,
          World.graphical] using same
      · have blind := Store.blind_cloneVertex source vertex
        refine ⟨?_, World.seen_of_blind blind same (first.store_cloneVertex foreign vertex)
          (second.store_cloneVertex foreign vertex) (others first) (others second)⟩
        have answers := (blind.same own).1
        simp only [action, GraphAction.perform, World.graphical, World.cloneVertex, foreign,
          if_false]
        exact congrArg (fun id => Except.mapError RouteError.graph (.ok id)) answers
  | cloneEdge source edge options =>
      by_cases foreign : source = target
      · simpa [step, action, World.perform, GraphAction.perform, World.cloneEdge, foreign,
          World.graphical] using same
      · have blind := Store.blind_cloneEdge source (first.store source) edge options
        have origin := World.store_eq_of_seen same foreign
        refine ⟨?_, World.seen_of_blind blind same (first.store_cloneEdge foreign edge options)
          ?_ (others first) (others second)⟩
        · have answers := (blind.same own).1
          simp only [action, GraphAction.perform, World.graphical, World.cloneEdge, foreign,
            if_false, ← origin]
          exact congrArg (Except.mapError RouteError.graph) answers
        · rw [origin]
          exact second.store_cloneEdge foreign edge options

end Edit

/-- Two scenes that a chore cannot tell apart. -/
structure Scene.Alike {χ ν : Type} (target : GraphId) (first second : Scene (χ × ν)) : Prop where
  seen : first.world.seen target = second.world.seen target
  own : first.rest.1 = second.rest.1

namespace Scene.Alike

variable {χ ν : Type} {target : GraphId} {first second third : Scene (χ × ν)}

theorem symm (alike : Alike target first second) : Alike target second first :=
  ⟨alike.seen.symm, alike.own.symm⟩

theorem trans (alike : Alike target first second) (onward : Alike target second third) :
    Alike target first third :=
  ⟨alike.seen.trans onward.seen, alike.own.trans onward.own⟩

/-- A chore does not see the hub. -/
theorem withHub (alike : Alike target first second) (hub otherHub : Hub Item) :
    Alike target (first.withHub hub) (second.withHub otherHub) :=
  ⟨alike.seen, alike.own⟩

end Scene.Alike

namespace Chore

variable {χ ν α : Type} {target : GraphId} {thread : ThreadId}

/-- Run a task on the state of the job. -/
def onOwn (task : Task χ α) : Task (Scene (χ × ν)) α := fun scene =>
  let (outcome, later) := task scene.rest.1
  (outcome, ⟨scene.world, (later, scene.rest.2)⟩)

/-- Look at the stores. -/
def seeing (target : GraphId) (read : (GraphId → Store) → α) : Task (Scene (χ × ν)) α :=
  fun scene => (.done (read (scene.world.seen target)), scene)

/-- Note something down. -/
def noting (write : World → ν → ν) : Task (Scene (χ × ν)) Unit := fun scene =>
  (.done (), ⟨scene.world, (scene.rest.1, write scene.world scene.rest.2)⟩)

def run (target : GraphId) : {α : Type} → Chore χ ν α → Task (Scene (χ × ν)) α
  | _, own task => onOwn task
  | _, look read => seeing target read
  | _, note write => noting write
  | _, edit change => Scene.attempt fun world => change.action.perform target world
  | _, andThen first next => (first.run target).andThen fun value => (next value).run target
  | _, caught chore => Task.caught (chore.run target)

/-- A chore does the same in scenes that it cannot tell apart. -/
theorem alike_run (chore : Chore χ ν α) {first second : Scene (χ × ν)}
    (alike : Scene.Alike target first second) :
    (chore.run target first).1 = (chore.run target second).1 ∧
      Scene.Alike target (chore.run target first).2 (chore.run target second).2 := by
  induction chore generalizing first second with
  | own task =>
      simp only [run, onOwn, alike.own]
      exact ⟨trivial, alike.seen, rfl⟩
  | look read =>
      simp only [run, seeing, alike.seen]
      exact ⟨trivial, alike⟩
  | note write => exact ⟨rfl, alike.seen, alike.own⟩
  | edit change =>
      obtain ⟨answers, seen⟩ := change.seen_perform alike.seen
      exact ⟨congrArg Outcome.ofExcept answers, seen, alike.own⟩
  | andThen head next headAlike nextAlike =>
      obtain ⟨sameOutcome, stillAlike⟩ := headAlike alike
      simp only [run, Task.andThen]
      generalize head.run target first = one at sameOutcome stillAlike ⊢
      generalize head.run target second = other at sameOutcome stillAlike ⊢
      obtain ⟨outcome, later⟩ := one
      obtain ⟨_, otherLater⟩ := other
      obtain rfl := sameOutcome
      cases outcome with
      | done value => exact nextAlike value stillAlike
      | failed error => exact ⟨rfl, stillAlike⟩
      | panicked message => exact ⟨rfl, stillAlike⟩
  | caught chore holds =>
      obtain ⟨sameOutcome, stillAlike⟩ := holds alike
      exact ⟨congrArg Outcome.done sameOutcome, stillAlike⟩

/-- What every edit keeps of the world, a chore keeps. -/
theorem keeps_run (Kept : World → World → Prop) (refl : ∀ world, Kept world world)
    (trans : ∀ {first second third}, Kept first second → Kept second third → Kept first third)
    (edits : ∀ {β : Type} (edit : Edit β) (world : World),
      Kept world (edit.action.perform target world).2)
    (chore : Chore χ ν α) (scene : Scene (χ × ν)) :
    Kept scene.world (chore.run target scene).2.world := by
  induction chore generalizing scene with
  | own task => exact refl _
  | look read => exact refl _
  | note write => exact refl _
  | edit change => exact edits change scene.world
  | andThen head next headKeeps nextKeeps =>
      have kept := headKeeps scene
      simp only [run, Task.andThen]
      generalize head.run target scene = ended at kept ⊢
      obtain ⟨outcome, later⟩ := ended
      cases outcome with
      | done value => exact trans kept (nextKeeps value later)
      | failed error => exact kept
      | panicked message => exact kept
  | caught chore keeps => exact keeps scene

theorem sameScopes_run (chore : Chore χ ν α) (scene : Scene (χ × ν)) :
    World.SameScopes scene.world (chore.run target scene).2.world :=
  chore.keeps_run World.SameScopes World.SameScopes.refl World.SameScopes.trans
    (fun edit => edit.sameScopes_perform target) scene

theorem sameWindows_run (chore : Chore χ ν α) (scene : Scene (χ × ν)) :
    World.SameWindows scene.world (chore.run target scene).2.world :=
  chore.keeps_run World.SameWindows World.SameWindows.refl World.SameWindows.trans
    (fun edit => edit.sameWindows_perform target) scene

/-- What a chore does to the store of its target can be taken back. -/
theorem rollsBackTo_run (chore : Chore χ ν α) {scene : Scene (χ × ν)} {kept : Content}
    (reached : (scene.world.store target).RollsBackTo kept) :
    ((chore.run target scene).2.world.store target).RollsBackTo kept :=
  chore.keeps_run
    (fun before after =>
      (before.store target).RollsBackTo kept → (after.store target).RollsBackTo kept)
    (fun _ => id) (fun first second => second ∘ first)
    (fun edit _ before => edit.rollsBackTo_perform before) scene reached

/-- A chore as a part of a body. -/
def body : {α : Type} → Chore χ ν α → Body thread target (χ × ν) α
  | _, own task => .aside (onOwn task) fun _ => ⟨rfl, rfl, rfl⟩
  | _, look read => .aside (seeing target read) fun _ => ⟨rfl, rfl, rfl⟩
  | _, note write => .aside (noting write) fun _ => ⟨rfl, rfl, rfl⟩
  | _, edit change => .act change.action
  | _, andThen first next => first.body.andThen fun value => (next value).body
  | _, caught chore => .caught chore.body

theorem run_body (chore : Chore χ ν α) :
    (chore.body : Body thread target (χ × ν) α).run = chore.run target := by
  induction chore with
  | own task => rfl
  | look read => rfl
  | note write => rfl
  | edit change => rfl
  | andThen first next firstSame nextSame => simp only [body, Body.run, run, firstSame, nextSame]
  | caught chore same => simp only [body, Body.run, run, same]

/-- A chore commits nothing. -/
theorem committed_body (chore : Chore χ ν α) (scene : Scene (χ × ν)) (kept : Content) :
    (chore.body : Body thread target (χ × ν) α).committed scene kept = kept := by
  induction chore generalizing scene with
  | own task => rfl
  | look read => rfl
  | note write => rfl
  | edit change => exact if_pos (change.commits_perform target scene.world)
  | andThen first next firstKeeps nextKeeps =>
      simp only [body, Body.committed, firstKeeps]
      split
      · exact nextKeeps _ _
      · rfl
  | caught chore keeps => exact keeps scene

end Chore

end RoutedGraph
