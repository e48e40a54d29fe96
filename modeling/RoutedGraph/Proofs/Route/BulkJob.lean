import RoutedGraph.Proofs.Transaction.BoundaryCalls
import RoutedGraph.Proofs.Transaction.Liveness
import RoutedGraph.Proofs.Transaction.Programs
import RoutedGraph.Route.Subgraph

/-!
# Bulk jobs

A bulk job takes the elements of its route one after the other, within a scope
of its own on its target.  As the scope may be an inner one, it is never
refused, and as long as it is open its commits succeed.  What the job carries
from one element to the next and keeps over commits, it carries through to the
end, however often it commits.
-/

namespace RoutedGraph

namespace World

variable {world before after : World} {graph : GraphId} {thread : ThreadId} {handle : Handle}

/-- Of all stores only that of one graph may have changed, and only by a commit. -/
structure UpToCommit (graph : GraphId) (before after : World) : Prop where
  others : ∀ other, other ≠ graph → after.store other = before.store other
  own : after.store graph = before.store graph ∨ after.store graph = (before.store graph).commit

theorem upToCommit_of_stores (stores : after.stores = before.stores) :
    UpToCommit graph before after := by
  have same : ∀ other, after.store other = before.store other := by
    intro other
    simp only [World.store, stores]
  exact ⟨fun other _ => same other, Or.inl (same graph)⟩

theorem UpToCommit.congr {first last : World} (changed : UpToCommit graph before after)
    (earlier : before.stores = first.stores) (later : last.stores = after.stores) :
    UpToCommit graph first last := by
  obtain ⟨others, own⟩ := changed
  refine ⟨fun other different => ?_, ?_⟩
  · simpa only [World.store, earlier, later] using others other different
  · simpa only [World.store, earlier, later] using own

theorem upToCommit_commitAll (world : World) (graph : GraphId) :
    UpToCommit graph world (world.commitAll (.graph graph)).2 :=
  ⟨fun _ different => world.store_commitAll_of_ne (Ne.symm different),
    Or.inr (world.store_commitAll graph)⟩

/-- A live handle on a graph commits, and the outermost one reaches the store. -/
theorem commit_live (live : world.isLive handle = true)
    (resource : handle.key.resource = .graph graph) :
    (world.commit handle).1 = .ok () ∧ UpToCommit graph world (world.commit handle).2 ∧
      (handle.strategy = .base →
        (world.commit handle).2.store graph = (world.store graph).commit) := by
  simp only [commit, live, if_true, commitLive]
  cases handle.strategy with
  | base =>
      simp only [resource]
      exact ⟨rfl, (world.upToCommit_commitAll graph).congr rfl rfl,
        fun _ => world.store_commitAll graph⟩
  | _ => exact ⟨rfl, upToCommit_of_stores rfl, by simp⟩

/-- A scope that is live on a graph and whose body is done ends as its body, with a commit. -/
theorem conclude_live (live : world.isLive handle = true)
    (resource : handle.key.resource = .graph graph) {α : Type} (value : α) :
    (world.conclude handle (.done value)).1 = .done value ∧
      UpToCommit graph world (world.conclude handle (.done value)).2 ∧
      (handle.strategy = .base →
        (world.conclude handle (.done value)).2.store graph = (world.store graph).commit) := by
  have committing := commit_live live resource
  simp only [conclude]
  generalize world.commit handle = committed at committing ⊢
  obtain ⟨result, after⟩ := committed
  obtain ⟨rfl, changed⟩ := committing
  exact ⟨rfl, changed⟩

/-- With nothing pending, closing what is pending in a graph is at most a commit. -/
theorem closeImplicit_settled (resource : (world.manager (.graph graph)).resource = .graph graph)
    (transactional : (world.store graph).isTransactional = true)
    (settled : (world.store graph).hasPendingChanges = false) :
    (world.closeImplicit (.graph graph)).1 = .ok () ∧
      UpToCommit graph world (world.closeImplicit (.graph graph)).2 := by
  refine ⟨closeImplicit_ok resource transactional, ?_⟩
  unfold closeImplicit
  simp only [resource]
  split
  · exact world.upToCommit_commitAll graph
  · refine ⟨fun _ different => world.store_abortAll_of_ne (Ne.symm different), Or.inl ?_⟩
    rw [store_abortAll, Store.abort_eq_self settled]
  · exact upToCommit_of_stores rfl

theorem exists_select (native : Bool) (depth : Nat) :
    ∃ strategy, Strategy.select native depth true = .ok strategy := by
  cases native <;> cases depth <;> exact ⟨_, rfl⟩

/-- A scope on a graph that may be an inner one is granted, unless it would have to close pending
changes. -/
theorem openScope_nesting (resource : (world.manager (.graph graph)).resource = .graph graph)
    (settled : world.isNative (.graph graph) = true → world.depth thread (.graph graph) = 0 →
      (world.store graph).hasPendingChanges = false) :
    ∃ handle started, world.openScope thread (.graph graph) true = (.ok handle, started) ∧
      UpToCommit graph world started := by
  obtain ⟨strategy, selected⟩ :=
    exists_select (world.isNative (.graph graph)) (world.depth thread (.graph graph))
  obtain ⟨-, stores, -, managers⟩ := world.minted_same thread (.graph graph)
  have closed : ((world.minted thread (.graph graph)).2.closeFor (.graph graph) strategy).1 =
        .ok () ∧
      UpToCommit graph world
        ((world.minted thread (.graph graph)).2.closeFor (.graph graph) strategy).2 := by
    cases strategy with
    | base =>
        obtain ⟨native, outermost⟩ := (select_base_iff selected).mp rfl
        have transactional : (world.store graph).isTransactional = true := by
          simp only [isNative, resource, takesPart, Bool.and_eq_true] at native
          exact native.2
        have ready := settled native outermost
        simp only [closeFor, Strategy.isReal, if_true]
        generalize (world.minted thread (.graph graph)).2 = entered at stores managers ⊢
        have store : entered.store graph = world.store graph := by
          simp only [World.store, stores]
        have closing : (entered.closeImplicit (.graph graph)).1 = .ok () ∧
            UpToCommit graph entered (entered.closeImplicit (.graph graph)).2 :=
          closeImplicit_settled (by simpa only [World.manager, managers] using resource)
            (by rw [store, transactional]) (by rw [store, ready])
        exact ⟨closing.1, closing.2.congr stores rfl⟩
    | _ => exact ⟨rfl, upToCommit_of_stores stores⟩
  rw [openScope_eq, selected]
  simp only [closed.1]
  exact ⟨_, _, rfl, closed.2.congr rfl rfl⟩

end World

namespace Bulk

variable {χ ι : Type} {target : GraphId} {handle : Handle}
  {job : Nat → Item → Task (Scene χ) Unit} {read : ι → Stores → Except RouteError Item}
  {elements : List ι} {holds : List ι → Scene χ → Prop} {fails : ι → RouteError → Prop}

/-- What a job carries from one element to the next: with every element it goes on holding, for
the elements so far, or the job fails as it may fail for the element.  Commits keep it. -/
structure Carries (target : GraphId) (job : Nat → Item → Task (Scene χ) Unit)
    (read : ι → Stores → Except RouteError Item) (elements : List ι)
    (holds : List ι → Scene χ → Prop) (fails : ι → RouteError → Prop) : Prop where
  step : ∀ {sofar element scene}, element ∈ elements → holds sofar scene → ∀ count,
    ∃ item, read element scene.world.stores = .ok item ∧
      World.SameScopes scene.world (job count item scene).2.world ∧
      (((job count item scene).1 = .done () ∧
          holds (sofar ++ [element]) (job count item scene).2) ∨
        ∃ error, (job count item scene).1 = .failed error ∧ fails element error)
  kept : ∀ {sofar scene after}, holds sofar scene → World.UpToCommit target scene.world after →
    holds sofar { scene with world := after }

theorem commitChunk_live (name : Option String) (size : Nat) {scene : Scene χ}
    (live : scene.world.isLive handle = true) (resource : handle.key.resource = .graph target)
    (count : Nat) :
    ∃ after, commitChunk handle name size count scene = (.done (), { scene with world := after }) ∧
      World.SameScopes scene.world after ∧ World.UpToCommit target scene.world after := by
  unfold commitChunk
  split
  · obtain ⟨succeeded, changed, -⟩ := World.commit_live live resource
    have same := scene.world.sameScopes_commit handle
    simp only [Scene.attempt]
    generalize scene.world.commit handle = committing at succeeded changed same ⊢
    obtain ⟨result, committed⟩ := committing
    obtain rfl : result = .ok () := succeeded
    exact ⟨_, rfl, same.trans (committed.sameScopes_emit _), changed.congr rfl rfl⟩
  · exact ⟨scene.world, rfl, World.SameScopes.refl _, World.upToCommit_of_stores rfl⟩

/-- The loop goes through all elements and ends with what its job carries, or it fails as the job
fails for one of them. -/
theorem loop_source (name : Option String) (size : Nat)
    (carries : Carries target job read elements holds fails)
    (resource : handle.key.resource = .graph target)
    {sofar rest : List ι} (all : elements = sofar ++ rest) {scene : Scene χ}
    (live : scene.world.isLive handle = true) (start : holds sofar scene) (count : Nat) :
    ∃ outcome after, loop handle name size job (.source (rest.map read)) count scene =
        (outcome, after) ∧ World.SameScopes scene.world after.world ∧
      ((outcome = .done (count + rest.length) ∧ holds elements after) ∨
        ∃ element ∈ elements, ∃ error, outcome = .failed error ∧ fails element error) := by
  -- The scope stays open because no step changes a context.
  induction rest generalizing sofar scene count with
  | nil =>
      rw [List.append_nil] at all
      refine ⟨.done count, scene, ?_, World.SameScopes.refl _, Or.inl ⟨rfl, all ▸ start⟩⟩
      rw [loop_eq, Pipe.pull_eq]
      rfl
  | cons element rest ih =>
      have member : element ∈ elements := by simp [all]
      obtain ⟨item, reading, jobSame, ended⟩ := carries.step member start count
      have pulled : loop handle name size job (.source ((element :: rest).map read)) count scene =
          ((job count item).andThen fun _ =>
            (commitChunk handle name size (count + 1)).andThen fun _ =>
              loop handle name size job (.source (rest.map read)) (count + 1)) scene := by
        rw [loop_eq, Pipe.pull_eq]
        simp only [List.map_cons, Pipe.step, reading, Motion.ofExcept]
        rfl
      rw [pulled]
      simp only [Task.andThen]
      generalize job count item scene = worked at jobSame ended ⊢
      obtain ⟨outcome, after⟩ := worked
      rcases ended with ⟨rfl, held⟩ | ⟨error, rfl, failure⟩
      · have stillLive : after.world.isLive handle = true := by
          rw [jobSame.isLive, live]
        obtain ⟨committed, chunk, chunkSame, changed⟩ :=
          commitChunk_live name size stillLive resource (count + 1)
        have committedLive : committed.isLive handle = true := by
          rw [chunkSame.isLive, stillLive]
        obtain ⟨final, last, looped, loopSame, result⟩ :=
          ih (by rw [all]; simp) committedLive (carries.kept held changed) (count + 1)
        refine ⟨final, last, ?_, (jobSame.trans chunkSame).trans loopSame, ?_⟩
        · simp only [chunk, looped]
        · rw [List.length_cons, show count + (rest.length + 1) = count + 1 + rest.length by omega]
          exact result
      · exact ⟨_, after, rfl, jobSame, Or.inr ⟨element, member, error, rfl, failure⟩⟩

/-- What is run within the scope of a bulk job. -/
def body (route : Route) (target : GraphId) (size : Nat) (job : Nat → Item → Task (Scene χ) Unit)
    (handle : Handle) : Task (Scene χ) Nat :=
  (loop handle route.name (max size 1) job route.pipe 0).andThen fun count =>
    (Scene.modify fun world => world.emit (.bulkFinished route.name count target)).andThen
      fun _ => Task.value count

/-- A bulk job as a program of one transaction. -/
def program (route : Route) (target : GraphId) (size : Nat)
    (job : Nat → Item → Task (Scene χ) Unit) : Program χ Nat :=
  .transaction (.graph target) true fun handle => .aside (body route target size job handle)

theorem run_program (thread : ThreadId) (route : Route) (target : GraphId) (size : Nat)
    (job : Nat → Item → Task (Scene χ) Unit) :
    (program route target size job).run thread = run thread route target size job := rfl

theorem body_source (carries : Carries target job read elements holds fails)
    (resource : handle.key.resource = .graph target) {route : Route}
    (readings : route.pipe = .source (elements.map read)) (size : Nat) {scene : Scene χ}
    (live : scene.world.isLive handle = true) (start : holds [] scene) :
    ∃ outcome after, body route target size job handle scene = (outcome, after) ∧
      World.SameScopes scene.world after.world ∧
      ((outcome = .done elements.length ∧ holds elements after) ∨
        ∃ element ∈ elements, ∃ error, outcome = .failed error ∧ fails element error) := by
  obtain ⟨outcome, after, looped, same, ended⟩ :=
    loop_source route.name (max size 1) carries resource rfl live start 0
  rw [← readings, Nat.zero_add] at *
  simp only [body, Task.andThen, looped]
  rcases ended with ⟨rfl, held⟩ | ⟨element, member, error, rfl, failure⟩
  · exact ⟨_, _, rfl, same.trans (World.sameScopes_emit _ _),
      Or.inl ⟨rfl, carries.kept held (World.upToCommit_of_stores rfl)⟩⟩
  · exact ⟨_, _, rfl, same, Or.inr ⟨element, member, error, rfl, failure⟩⟩

section Granted

variable {traffic : Traffic} {thread : ThreadId} {route : Route} {started : World} {rest : χ}
  {outcome : Outcome Nat} {after : Scene χ}

/-- A bulk job whose scope is granted ends as the scope does, and no context and no manager is
changed. -/
theorem run_granted (sound : traffic.Sound)
    (opened : traffic.world.openScope thread (.graph target) true = (.ok handle, started))
    (ran : body route target size job handle ⟨started, rest⟩ = (outcome, after))
    (same : World.SameScopes started after.world) :
    ∃ final, run thread route target size job ⟨traffic.world, rest⟩ =
        ((after.world.conclude handle outcome).1, ⟨final, after.rest⟩) ∧
      final.stores = (after.world.conclude handle outcome).2.stores ∧
      traffic.world.Quiet final ∧ final.managers = traffic.world.managers := by
  have bound := World.bound_openScope opened
  have concluded := same.trans (after.world.sameScopes_conclude handle outcome)
  have transacted := Program.run_transaction thread (.graph target) true
    (fun handle => .aside (body route target size job handle)) ⟨traffic.world, rest⟩
  simp only [opened, Program.run, ran] at transacted
  have events : (program route target size job).events thread ⟨traffic.world, rest⟩ =
      [.call thread (.graph target) true, .aside after.world, .finish thread outcome.ending] := by
    simp only [program, Program.events, Program.run, opened, ran, List.singleton_append]
  have called : traffic.step (.call thread (.graph target) true) =
      ⟨started, handle :: traffic.running, handle :: traffic.issued⟩ := by
    simp only [Traffic.step, Traffic.call, opened]
  have contexts := Program.contextAt?_run sound thread (program route target size job) rest (by
    rw [events]
    simp only [Traffic.Lawful, called]
    simpa using Traffic.quiet_of_sameScopes same)
  rw [← run_program]
  refine ⟨_, transacted, rfl, ⟨?_, ?_⟩, ?_⟩
  · intro registry key
    rw [← contexts registry key]
    exact congrArg (fun ended => World.contextAt? ended.2.world registry key) transacted.symm
  · have numbered := concluded.nextScope.trans bound.nextScope
    exact Nat.le_of_lt (Nat.lt_of_lt_of_eq (Nat.lt_succ_self _) numbered.symm)
  · exact concluded.managers.trans bound.managers

end Granted

/-- What a bulk job on a graph leaves of the world: no context and no manager is changed, and an
outermost scope has committed. -/
structure Leaves (thread : ThreadId) (target : GraphId) (before after : World) : Prop where
  quiet : before.Quiet after
  managers : after.managers = before.managers
  settled : before.isNative (.graph target) = true → before.depth thread (.graph target) = 0 →
    (after.store target).hasPendingChanges = false

namespace Leaves

variable {thread : ThreadId} {before after : World}

theorem manager (leaves : Leaves thread target before after) (id : ManagerId) :
    after.manager id = before.manager id := by
  simp only [World.manager, leaves.managers]

/-- After a bulk job on a graph, a scope on it would be as deep as before. -/
theorem depth (leaves : Leaves thread target before after) :
    after.depth thread (.graph target) = before.depth thread (.graph target) := by
  simp only [World.depth_eq, World.enclosing, World.registryId, World.key, leaves.manager,
    leaves.quiet.contexts]

/-- After a bulk job on a graph, the next one has nothing to close. -/
theorem ready (leaves : Leaves thread target before after)
    (same : (after.store target).isTransactional = (before.store target).isTransactional)
    (resource : (before.manager (.graph target)).resource = .graph target)
    (native : after.isNative (.graph target) = true)
    (outermost : after.depth thread (.graph target) = 0) :
    (after.store target).hasPendingChanges = false := by
  refine leaves.settled ?_ (leaves.depth ▸ outermost)
  simpa only [World.isNative, leaves.manager, resource, World.takesPart, same] using native

end Leaves

/-- A bulk job with nothing pending goes through all elements and ends with what its job carries,
or it fails as the job fails for one of them. -/
theorem run_source {traffic : Traffic} (sound : traffic.Sound) (thread : ThreadId)
    (resource : (traffic.world.manager (.graph target)).resource = .graph target)
    (settled : traffic.world.isNative (.graph target) = true →
      traffic.world.depth thread (.graph target) = 0 →
      (traffic.world.store target).hasPendingChanges = false)
    (carries : Carries target job read elements holds fails) {route : Route}
    (readings : route.pipe = .source (elements.map read)) (size : Nat) (rest : χ)
    (start : holds [] ⟨traffic.world, rest⟩) :
    ∃ outcome after, run thread route target size job ⟨traffic.world, rest⟩ = (outcome, after) ∧
      ((outcome = .done elements.length ∧ holds elements after ∧
          Leaves thread target traffic.world after.world) ∨
        ∃ element ∈ elements, ∃ error, outcome = .failed error ∧ fails element error) := by
  obtain ⟨handle, started, opened, openedStore⟩ := World.openScope_nesting resource settled
  have bound := World.bound_openScope opened
  have live : started.isLive handle = true :=
    ((sound.started bound).isLive_iff List.mem_cons_self).mpr List.mem_cons_self
  have keyResource : handle.key.resource = .graph target := by
    rw [bound.key]
    exact resource
  have held : holds [] { world := started, rest := rest } := carries.kept start openedStore
  obtain ⟨outcome, after, ran, same, ended⟩ :=
    body_source carries keyResource readings size live held
  obtain ⟨final, transacted, stores, quiet, managers⟩ := run_granted sound opened ran same
  refine ⟨_, _, transacted, ?_⟩
  rcases ended with ⟨rfl, done⟩ | ⟨element, member, error, rfl, failure⟩
  · have afterLive : after.world.isLive handle = true := by rw [same.isLive, live]
    obtain ⟨concluded, changed, outermost⟩ :=
      World.conclude_live afterLive keyResource elements.length
    refine Or.inl ⟨concluded, carries.kept done (changed.congr rfl stores), quiet, managers, ?_⟩
    intro native depth
    have base := (World.select_base_iff bound.strategy).mpr ⟨native, depth⟩
    have store : final.store target = (after.world.store target).commit := by
      rw [← outermost base]
      simp only [World.store, stores]
    rw [store]
    exact Store.hasPendingChanges_commit _
  · exact Or.inr ⟨element, member, error, rfl, failure⟩

end Bulk

end RoutedGraph
