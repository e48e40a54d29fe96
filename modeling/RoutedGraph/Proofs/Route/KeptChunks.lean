import RoutedGraph.Proofs.Route.Chunks
import RoutedGraph.Proofs.Transaction.InnerCommits
import RoutedGraph.Proofs.World.Reached

/-!
# What a bulk job keeps

On a graph with nothing pending and no transaction, a bulk job keeps the work
on all items if it comes to the end of its route, and the work on the whole
chunks if it fails.  Within a transaction it keeps nothing by itself: what its
chunks commit waits for the outermost call, and goes with it.
-/

namespace RoutedGraph

/-- The failure that an outcome reports. -/
def Outcome.error? {α : Type} : Outcome α → Option RouteError
  | failed error => some error
  | _ => none

theorem Outcome.error?_eq_some_iff {α : Type} {outcome : Outcome α} {error : RouteError} :
    outcome.error? = some error ↔ outcome = .failed error := by
  cases outcome <;> simp [error?]

namespace Bulk

variable {χ ν : Type} {thread : ThreadId} {target : GraphId} {world : World} {handle : Handle}
  {size : Nat} {job : Nat → Item → Chore χ ν Unit} {start : Scene (χ × ν)} {items : List Item}
  {ending : Ending} {after : Scene (χ × ν)}

/-- A graph with transactions, of which none has been started on the thread, and in which nothing
is pending. -/
structure Ready (thread : ThreadId) (target : GraphId) (world : World) : Prop where
  resource : (world.manager (.graph target)).resource = .graph target
  registry : (world.manager (.graph target)).registry = .graph target
  enabled : (world.manager (.graph target)).config.disabled = false
  outermost : world.context? thread target = none
  reached : (world.store target).Reached
  transactional : (world.store target).isTransactional = true
  settled : (world.store target).hasPendingChanges = false

namespace Ready

theorem inOrder (ready : Ready thread target world) : World.InOrder thread target world := by
  refine ⟨ready.resource, ready.registry, fun context found => ?_⟩
  rw [ready.outermost] at found
  cases found

/-- With nothing pending, a store goes back to what it holds. -/
theorem rollsBackTo (ready : Ready thread target world) :
    (world.store target).RollsBackTo (world.store target).content := by
  rcases ready.reached.rollsBackTo with ⟨content, recoverable⟩ | unlogged
  · have same := recoverable.content_abort
    rw [Store.abort_eq_self ready.settled] at same
    rwa [same]
  · have transactional := ready.transactional
    simp [Store.isTransactional, unlogged.undo] at transactional

/-- The outermost scope is granted whether it may be an inner one or not. -/
theorem openScope (ready : Ready thread target world) (nesting : Bool) :
    ∃ handle started, world.openScope thread (.graph target) nesting = (.ok handle, started) ∧
      handle.strategy = .base ∧ World.Opened thread target world started handle ∧
      World.UpToCommit target world started ∧
      (started.store target).RollsBackTo (world.store target).content := by
  have alike : world.openScope thread (.graph target) nesting =
      world.openScope thread (.graph target) true := by
    have native : world.isNative (.graph target) = true := by
      simp [World.isNative, ready.enabled, ready.resource, World.takesPart, ready.transactional]
    have outermost : world.depth thread (.graph target) = 0 := by
      rw [World.depth_eq, ready.inOrder.enclosing, ready.outermost]
      rfl
    rw [World.openScope_eq, World.openScope_eq, native, outermost]
    rfl
  obtain ⟨handle, started, opened, base⟩ := World.openScope_outermost ready.inOrder
    ready.transactional ready.outermost ready.enabled true
  obtain ⟨_, _, again, changed⟩ := World.openScope_nesting ready.resource
    fun (_ : world.isNative (.graph target) = true)
      (_ : world.depth thread (.graph target) = 0) => ready.settled
  obtain ⟨same, rfl⟩ := Prod.mk.inj (opened.symm.trans again)
  obtain rfl := Except.ok.inj same
  have opening := World.opening_openScope ready.inOrder ready.rollsBackTo true
  rw [opened] at opening
  cases opening with
  | granted _ _ facts =>
      refine ⟨handle, started, alike.trans opened, base, facts, changed, ?_⟩
      rcases changed.own with kept | committed
      · rw [kept]
        exact ready.rollsBackTo
      · rw [committed]
        exact ready.rollsBackTo.commit

end Ready

/-- The items whose work a bulk job keeps. -/
def Ending.kept (size : Nat) (items : List Item) : Ending → List Item
  | exhausted => items
  | _ => wholeChunks size items

theorem Ended.emit (ended : Ended target handle size job start items ending after)
    (event : LogEvent) :
    Ended target handle size job start items ending
      { after with world := after.world.emit event } :=
  ⟨ended.live, ended.reached, ended.plain, ended.tried, ended.content⟩

/-- Concluding the scope of a bulk job leaves nothing pending and keeps the work on the items that
the ending says. -/
theorem Ended.conclude (ended : Ended target handle size job start items ending after)
    (base : handle.strategy = .base) (resource : handle.key.resource = .graph target) :
    let concluded := after.world.conclude handle (ending.outcome items.length)
    concluded.1 = ending.outcome items.length ∧
      (concluded.2.store target).hasPendingChanges = false ∧
      (concluded.2.store target).content =
        contentAfter target (taskOf target job) start (ending.kept size items) := by
  intro concluded
  obtain ⟨outcome, store⟩ := World.conclude_base ended.reached.isTransactional ended.live base
    resource (ending.outcome items.length)
  have aborted : (after.world.store target).abort.hasPendingChanges = false ∧
      (after.world.store target).abort.content =
        contentAfter target (taskOf target job) start (wholeChunks size items) :=
    ⟨by simpa using ended.reached.atBoundary_abort.settled.not_pending,
      ended.reached.content_abort⟩
  refine ⟨outcome, ?_⟩
  rw [store]
  cases ending with
  | exhausted =>
      exact ⟨Store.hasPendingChanges_commit _,
        (Store.content_commit _).trans (ended.content rfl)⟩
  | _ => exact aborted

/-- A bulk job on a graph that is ready takes a course and keeps the work that its ending says.  If
the route sees nothing of what is pending, it is the course that the job takes by itself. -/
theorem run_course (ready : Ready thread target world) (rest : χ × ν) (route : Route) (size : Nat)
    (job : Nat → Item → Chore χ ν Unit) :
    let start : Scene (χ × ν) := ⟨world, rest⟩
    let ended := run thread route target size (taskOf target job) start
    ∃ handle started items ending,
      world.openScope thread (.graph target) true = (.ok handle, started) ∧
      Course (commitChunk handle route.name (max size 1)) (taskOf target job) route.pipe 0
        ⟨started, rest⟩ items ending ∧
      (route.pipe.Sees (Stores.seen target) →
        Course uncounted (taskOf target job) route.pipe 0 start items ending) ∧
      (each (taskOf target job) 0 items start).1 = .done () ∧
      (each (taskOf target job) 0 (items ++ ending.tried) start).1 = ending.ofJob ∧
      ended.1 = ending.outcome items.length ∧
      (ended.2.world.store target).hasPendingChanges = false ∧
      (ended.2.world.store target).content =
        contentAfter target (taskOf target job) start (ending.kept (max size 1) items) := by
  intro start ended
  obtain ⟨handle, started, opened, base, facts, changed, reached⟩ := ready.openScope true
  have resource : handle.key.resource = .graph target := by rw [facts.key]
  have alike : Scene.Alike target start ⟨started, rest⟩ := alike_upToCommit changed rfl
  have stage : Stage target handle (max size 1) job start [] ⟨started, rest⟩ := by
    refine ⟨facts.isLive rfl, rfl, alike, ?_⟩
    rw [wholeChunks, List.take_nil]
    exact reached
  obtain ⟨items, ending, after, course, looped, left⟩ :=
    loop_course base resource route.name route.pipe [] ⟨started, rest⟩ stage
  rw [List.length_nil, List.nil_append] at *
  have alone : route.pipe.Sees (Stores.seen target) →
      Course uncounted (taskOf target job) route.pipe 0 start items ending := by
    intro sees
    have windows := world.sameWindows_openScope thread (.graph target) true
    rw [opened] at windows
    exact course.alone resource sees alike.symm (windows.agree _).symm
  obtain ⟨last, ran, conclusion⟩ : ∃ last,
      body route target size (taskOf target job) handle ⟨started, rest⟩ =
        (ending.outcome items.length, last) ∧
      Ended target handle (max size 1) job start items ending last := by
    simp only [body, Task.andThen, looped]
    cases ending with
    | exhausted => exact ⟨_, rfl, left.emit _⟩
    | _ => exact ⟨_, rfl, left⟩
  have transacted : ended = _ := Program.run_transaction thread (.graph target) true
    (fun handle => .aside (body route target size (taskOf target job) handle)) start
  simp only [start, opened, Program.run, ran] at transacted
  obtain ⟨outcome, settled, content⟩ := conclusion.conclude base resource
  refine ⟨handle, started, items, ending, opened, course, alone, left.plain, left.tried, ?_⟩
  rw [transacted]
  exact ⟨outcome, settled, content⟩

/-- If the route sees nothing of what is pending, bulk jobs in chunks of different sizes end in the
same way, and they leave the same content behind unless they fail. -/
theorem run_same_of_sees (ready : Ready thread target world) (rest : χ × ν) {route : Route}
    (sees : route.pipe.Sees (Stores.seen target)) (job : Nat → Item → Chore χ ν Unit)
    (size other : Nat) :
    let ended := run thread route target size (taskOf target job) ⟨world, rest⟩
    let otherEnded := run thread route target other (taskOf target job) ⟨world, rest⟩
    otherEnded.1 = ended.1 ∧ ∀ count, ended.1 = .done count →
      (otherEnded.2.world.store target).content = (ended.2.world.store target).content := by
  intro ended otherEnded
  obtain ⟨_, _, items, ending, -, -, alone, -, -, outcome, -, content⟩ :=
    run_course ready rest route size job
  obtain ⟨_, _, otherItems, otherEnding, -, -, otherAlone, -, -, otherOutcome, -, otherContent⟩ :=
    run_course ready rest route other job
  obtain ⟨rfl, rfl⟩ := (alone sees).unique (otherAlone sees)
  refine ⟨otherOutcome.trans outcome.symm, fun count done => ?_⟩
  rw [otherContent, content]
  rw [outcome] at done
  cases otherEnding with
  | exhausted => rfl
  | _ => cases done

/-- What a base transaction withholds goes with it. -/
theorem Ready.undone (ready : Ready thread target world) {χ α : Type} (rest : χ) {nesting : Bool}
    {started : World}
    (opened : world.openScope thread (.graph target) nesting = (.ok handle, started))
    {body : Handle → Body thread target χ α} (withholds : (body handle).Withholds ⟨started, rest⟩) :
    let call := (Body.transaction nesting body).run ⟨world, rest⟩
    (∀ value, call.1 ≠ .done value) →
      (call.2.world.store target).hasPendingChanges = false ∧
        (call.2.world.store target).content = (world.store target).content := by
  intro call unsuccessful
  obtain ⟨_, _, again, base, facts, -, reached⟩ := ready.openScope nesting
  obtain ⟨same, rfl⟩ := Prod.mk.inj (opened.symm.trans again)
  obtain rfl := Except.ok.inj same
  obtain ⟨bound, found, -⟩ := facts.context
  have inOrder := facts.inOrder ready.inOrder
  have left := (body handle).upheld_run ⟨started, rest⟩ _ inOrder reached
  rw [withholds.uncommitted inOrder reached found] at left
  have openedScene : (⟨world, rest⟩ : Scene χ).world.openScope thread (.graph target) nesting =
      (.ok handle, started) := opened
  obtain ⟨callOutcome, callStore⟩ := Body.run_transaction_of_opened body openedScene
  obtain ⟨sameOutcome, store⟩ := World.conclude_base left.reached.isTransactional
    (facts.isLive left.context?) base (by rw [facts.key])
    ((body handle).run ⟨started, rest⟩).1
  have outcome := callOutcome.trans sameOutcome
  have aborted : call.2.world.store target =
      (((body handle).run ⟨started, rest⟩).2.world.store target).abort := by
    rw [callStore, store]
    split
    · next value succeeded => exact absurd (outcome.trans succeeded) (unsuccessful value)
    · rfl
  rw [aborted]
  exact ⟨by simpa using left.reached.atBoundary_abort.settled.not_pending,
    left.reached.content_abort⟩

/-- A job of chores as bodies on their target. -/
def bodyOf (thread : ThreadId) (target : GraphId) (job : Nat → Item → Chore χ ν Unit) :
    Nat → Item → Body thread target (χ × ν) Unit :=
  fun number item => (job number item).body

theorem uncommitted_bodyOf (job : Nat → Item → Chore χ ν Unit) (number : Nat) (item : Item)
    (scene : Scene (χ × ν)) : (bodyOf thread target job number item).Uncommitted scene :=
  fun kept => (job number item).committed_body scene kept

theorem run_bulk_bodyOf (route : Route) (size : Nat) (job : Nat → Item → Chore χ ν Unit) :
    (Body.bulk route size (bodyOf thread target job)).run =
      run thread route target size (taskOf target job) := by
  simp only [Body.run_bulk, bodyOf, Chore.run_body]
  rfl

/-- Within a transaction, a bulk job leaves the store going back to what was committed last. -/
theorem rollsBackTo_run_inner {scene : Scene (χ × ν)} {context : Context}
    (inOrder : World.InOrder thread target scene.world)
    (found : scene.world.context? thread target = some context) {kept : Content}
    (reached : (scene.world.store target).RollsBackTo kept) (route : Route) (size : Nat)
    (job : Nat → Item → Chore χ ν Unit) :
    ((run thread route target size (taskOf target job) scene).2.world.store target).RollsBackTo
      kept := by
  have upheld := Body.upheld_run (Body.bulk route size (bodyOf thread target job)) scene kept
    inOrder reached
  rw [Body.uncommitted_bulk inOrder found route size (uncommitted_bodyOf job) kept,
    run_bulk_bodyOf] at upheld
  exact upheld.reached

/-- A bulk job keeps whole chunks.  On a graph that is ready it comes to an ending after some items,
and it answers the number of items or the failure that it came to.  If the route sees nothing of
what is pending, these are the items and the ending without any transaction.  Outside of every
transaction the job does not fail for these items either, and it ends as it does here for the item
that it has been tried for in vain.  Nothing is left pending, and the graph holds what the job leaves
outside of every transaction: after all items if the route has come to its end, and after the items
of the whole chunks otherwise.  Within a transaction of the thread on the graph, no chunk that the
bulk job commits reaches the store.  So if the outermost call fails in which only bulk jobs and inner
transactions commit, the graph holds what it held before the call. -/
theorem run_keeps_whole_chunks (ready : Ready thread target world) (rest : χ × ν) (route : Route)
    (size : Nat) (job : Nat → Item → Chore χ ν Unit) :
    let task := taskOf target job
    let start : Scene (χ × ν) := ⟨world, rest⟩
    let ended := run thread route target size task start
    (∃ handle started items ending,
      world.openScope thread (.graph target) true = (.ok handle, started) ∧
      Course (commitChunk handle route.name (max size 1)) task route.pipe 0 ⟨started, rest⟩ items
        ending ∧
      (route.pipe.Sees (Stores.seen target) →
        Course uncounted task route.pipe 0 start items ending) ∧
      (each task 0 items start).1 = .done () ∧
      (each task 0 (items ++ ending.tried) start).1 = ending.ofJob ∧
      ended.1 = ending.outcome items.length ∧
      (ended.2.world.store target).hasPendingChanges = false ∧
      (ended.2.world.store target).content =
        contentAfter target task start (ending.kept (max size 1) items)) ∧
    (∀ scene : Scene (χ × ν), World.InOrder thread target scene.world →
      ∀ context, scene.world.context? thread target = some context →
      ∀ kept, (scene.world.store target).RollsBackTo kept →
        ((run thread route target size task scene).2.world.store target).RollsBackTo kept) ∧
    (∀ nesting, ∃ handle started,
      world.openScope thread (.graph target) nesting = (.ok handle, started) ∧
      handle.strategy = .base ∧
      ∀ {α : Type} (body : Handle → Body thread target (χ × ν) α),
        (body handle).Withholds ⟨started, rest⟩ →
        let call := (Body.transaction nesting body).run start
        (∀ value, call.1 ≠ .done value) →
          (call.2.world.store target).hasPendingChanges = false ∧
            (call.2.world.store target).content = (world.store target).content) := by
  intro task start ended
  refine ⟨run_course ready rest route size job, ?_, ?_⟩
  · intro scene inOrder context found kept reached
    exact rollsBackTo_run_inner inOrder found reached route size job
  · intro nesting
    obtain ⟨handle, started, opened, base, -⟩ := ready.openScope nesting
    exact ⟨handle, started, opened, base, fun body withholds => ready.undone rest opened withholds⟩

/-- A world with one graph, which is empty. -/
def emptyGraph : World := (World.empty.addGraph true TransactionConfig.standard).2

def fiveItems : Route :=
  Route.ofItems [.value .null, .value .null, .value .null, .value .null, .value .null] .scalar

/-- Add a vertex for each item, but fail for the fourth. -/
def failsAtFourth (number : Nat) (_ : Item) : Chore Unit Unit Unit :=
  if number = 3 then .own (Task.fail .noGraph)
  else .andThen (.edit (.write (.addVertex Dict.empty))) fun _ => .own (Task.value ())

/-- The bulk job in chunks of two. -/
def failingJob : Outcome Nat × Scene (Unit × Unit) :=
  run ⟨0⟩ fiveItems ⟨1⟩ 2 (taskOf ⟨1⟩ failsAtFourth) ⟨emptyGraph, ((), ())⟩

/-- The same within a transaction, which goes on after the failure and fails in the end. -/
def failsAfterwards (_ : Handle) : Body ⟨0⟩ ⟨1⟩ (Unit × Unit) Unit :=
  (Body.caught (Body.bulk fiveItems 2 (bodyOf ⟨0⟩ ⟨1⟩ failsAtFourth))).andThen
    fun _ => Body.fail .noGraph

def failingEnclosing : Outcome Unit × Scene (Unit × Unit) :=
  (Body.transaction false failsAfterwards).run ⟨emptyGraph, ((), ())⟩

theorem ready_emptyGraph : Ready ⟨0⟩ ⟨1⟩ emptyGraph where
  resource := rfl
  registry := rfl
  enabled := rfl
  outermost := rfl
  reached := by
    have fresh : ∀ graph, (World.empty.store graph).Reached := fun _ => .empty false
    exact World.reached_addGraph fresh true TransactionConfig.standard ⟨1⟩
  transactional := rfl
  settled := rfl

theorem vertexIds_eq_of_content_eq {first second : Store} (same : first.content = second.content) :
    first.vertexIds = second.vertexIds :=
  congrArg (fun content : Content => content.vertices.keys) same

theorem failure_failsAfterwards (handle : Handle) (scene : Scene (Unit × Unit)) :
    ((failsAfterwards handle).run scene).1 = .failed .noGraph := by
  simp only [failsAfterwards, Body.run, Task.andThen, Task.caught]
  rcases (Body.bulk fiveItems 2 (bodyOf ⟨0⟩ ⟨1⟩ failsAtFourth)).run scene with ⟨outcome, later⟩
  rfl

/-- The course of the job is the one that it takes by itself.  The vertices of the first chunk stay,
and that of the third item does not; within a transaction that fails afterwards, none stays. -/
theorem failing_job_keeps_first_chunk :
    Ready ⟨0⟩ ⟨1⟩ emptyGraph ∧
      (∃ items ending, failingJob.1 = ending.outcome items.length ∧
        Course uncounted (taskOf ⟨1⟩ failsAtFourth) fiveItems.pipe 0 ⟨emptyGraph, ((), ())⟩ items
          ending) ∧
      failingJob.1 = .failed .noGraph ∧
      (failingJob.2.world.store ⟨1⟩).hasPendingChanges = false ∧
      (failingJob.2.world.store ⟨1⟩).vertexIds = [⟨1⟩, ⟨2⟩] ∧
      failingEnclosing.1 = .failed .noGraph ∧
      (failingEnclosing.2.world.store ⟨1⟩).vertexIds = [] := by
  obtain ⟨⟨_, _, items, ending, _, _, alone, _, _, outcome, settled, _⟩, -, nested⟩ :=
    run_keeps_whole_chunks ready_emptyGraph ((), ()) fiveItems 2 failsAtFourth
  have stays : (failingJob.2.world.store ⟨1⟩).vertexIds = [⟨1⟩, ⟨2⟩] := by
    simp only [failingJob, run, fiveItems, Route.ofItems, Route.ofPipe, loop_ofItems_cons]
    decide +kernel
  have failed : failingJob.1 = .failed .noGraph := by
    have failure : failingJob.1.error? = some .noGraph := by
      simp only [failingJob, run, fiveItems, Route.ofItems, Route.ofPipe, loop_ofItems_cons]
      decide +kernel
    exact Outcome.error?_eq_some_iff.mp failure
  obtain ⟨handle, started, opened, -, undone⟩ := nested false
  have openedScene : (⟨emptyGraph, ((), ())⟩ : Scene (Unit × Unit)).world.openScope ⟨0⟩
      (.graph ⟨1⟩) false = (.ok handle, started) := opened
  unfold failingEnclosing
  have refused : ((Body.transaction false failsAfterwards).run
      (⟨emptyGraph, ((), ())⟩ : Scene (Unit × Unit))).1 = .failed .noGraph := by
    rw [(Body.run_transaction_of_opened failsAfterwards openedScene).1,
      failure_failsAfterwards]
    rfl
  have withholds : (failsAfterwards handle).Withholds ⟨started, ((), ())⟩ :=
    .andThen (.caught (.bulk _ _ (uncommitted_bodyOf _) _)) fun _ _ _ => .silent fun _ => rfl
  obtain ⟨-, restored⟩ := undone failsAfterwards withholds fun value => by
    rw [refused]
    simp
  refine ⟨ready_emptyGraph, ⟨items, ending, outcome, alone (Pipe.sees_ofItems _ _)⟩, failed, settled,
    stays, refused, ?_⟩
  rw [vertexIds_eq_of_content_eq restored]
  rfl

end Bulk

end RoutedGraph
