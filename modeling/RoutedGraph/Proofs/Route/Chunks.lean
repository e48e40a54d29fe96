import RoutedGraph.Proofs.Pipe.Sight
import RoutedGraph.Proofs.Route.BulkJob
import RoutedGraph.Proofs.Route.Chores

/-!
# Whole chunks

A bulk job that fails keeps what it has committed, and it commits after every
chunk.  So of the items it has gone through, those of the whole chunks have
left their traces in the target and no other item has.  A bulk job that comes
to the end of its route has done what its job does to the items one after the
other, outside of every transaction.
-/

namespace RoutedGraph

namespace Bulk

section Each

variable {σ : Type} {job : Nat → Item → Task σ Unit}

/-- Run a job for items one after the other, telling it how many came before. -/
def each (job : Nat → Item → Task σ Unit) : Nat → List Item → Task σ Unit
  | _, [] => Task.value ()
  | count, item :: rest => (job count item).andThen fun _ => each job (count + 1) rest

/-- One more item after items for which the job has not failed. -/
theorem each_snoc {count : Nat} {items : List Item} {start : σ}
    (done : (each job count items start).1 = .done ()) (item : Item) :
    each job count (items ++ [item]) start =
      job (count + items.length) item (each job count items start).2 := by
  induction items generalizing count start with
  | nil =>
      simp only [List.nil_append, each, Task.andThen, Task.value, List.length_nil, Nat.add_zero]
      rcases job count item start with ⟨_ | _ | _, _⟩ <;> rfl
  | cons first rest ih =>
      simp only [List.cons_append, each, Task.andThen, List.length_cons] at done ⊢
      generalize job count first start = ran at done ⊢
      obtain ⟨outcome, later⟩ := ran
      cases outcome with
      | done value =>
          rw [show count + (rest.length + 1) = count + 1 + rest.length by omega]
          exact ih done
      | failed error => cases done
      | panicked message => cases done

end Each

/-- The items of the chunks that are complete. -/
def wholeChunks (size : Nat) (items : List Item) : List Item :=
  items.take (size * (items.length / size))

/-- The item that completes a chunk completes all items; any other adds no item. -/
theorem wholeChunks_snoc (size : Nat) (items : List Item) (item : Item) :
    wholeChunks size (items ++ [item]) =
      if (items.length + 1) % size = 0 then items ++ [item] else wholeChunks size items := by
  unfold wholeChunks
  rw [List.length_append, List.length_singleton]
  split
  · next complete =>
      rw [Nat.mul_div_cancel' (Nat.dvd_of_mod_eq_zero complete)]
      exact List.take_of_length_le (by simp)
  · next incomplete =>
      rw [Nat.succ_div_of_not_dvd (mt Nat.mod_eq_zero_of_dvd incomplete)]
      exact List.take_append_of_le_length (Nat.mul_div_le items.length size)

/-- The content of a graph after a job has been run for items outside of every transaction. -/
def contentAfter {χ : Type} (target : GraphId) (job : Nat → Item → Task (Scene χ) Unit)
    (start : Scene χ) (items : List Item) : Content :=
  ((each job 0 items start).2.world.store target).content

/-- What a bulk job comes to after the items that it has gone through. -/
inductive Ending where
  | exhausted
  /-- The next item can not be pulled. -/
  | unread (error : RouteError)
  /-- The job fails for the next item. -/
  | failed (item : Item) (error : RouteError)
  /-- The job panics for the next item. -/
  | panicked (item : Item) (message : String)

namespace Ending

/-- How a bulk job ends that has gone through a number of items. -/
def outcome (count : Nat) : Ending → Outcome Nat
  | exhausted => .done count
  | unread error => .failed error
  | failed _ error => .failed error
  | panicked _ message => .panicked message

/-- The item that the job has been run for in vain. -/
def tried : Ending → List Item
  | failed item _ => [item]
  | panicked item _ => [item]
  | _ => []

/-- How the job ended for the last item. -/
def ofJob : Ending → Outcome Unit
  | failed _ error => .failed error
  | panicked _ message => .panicked message
  | _ => .done ()

end Ending

/-- A loop over a route goes through items one after the other, and then comes to an ending: each
item is pulled from what is left of the pipe, run the job for, and counted. -/
inductive Course {χ : Type} (counting : Nat → Task (Scene χ) Unit)
    (job : Nat → Item → Task (Scene χ) Unit) :
    Pipe Stores Item → Nat → Scene χ → List Item → Ending → Prop where
  | exhausted {pipe next : Pipe Stores Item} {count : Nat} {scene : Scene χ} {hub : Hub Item}
      (pulled : pipe.pull scene.world.stores scene.world.toHub = (.done, next, hub)) :
      Course counting job pipe count scene [] .exhausted
  | unread {pipe next : Pipe Stores Item} {count : Nat} {scene : Scene χ} {hub : Hub Item}
      {error : RouteError}
      (pulled : pipe.pull scene.world.stores scene.world.toHub = (.failed error, next, hub)) :
      Course counting job pipe count scene [] (.unread error)
  | failed {pipe next : Pipe Stores Item} {count : Nat} {scene after : Scene χ} {hub : Hub Item}
      {item : Item} {error : RouteError}
      (pulled : pipe.pull scene.world.stores scene.world.toHub = (.item item, next, hub))
      (ran : job count item (scene.withHub hub) = (.failed error, after)) :
      Course counting job pipe count scene [] (.failed item error)
  | panicked {pipe next : Pipe Stores Item} {count : Nat} {scene after : Scene χ} {hub : Hub Item}
      {item : Item} {message : String}
      (pulled : pipe.pull scene.world.stores scene.world.toHub = (.item item, next, hub))
      (ran : job count item (scene.withHub hub) = (.panicked message, after)) :
      Course counting job pipe count scene [] (.panicked item message)
  | more {pipe next : Pipe Stores Item} {count : Nat} {scene worked later : Scene χ}
      {hub : Hub Item} {item : Item} {items : List Item} {ending : Ending}
      (pulled : pipe.pull scene.world.stores scene.world.toHub = (.item item, next, hub))
      (ran : job count item (scene.withHub hub) = (.done (), worked))
      (counted : counting (count + 1) worked = (.done (), later))
      (rest : Course counting job next (count + 1) later items ending) :
      Course counting job pipe count scene (item :: items) ending

/-- Nothing is done between items. -/
def uncounted {χ : Type} (_ : Nat) : Task (Scene χ) Unit := Task.value ()

/-- There is one course only. -/
theorem Course.unique {χ : Type} {counting : Nat → Task (Scene χ) Unit}
    {job : Nat → Item → Task (Scene χ) Unit} {pipe : Pipe Stores Item} {count : Nat}
    {scene : Scene χ} {items others : List Item} {ending other : Ending}
    (first : Course counting job pipe count scene items ending)
    (second : Course counting job pipe count scene others other) :
    others = items ∧ other = ending := by
  induction first generalizing others other with
  | exhausted pulled => cases second <;> simp_all
  | unread pulled => cases second <;> simp_all
  | failed pulled ran => cases second <;> simp_all
  | panicked pulled ran => cases second <;> simp_all
  | more pulled ran counted rest ih =>
      cases second with
      | more otherPulled otherRan otherCounted otherRest =>
          obtain ⟨rfl, rfl, rfl⟩ : _ ∧ _ ∧ _ := by simpa using pulled.symm.trans otherPulled
          obtain rfl : _ = _ := by simpa using ran.symm.trans otherRan
          obtain rfl : _ = _ := by simpa using counted.symm.trans otherCounted
          obtain ⟨rfl, rfl⟩ := ih otherRest
          exact ⟨rfl, rfl⟩
      | _ => simp_all

/-- With an item at hand, the loop runs the job for it and goes on. -/
theorem loop_ofItems_cons {χ : Type} (handle : Handle) (name : Option String) (size : Nat)
    (job : Nat → Item → Task (Scene χ) Unit) (item : Item) (items : List Item) (count : Nat) :
    loop handle name size job (.ofItems (item :: items)) count =
      (job count item).andThen fun _ =>
        (commitChunk handle name size (count + 1)).andThen fun _ =>
          loop handle name size job (.ofItems items) (count + 1) := by
  funext scene
  rw [loop_eq, Pipe.pull_eq]
  rfl

section Loop

variable {χ ν : Type} {target : GraphId} {handle : Handle} {size : Nat} {start : Scene (χ × ν)}
  {scene : Scene (χ × ν)} {sofar : List Item}

/-- A job of chores as tasks on their target. -/
def taskOf (target : GraphId) (job : Nat → Item → Chore χ ν Unit) :
    Nat → Item → Task (Scene (χ × ν)) Unit :=
  fun number item => (job number item).run target

variable {job : Nat → Item → Chore χ ν Unit}

/-- Where the loop is after items: its scope is open, the job cannot tell the scene from the one
outside of transactions, and the target goes back to what the whole chunks have left. -/
structure Stage (target : GraphId) (handle : Handle) (size : Nat)
    (job : Nat → Item → Chore χ ν Unit) (start : Scene (χ × ν)) (sofar : List Item)
    (scene : Scene (χ × ν)) : Prop where
  live : scene.world.isLive handle = true
  plain : (each (taskOf target job) 0 sofar start).1 = .done ()
  alike : Scene.Alike target (each (taskOf target job) 0 sofar start).2 scene
  reached : (scene.world.store target).RollsBackTo
    (contentAfter target (taskOf target job) start (wholeChunks size sofar))

theorem Stage.withHub (stage : Stage target handle size job start sofar scene) (hub : Hub Item) :
    Stage target handle size job start sofar (scene.withHub hub) :=
  ⟨stage.live, stage.plain, ⟨stage.alike.seen, stage.alike.own⟩, stage.reached⟩

/-- Outside of transactions and within the loop the job does the same for the next item. -/
theorem Stage.next (stage : Stage target handle size job start sofar scene) (item : Item) :
    let ran := taskOf target job sofar.length item scene
    ran.2.world.isLive handle = true ∧
      (ran.2.world.store target).RollsBackTo
        (contentAfter target (taskOf target job) start (wholeChunks size sofar)) ∧
      (each (taskOf target job) 0 (sofar ++ [item]) start).1 = ran.1 ∧
      Scene.Alike target (each (taskOf target job) 0 (sofar ++ [item]) start).2 ran.2 := by
  intro ran
  have same : World.SameScopes scene.world ran.2.world :=
    (job sofar.length item).sameScopes_run scene
  have reached := (job sofar.length item).rollsBackTo_run stage.reached
  have step := each_snoc stage.plain item
  rw [Nat.zero_add] at step
  obtain ⟨outcome, alike⟩ := (job sofar.length item).alike_run stage.alike
  rw [step]
  exact ⟨(same.isLive handle).trans stage.live, reached, outcome, alike⟩

theorem alike_upToCommit {before after : Scene (χ × ν)}
    (changed : World.UpToCommit target before.world after.world)
    (own : before.rest.1 = after.rest.1) : Scene.Alike target before after := by
  refine ⟨World.seen_congr ?_ fun graph different => (changed.others graph different).symm, own⟩
  rcases changed.own with same | committed
  · rw [same]
  · rw [committed, Store.commit_commit]

theorem upToCommit_commit {world : World} (resource : handle.key.resource = .graph target) :
    World.UpToCommit target world (world.commit handle).2 := by
  cases live : world.isLive handle with
  | true => exact (World.commit_live live resource).2.1
  | false =>
      simp only [World.commit, live]
      exact World.upToCommit_of_stores rfl

/-- A job cannot tell whether there has been a commit between two items. -/
theorem alike_commitChunk (resource : handle.key.resource = .graph target) {name : Option String}
    {count : Nat} {later : Scene (χ × ν)}
    (counted : commitChunk handle name size count scene = (.done (), later)) :
    Scene.Alike target scene later ∧ World.SameWindows scene.world later.world := by
  unfold commitChunk at counted
  split at counted
  · have changed : World.UpToCommit target scene.world (scene.world.commit handle).2 :=
      upToCommit_commit resource
    have windows := scene.world.sameWindows_commit handle
    simp only [Scene.attempt] at counted
    generalize scene.world.commit handle = committing at changed windows counted
    obtain ⟨result, committed⟩ := committing
    cases result with
    | ok value =>
        obtain ⟨-, rfl⟩ := Prod.mk.inj counted
        exact ⟨alike_upToCommit (changed.congr rfl rfl) rfl, windows.emit _⟩
    | error error => cases counted
  · obtain ⟨-, rfl⟩ := Prod.mk.inj counted
    exact ⟨⟨rfl, rfl⟩, World.SameWindows.refl _⟩

/-- After the last item of a chunk, the store has committed; after any other, nothing has
changed. -/
theorem commitChunk_base (name : Option String) (live : scene.world.isLive handle = true)
    (base : handle.strategy = .base) (resource : handle.key.resource = .graph target)
    (count : Nat) :
    ∃ later, commitChunk handle name size count scene = (.done (), later) ∧
      later.world.isLive handle = true ∧
      later.world.store target =
        if count % size = 0 then (scene.world.store target).commit
        else scene.world.store target := by
  unfold commitChunk
  split
  · obtain ⟨succeeded, -, reaches⟩ := World.commit_live live resource
    have same := scene.world.sameScopes_commit handle
    simp only [Scene.attempt]
    generalize scene.world.commit handle = committing at succeeded reaches same ⊢
    obtain ⟨result, committed⟩ := committing
    obtain rfl : result = .ok () := succeeded
    exact ⟨_, rfl, (same.isLive handle).trans live, reaches base⟩
  · exact ⟨scene, rfl, live, rfl⟩

/-- The loop has run the job for an item and counted it. -/
theorem Stage.counted (stage : Stage target handle size job start sofar scene) {item : Item}
    (base : handle.strategy = .base) (resource : handle.key.resource = .graph target)
    (name : Option String) {worked : Scene (χ × ν)}
    (ran : taskOf target job sofar.length item scene = (.done (), worked)) :
    ∃ later, commitChunk handle name size (sofar.length + 1) worked = (.done (), later) ∧
      Stage target handle size job start (sofar ++ [item]) later := by
  have next := stage.next item
  rw [ran] at next
  obtain ⟨live, reached, plain, alike⟩ := next
  obtain ⟨later, counted, stillLive, store⟩ :=
    commitChunk_base name live base resource (sofar.length + 1)
  obtain ⟨unseen, -⟩ := alike_commitChunk resource counted
  refine ⟨later, counted, stillLive, plain, alike.trans unseen, ?_⟩
  rw [store, wholeChunks_snoc]
  split
  · rw [contentAfter, Store.content_eq_of_commit_eq (World.commit_eq_of_seen alike.seen)]
    exact reached.commit
  · exact reached

/-- What the loop leaves after items and an ending: the target goes back to what the whole chunks
have left, and unless an item could not be pulled or worked on, it holds what all items have
left. -/
structure Ended (target : GraphId) (handle : Handle) (size : Nat)
    (job : Nat → Item → Chore χ ν Unit) (start : Scene (χ × ν)) (items : List Item)
    (ending : Ending) (after : Scene (χ × ν)) : Prop where
  live : after.world.isLive handle = true
  reached : (after.world.store target).RollsBackTo
    (contentAfter target (taskOf target job) start (wholeChunks size items))
  plain : (each (taskOf target job) 0 items start).1 = .done ()
  tried : (each (taskOf target job) 0 (items ++ ending.tried) start).1 = ending.ofJob
  content : ending = .exhausted →
    (after.world.store target).content = contentAfter target (taskOf target job) start items

/-- The route brings no further item. -/
theorem Stage.ended (stage : Stage target handle size job start sofar scene) {ending : Ending}
    (untried : ending.tried = []) (unworked : ending.ofJob = .done ()) :
    Ended target handle size job start sofar ending scene where
  live := stage.live
  reached := stage.reached
  plain := stage.plain
  tried := by rw [untried, unworked, List.append_nil, stage.plain]
  content _ := (Store.content_eq_of_commit_eq (World.commit_eq_of_seen stage.alike.seen)).symm

/-- The job does not come through for the next item. -/
theorem Stage.stopped (stage : Stage target handle size job start sofar scene) {item : Item}
    {ending : Ending} {after : Scene (χ × ν)}
    (ran : taskOf target job sofar.length item scene = (ending.ofJob, after))
    (tried : ending.tried = [item]) (unfinished : ending ≠ .exhausted) :
    Ended target handle size job start sofar ending after := by
  have next := stage.next item
  rw [ran] at next
  obtain ⟨live, reached, outcome, -⟩ := next
  exact ⟨live, reached, stage.plain, by rw [tried, outcome],
    fun exhausted => absurd exhausted unfinished⟩

/-- The loop takes a course and ends as its ending says. -/
theorem loop_course (base : handle.strategy = .base)
    (resource : handle.key.resource = .graph target) (name : Option String)
    (pipe : Pipe Stores Item) (sofar : List Item) (scene : Scene (χ × ν))
    (stage : Stage target handle size job start sofar scene) :
    ∃ items ending after,
      Course (commitChunk handle name size) (taskOf target job) pipe sofar.length scene items
        ending ∧
      loop handle name size (taskOf target job) pipe sofar.length scene =
        (ending.outcome (sofar ++ items).length, after) ∧
      Ended target handle size job start (sofar ++ items) ending after := by
  rw [loop_eq]
  cases pulled : pipe.pull scene.world.stores scene.world.toHub with
  | mk answer rest =>
      obtain ⟨next, hub⟩ := rest
      have quiet := stage.withHub hub
      cases answer with
      | done =>
          refine ⟨[], .exhausted, scene.withHub hub, .exhausted pulled, ?_⟩
          rw [List.append_nil]
          exact ⟨rfl, quiet.ended rfl rfl⟩
      | failed error =>
          refine ⟨[], .unread error, scene.withHub hub, .unread pulled, ?_⟩
          rw [List.append_nil]
          exact ⟨rfl, quiet.ended rfl rfl⟩
      | item item =>
          simp only [Task.andThen]
          cases ran : taskOf target job sofar.length item (scene.withHub hub) with
          | mk outcome worked =>
              cases outcome with
              | failed error =>
                  refine ⟨[], .failed item error, worked, .failed pulled ran, ?_⟩
                  rw [List.append_nil]
                  exact ⟨rfl, quiet.stopped ran rfl (by simp)⟩
              | panicked message =>
                  refine ⟨[], .panicked item message, worked, .panicked pulled ran, ?_⟩
                  rw [List.append_nil]
                  exact ⟨rfl, quiet.stopped ran rfl (by simp)⟩
              | done value =>
                  obtain ⟨later, counted, further⟩ := quiet.counted base resource name ran
                  obtain ⟨items, ending, after, course, looped, ended⟩ :=
                    loop_course base resource name next (sofar ++ [item]) later further
                  rw [List.length_append, List.length_singleton] at course looped
                  rw [List.append_assoc, List.singleton_append] at looped ended
                  refine ⟨item :: items, ending, after, .more pulled ran counted course, ?_, ended⟩
                  simp only [counted, looped]
termination_by pipe.rank
decreasing_by exact Pipe.pull_lowers pulled (by simp)

/-- A job does the same for an item in scenes that it cannot tell apart, and no window is touched. -/
theorem taskOf_alike {ids : List WindowId} {count : Nat} {item : Item} {outcome : Outcome Unit}
    {other worked : Scene (χ × ν)} (alike : Scene.Alike target scene other)
    (agree : Hub.Agree ids scene.world.toHub other.world.toHub)
    (ran : taskOf target job count item scene = (outcome, worked)) :
    ∃ otherWorked, taskOf target job count item other = (outcome, otherWorked) ∧
      Scene.Alike target worked otherWorked ∧
      Hub.Agree ids worked.world.toHub otherWorked.world.toHub := by
  obtain ⟨same, stillAlike⟩ := (job count item).alike_run alike
  have windows : World.SameWindows scene.world (taskOf target job count item scene).2.world :=
    (job count item).sameWindows_run scene
  have otherWindows : World.SameWindows other.world (taskOf target job count item other).2.world :=
    (job count item).sameWindows_run other
  rw [ran] at windows
  simp only [taskOf] at ran ⊢
  rw [ran] at same stillAlike
  exact ⟨((job count item).run target other).2, Prod.ext same.symm rfl, stillAlike,
    ((windows.agree ids).symm.trans agree).trans (otherWindows.agree ids)⟩

/-- Where a route sees nothing of what is pending, it brings the same items and comes to the same
ending without any transaction. -/
theorem Course.alone (resource : handle.key.resource = .graph target) {name : Option String}
    {pipe : Pipe Stores Item} {count : Nat} {scene other : Scene (χ × ν)} {items : List Item}
    {ending : Ending}
    (course : Course (commitChunk handle name size) (taskOf target job) pipe count scene items
      ending)
    (sees : pipe.Sees (Stores.seen target)) (alike : Scene.Alike target scene other)
    (agree : Hub.Agree pipe.windows scene.world.toHub other.world.toHub) :
    Course uncounted (taskOf target job) pipe count other items ending := by
  induction course generalizing other with
  | exhausted pulled =>
      obtain ⟨-, hub, otherPulled, -⟩ := Pipe.pull_congr sees alike.seen agree pulled
      exact .exhausted otherPulled
  | unread pulled =>
      obtain ⟨-, hub, otherPulled, -⟩ := Pipe.pull_congr sees alike.seen agree pulled
      exact .unread otherPulled
  | failed pulled ran =>
      obtain ⟨-, hub, otherPulled, stillAgree⟩ := Pipe.pull_congr sees alike.seen agree pulled
      obtain ⟨_, otherRan, -⟩ := taskOf_alike (alike.withHub _ hub) stillAgree ran
      exact .failed otherPulled otherRan
  | panicked pulled ran =>
      obtain ⟨-, hub, otherPulled, stillAgree⟩ := Pipe.pull_congr sees alike.seen agree pulled
      obtain ⟨_, otherRan, -⟩ := taskOf_alike (alike.withHub _ hub) stillAgree ran
      exact .panicked otherPulled otherRan
  | more pulled ran counted rest ih =>
      obtain ⟨stillSees, hub, otherPulled, pulledAgree⟩ :=
        Pipe.pull_congr sees alike.seen agree pulled
      obtain ⟨_, otherRan, workedAlike, workedAgree⟩ :=
        taskOf_alike (alike.withHub _ hub) pulledAgree ran
      obtain ⟨unseen, unheard⟩ := alike_commitChunk resource counted
      exact .more otherPulled otherRan rfl
        (ih stillSees (unseen.symm.trans workedAlike) ((unheard.agree _).symm.trans workedAgree))

end Loop

end Bulk

end RoutedGraph
