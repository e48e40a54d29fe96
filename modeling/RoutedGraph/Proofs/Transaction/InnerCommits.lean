import RoutedGraph.Proofs.Transaction.Atomicity
import RoutedGraph.Proofs.Transaction.BoundaryCalls

/-!
# Inner commits

Only the outermost scope of a thread on a graph reaches its store.  What inner
transactions and bulk jobs commit waits for the outermost call, and where that
call fails without a commit of its own, the graph goes back to what it was when
the call started.
-/

namespace RoutedGraph

namespace World

variable {thread : ThreadId} {handle : Handle}

section Inner

variable (world : World) (graph : GraphId)

theorem commits_commit_inner (inner : handle.strategy ≠ .base) :
    (world.commit handle).2.commits graph = world.commits graph := by
  unfold commit
  split
  · unfold commitLive
    split
    · next base => exact absurd base inner
    · exact world.commits_emit_of_other graph rfl
    · exact world.commits_emit_of_other graph rfl
    · exact world.commits_emit_of_other graph rfl
  · rfl

theorem commits_finishRollback_inner (inner : handle.strategy ≠ .base) (message : Option String)
    (unwinding : Bool) :
    (world.finishRollback handle message unwinding).2.commits graph = world.commits graph := by
  unfold finishRollback
  split
  · have noted : (world.emit (.rolledBack handle.token handle.strategy message)).commits graph =
        world.commits graph := world.commits_emit_of_other graph rfl
    unfold rollbackLive
    cases strategy : handle.strategy with
    | base => exact absurd strategy inner
    | _ =>
        rw [strategy] at noted
        cases unwinding <;> exact noted
  · rfl

theorem commits_unwind_inner (inner : handle.strategy ≠ .base) (message : String) :
    (world.unwind handle message).commits graph = world.commits graph := by
  have finished := world.commits_finishRollback_inner graph inner (some message) true
  unfold unwind
  split
  · next unwound ended =>
      rw [ended] at finished
      exact finished
  · next error stuck ended =>
      rw [ended] at finished
      exact (stuck.commits_emit_of_other graph rfl).trans finished

theorem commits_conclude_inner (inner : handle.strategy ≠ .base) {α : Type}
    (outcome : Outcome α) :
    (world.conclude handle outcome).2.commits graph = world.commits graph := by
  cases outcome with
  | done value =>
      have committed := world.commits_commit_inner graph inner
      simp only [conclude]
      cases ended : world.commit handle with
      | mk result later =>
          rw [ended] at committed
          cases result with
          | ok value => exact committed
          | error error => exact (later.commits_unwind_inner graph inner _).trans committed
  | failed error => exact world.commits_unwind_inner graph inner _
  | panicked message => exact world.commits_unwind_inner graph inner _

end Inner

variable {world : World} {graph : GraphId}

/-- A scope that is opened within another one is an inner one, and nothing is committed for it. -/
theorem openScope_inner {context : Context} (inOrder : InOrder thread graph world)
    (found : world.context? thread graph = some context) (nesting : Bool) :
    (∀ handle started, world.openScope thread (.graph graph) nesting = (.ok handle, started) →
        handle.strategy ≠ .base) ∧
      (world.openScope thread (.graph graph) nesting).2.commits graph = world.commits graph := by
  have enclosing : world.enclosing thread (.graph graph) = context := by
    rw [inOrder.enclosing, found, Option.getD_some]
  have deep : world.depth thread (.graph graph) ≠ 0 := by
    rw [depth_eq, enclosing]
    exact Nat.ne_of_gt (inOrder.wellFormed context found).depth_pos
  have unreal : ∀ {strategy}, Strategy.select (world.isNative (.graph graph))
      (world.depth thread (.graph graph)) nesting = .ok strategy → strategy ≠ .base :=
    fun selected base => deep ((select_base_iff selected).mp base).2
  refine ⟨fun handle started opened => unreal (bound_openScope opened).strategy, ?_⟩
  rw [openScope_eq]
  split
  · rfl
  · next strategy selected =>
      obtain ⟨-, -, silent⟩ := world.minted_frame thread (.graph graph) graph
      have closed : (world.minted thread (.graph graph)).2.closeFor (.graph graph) strategy =
          (.ok (), (world.minted thread (.graph graph)).2) := by
        cases strategy with
        | base => exact absurd rfl (unreal selected)
        | _ => rfl
      simp only [closed]
      exact (commits_emit_of_other _ graph rfl).trans silent

end World

namespace Body

variable {thread : ThreadId} {graph : GraphId} {χ α β : Type}

/-- No commit reaches the store in the run of a body from a scene: whatever was committed last when
it starts was committed last when it ends. -/
def Uncommitted (body : Body thread graph χ α) (scene : Scene χ) : Prop :=
  ∀ kept, body.committed scene kept = kept

theorem uncommitted_act {action : GraphAction α} {scene : Scene χ}
    (silent : (action.perform graph scene.world).2.commits graph = scene.world.commits graph) :
    (act action : Body thread graph χ α).Uncommitted scene := fun _ => if_pos silent

theorem Uncommitted.andThen {first : Body thread graph χ α} {next : α → Body thread graph χ β}
    {scene : Scene χ} (uncommitted : first.Uncommitted scene)
    (later : ∀ value reached, first.run scene = (.done value, reached) →
      (next value).Uncommitted reached) : (first.andThen next).Uncommitted scene := by
  intro kept
  simp only [committed, uncommitted kept]
  split
  · next value reached ran => exact later value reached ran kept
  · rfl

/-- A transaction within another one commits nothing if its body does not. -/
theorem uncommitted_transaction {scene : Scene χ} {context : Context}
    (inOrder : World.InOrder thread graph scene.world)
    (found : scene.world.context? thread graph = some context) (nesting : Bool)
    {body : Handle → Body thread graph χ α}
    (inside : ∀ handle started,
      scene.world.openScope thread (.graph graph) nesting = (.ok handle, started) →
      handle.strategy ≠ .base → (body handle).Uncommitted { scene with world := started }) :
    (transaction nesting body).Uncommitted scene := by
  intro kept
  obtain ⟨inner, silent⟩ := World.openScope_inner inOrder found nesting
  simp only [committed]
  generalize opened : scene.world.openScope thread (.graph graph) nesting = opening
    at inner silent inside ⊢
  obtain ⟨result, started⟩ := opening
  have unmoved : World.committed graph scene.world started kept = kept := if_pos silent
  cases result with
  | error error => exact unmoved
  | ok handle =>
      have weak := inner handle started rfl
      dsimp only
      rw [unmoved, inside handle started rfl weak kept]
      exact if_pos (World.commits_conclude_inner _ graph weak _)

section Bulk

variable {handle : Handle} {job : Nat → Item → Body thread graph χ Unit}

theorem uncommitted_commitChunk (inner : handle.strategy ≠ .base) (name : Option String)
    (size count : Nat) (scene : Scene χ) :
    (commitChunk handle name size count : Body thread graph χ Unit).Uncommitted scene := by
  unfold commitChunk
  split
  · have committing : (act (.commit handle) : Body thread graph χ Unit).Uncommitted scene :=
      uncommitted_act (World.commits_commit_inner _ graph inner)
    exact committing.andThen fun _ _ _ _ => rfl
  · exact fun _ => rfl

/-- Through a handle of an inner scope, no chunk is committed. -/
theorem uncommitted_loop (inner : handle.strategy ≠ .base) (name : Option String) (size : Nat)
    (jobs : ∀ number item scene, (job number item).Uncommitted scene) (pipe : Pipe Stores Item)
    (count : Nat) (scene : Scene χ) :
    (loop handle name size job pipe count).Uncommitted scene := by
  rw [loop]
  refine Uncommitted.andThen (fun _ => rfl) fun pulled reached _ => ?_
  split
  · next item brought =>
      refine (jobs count item reached).andThen fun _ worked _ => ?_
      refine (uncommitted_commitChunk inner name size (count + 1) worked).andThen fun _ later _ => ?_
      exact uncommitted_loop inner name size jobs pulled.val.2 (count + 1) later
  · exact fun _ => rfl
  · exact fun _ => rfl
termination_by pipe.rank
decreasing_by exact pulled.property _ ‹_›

/-- A bulk job within a transaction commits nothing if its job does not. -/
theorem uncommitted_bulk {scene : Scene χ} {context : Context}
    (inOrder : World.InOrder thread graph scene.world)
    (found : scene.world.context? thread graph = some context) (route : Route) (size : Nat)
    (jobs : ∀ number item scene, (job number item).Uncommitted scene) :
    (bulk route size job).Uncommitted scene :=
  uncommitted_transaction inOrder found true fun _ _ _ inner =>
    (uncommitted_loop inner route.name (max size 1) jobs route.pipe 0 _).andThen
      fun _ _ _ => Uncommitted.andThen (fun _ => rfl) fun _ _ _ _ => rfl

end Bulk

/-- In the run of a body from a scene, only its bulk jobs and its inner transactions commit. -/
inductive Withholds : {α : Type} → Body thread graph χ α → Scene χ → Prop where
  | silent {α : Type} {body : Body thread graph χ α} {scene : Scene χ}
      (uncommitted : body.Uncommitted scene) : Withholds body scene
  | bulk {job : Nat → Item → Body thread graph χ Unit} (route : Route) (size : Nat)
      (jobs : ∀ number item scene, (job number item).Uncommitted scene) (scene : Scene χ) :
      Withholds (bulk route size job) scene
  | andThen {α β : Type} {first : Body thread graph χ α} {next : α → Body thread graph χ β}
      {scene : Scene χ} (head : Withholds first scene)
      (later : ∀ value reached, first.run scene = (.done value, reached) →
        Withholds (next value) reached) : Withholds (first.andThen next) scene
  | caught {α : Type} {body : Body thread graph χ α} {scene : Scene χ}
      (inside : Withholds body scene) : Withholds (caught body) scene
  | transaction {α : Type} {nesting : Bool} {body : Handle → Body thread graph χ α}
      {scene : Scene χ}
      (inside : ∀ handle started,
        scene.world.openScope thread (.graph graph) nesting = (.ok handle, started) →
        Withholds (body handle) { scene with world := started }) :
      Withholds (transaction nesting body) scene

/-- Within a transaction, what only bulk jobs and inner transactions commit does not reach the
store. -/
theorem Withholds.uncommitted {body : Body thread graph χ α} {scene : Scene χ}
    (withholds : body.Withholds scene) {kept : Content}
    (inOrder : World.InOrder thread graph scene.world)
    (reached : (scene.world.store graph).RollsBackTo kept) {context : Context}
    (found : scene.world.context? thread graph = some context) : body.Uncommitted scene := by
  induction withholds generalizing kept context with
  | silent uncommitted => exact uncommitted
  | bulk route size jobs scene => exact uncommitted_bulk inOrder found route size jobs
  | @andThen α β first next scene head later headHolds laterHolds =>
      have upheld := first.upheld_run scene kept inOrder reached
      refine (headHolds inOrder reached found).andThen fun value reached ran => ?_
      rw [ran] at upheld
      exact laterHolds value reached ran upheld.inOrder upheld.reached
        (upheld.context?.trans found)
  | caught inside holds => exact holds inOrder reached found
  | @transaction α nesting body scene inside holds =>
      refine uncommitted_transaction inOrder found nesting fun handle started opened _ => ?_
      have opening := World.opening_openScope inOrder reached nesting
      rw [opened] at opening
      cases opening with
      | granted _ _ facts =>
          obtain ⟨bound, boundFound, -⟩ := facts.context
          exact holds handle started opened (facts.inOrder inOrder)
            (facts.touch.rollsBackTo reached) boundFound

end Body

end RoutedGraph
