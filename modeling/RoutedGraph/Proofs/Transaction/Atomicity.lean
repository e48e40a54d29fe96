import RoutedGraph.Proofs.Transaction.Scopes
import RoutedGraph.Proofs.World.CloneRollback

/-!
# Atomicity of transactions

Whatever a body does, it leaves the contexts of its thread as they were and a
store that goes back to the content that was committed last.  The handle of an
outermost transaction is therefore live when its body ends, and the call ends
with a commit of all that the body left or with an abort that goes back to the
last commit.
-/

namespace RoutedGraph

open World

variable {thread : ThreadId} {graph : GraphId} {χ α β : Type}

/-- After a step, everything is in order, the contexts are what they were, and the store goes back
to a content. -/
structure Upheld (thread : ThreadId) (graph : GraphId) (before after : World)
    (kept : Content) : Prop where
  inOrder : InOrder thread graph after
  context? : after.context? thread graph = before.context? thread graph
  reached : (after.store graph).RollsBackTo kept

theorem Upheld.trans {before middle after : World} {first second : Content}
    (earlier : Upheld thread graph before middle first)
    (later : Upheld thread graph middle after second) :
    Upheld thread graph before after second :=
  ⟨later.inOrder, later.context?.trans earlier.context?, later.reached⟩

/-- Leaving a scope gives back the context that was there before it. -/
theorem upheld_leave {before world : World} {kept : Content} {context : Context}
    (inOrder : InOrder thread graph before)
    (resource : (world.manager (.graph graph)).resource = .graph graph)
    (registry : (world.manager (.graph graph)).registry = .graph graph)
    (found : world.context? thread graph = some context)
    (leads : context.leave? = before.context? thread graph)
    (reached : (world.store graph).RollsBackTo kept) :
    Upheld thread graph before (world.leave (.graph graph) ⟨thread, .graph graph⟩) kept := by
  have left : (world.leave (.graph graph) ⟨thread, .graph graph⟩).context? thread graph =
      before.context? thread graph := by
    have own : world.contextAt? (.graph graph) ⟨thread, .graph graph⟩ = some context := found
    have gives := world.contextAt?_leave (.graph graph) (.graph graph) ⟨thread, .graph graph⟩
      ⟨thread, .graph graph⟩
    rw [if_pos ⟨rfl, rfl⟩, own] at gives
    exact gives.trans leads
  refine ⟨⟨resource, registry, ?_⟩, left, reached⟩
  rw [left]
  exact inOrder.wellFormed

theorem World.Opened.inOrder {before started : World} {handle : Handle}
    (opened : Opened thread graph before started handle) (inOrder : InOrder thread graph before) :
    InOrder thread graph started := by
  obtain ⟨bound, found, wellFormed, -⟩ := opened.context
  refine ⟨?_, ?_, ?_⟩
  · rw [opened.manager, inOrder.resource]
  · rw [opened.manager, inOrder.registry]
  · intro context same
    rw [found] at same
    exact Option.some.inj same ▸ wellFormed

theorem World.Opened.isLive {before started after : World} {handle : Handle}
    (opened : Opened thread graph before started handle)
    (same : after.context? thread graph = started.context? thread graph) :
    after.isLive handle = true := by
  obtain ⟨bound, found, -, -, token, isOpen⟩ := opened.context
  have context : (after.registry handle.registry).snapshot? handle.key = some bound := by
    rw [opened.registry, opened.key]
    exact same.trans found
  simp [World.isLive, context, token, isOpen]

/-- Through a live handle of the base strategy, a scope ends with a commit if its body succeeded
and with an abort otherwise, and the call ends as the body did. -/
theorem World.conclude_base {world : World} {handle : Handle}
    (transactional : (world.store graph).isTransactional = true)
    (live : world.isLive handle = true) (base : handle.strategy = .base)
    (resource : handle.key.resource = .graph graph) (outcome : Outcome α) :
    (world.conclude handle outcome).1 = outcome ∧
      (world.conclude handle outcome).2.store graph =
        match outcome with
        | .done _ => (world.store graph).commit
        | _ => (world.store graph).abort := by
  have unwound : ∀ message, (world.unwind handle message).store graph =
      (world.store graph).abort := by
    intro message
    simp [unwind, finishRollback, live, rollbackLive, base, Strategy.rollbackRequest?, resource,
      abortAll, transactional]
  cases outcome with
  | done value => simp [conclude, commit, live, commitLive, base, resource, commitAll]
  | failed error => exact ⟨rfl, unwound error.message⟩
  | panicked message => exact ⟨rfl, unwound "panicked"⟩

namespace Body

/-- Whatever a body does, the contexts are kept and the store goes back to what was committed
last. -/
theorem upheld_run (body : Body thread graph χ α) (scene : Scene χ) (kept : Content)
    (inOrder : InOrder thread graph scene.world)
    (reached : (scene.world.store graph).RollsBackTo kept) :
    Upheld thread graph scene.world (body.run scene).2.world (body.committed scene kept) := by
  -- Along the body: every part starts from what the part before it upheld.
  induction body generalizing scene kept with
  | aside task alone =>
      have left := alone scene
      refine ⟨inOrder.of_same left.manager left.context?, left.context?, ?_⟩
      simpa only [run, committed, left.store] using reached
  | act action =>
      obtain ⟨stillInOrder, sameContext⟩ := inOrder_perform inOrder action
      exact ⟨stillInOrder, sameContext, (touch_perform reached action).rollsBackTo reached⟩
  | andThen first next firstHolds nextHolds =>
      have earlier := firstHolds scene kept inOrder reached
      simp only [run, committed, Task.andThen]
      generalize first.run scene = ended at earlier ⊢
      obtain ⟨outcome, later⟩ := ended
      cases outcome with
      | done value => exact earlier.trans (nextHolds value later _ earlier.inOrder earlier.reached)
      | failed error => exact earlier
      | panicked message => exact earlier
  | caught body holds => exact holds scene kept inOrder reached
  | transaction nesting body holds =>
      have opening := opening_openScope inOrder reached nesting
      rw [run_transaction, inOrder.registry, inOrder.key]
      simp only [committed]
      generalize scene.world.openScope thread (.graph graph) nesting = opened at opening ⊢
      cases opening with
      | refused error refused facts =>
          obtain ⟨entered, found, leads⟩ := facts.context
          refine upheld_leave inOrder ?_ ?_ found leads (facts.touch.rollsBackTo reached)
          · rw [facts.manager, inOrder.resource]
          · rw [facts.manager, inOrder.registry]
      | granted handle started facts =>
          -- The body gives back the context that the opening bound, and leaving unbinds it.
          obtain ⟨bound, found, -, leads, -⟩ := facts.context
          have inner := holds handle { scene with world := started }
            (World.committed graph scene.world started kept) (facts.inOrder inOrder)
            (facts.touch.rollsBackTo reached)
          dsimp only at inner ⊢
          generalize (body handle).run { scene with world := started } = ended at inner ⊢
          obtain ⟨outcome, after⟩ := ended
          have unscoped := (after.world.sameScopes_conclude handle outcome).toUnscoped
          refine upheld_leave inOrder ?_ ?_ ?_ leads
            ((touch_conclude inner.reached handle outcome).rollsBackTo inner.reached)
          · rw [unscoped.manager, inner.inOrder.resource]
          · rw [unscoped.manager, inner.inOrder.registry]
          · rw [unscoped.context?, inner.context?, found]

/-- A call whose scope was granted ends as concluding the scope does. -/
theorem run_transaction_of_opened {nesting : Bool} (body : Handle → Body thread graph χ α)
    {scene : Scene χ} {handle : Handle} {started : World}
    (opened : scene.world.openScope thread (.graph graph) nesting = (.ok handle, started)) :
    let left := (body handle).run ⟨started, scene.rest⟩
    ((transaction nesting body).run scene).1 = (left.2.world.conclude handle left.1).1 ∧
      ((transaction nesting body).run scene).2.world.store graph =
        (left.2.world.conclude handle left.1).2.store graph := by
  rw [run_transaction, opened]
  exact ⟨rfl, rfl⟩

end Body

/-- A new graph is in order, has no scopes, and goes back to being empty. -/
theorem upheld_addGraph {start fresh : World} {config : TransactionConfig}
    (made : start.addGraph true config = (graph, fresh)) (thread : ThreadId) :
    InOrder thread graph fresh ∧ fresh.context? thread graph = none ∧
      (fresh.store graph).RollsBackTo Content.empty := by
  obtain ⟨rfl, rfl⟩ := Prod.mk.inj made
  have unscoped : (start.addGraph true config).2.context? thread ⟨start.nextGraph⟩ = none := by
    simp only [addGraph, addManager, if_true, World.context?, registry_setRegistry_self]
    rfl
  have manager : (start.addGraph true config).2.manager (.graph ⟨start.nextGraph⟩) =
      ⟨.graph ⟨start.nextGraph⟩, .graph ⟨start.nextGraph⟩, config⟩ := by
    simp [addGraph, addManager, World.manager, setRegistry, Dict.getD]
  refine ⟨⟨?_, ?_, ?_⟩, unscoped, ?_⟩
  · exact congrArg Manager.resource manager
  · exact congrArg Manager.registry manager
  · intro context found
    exact absurd (unscoped.symm.trans found) (by simp)
  · have reached := Store.atBoundary_empty.rollsBackTo
    rw [Store.content_empty, ← store_addGraph start true config] at reached
    exact reached

/-- Atomicity.  Whatever a thread has done with a graph before, an outermost transaction call on it
starts if transactions are enabled, and ends as its body ends.  Nothing is pending afterwards.  If
the body succeeded, the graph has the content that the body left, and otherwise the content that
was committed last when the body ended: within the body, when the call started, or before. -/
theorem transaction_atomic {start fresh : World} {config : TransactionConfig}
    (made : start.addGraph true config = (graph, fresh)) (rest : χ)
    (earlier : Body thread graph χ β) (nesting : Bool) (body : Handle → Body thread graph χ α)
    (enabled : ((earlier.run ⟨fresh, rest⟩).2.world.manager (.graph graph)).config.disabled =
      false) :
    let scene := (earlier.run ⟨fresh, rest⟩).2
    let kept := earlier.committed ⟨fresh, rest⟩ Content.empty
    let call := (Body.transaction nesting body).run scene
    let final := call.2.world.store graph
    ∃ handle started, scene.world.openScope thread (.graph graph) nesting = (.ok handle, started) ∧
      let opened : Scene χ := ⟨started, scene.rest⟩
      let left := (body handle).run opened
      call.1 = left.1 ∧
      final.hasPendingChanges = false ∧
      (∀ value, call.1 = .done value → final.content = (left.2.world.store graph).content) ∧
      ((∀ value, call.1 ≠ .done value) → final.content =
        (body handle).committed opened (World.committed graph scene.world started kept)) := by
  intro scene kept call final
  obtain ⟨freshInOrder, freshContext, freshReached⟩ := upheld_addGraph made thread
  have before : Upheld thread graph fresh scene.world kept :=
    Body.upheld_run earlier ⟨fresh, rest⟩ Content.empty freshInOrder freshReached
  have outermost : scene.world.context? thread graph = none := before.context?.trans freshContext
  obtain ⟨handle, started, opened, base⟩ := openScope_outermost before.inOrder
    before.reached.isTransactional outermost enabled nesting
  have opening := opening_openScope before.inOrder before.reached nesting
  rw [opened] at opening
  cases opening with
  | granted _ _ facts =>
      have left := Body.upheld_run (body handle) ⟨started, scene.rest⟩
        (World.committed graph scene.world started kept) (facts.inOrder before.inOrder)
        (facts.touch.rollsBackTo before.reached)
      have live := facts.isLive left.context?
      have resource : handle.key.resource = .graph graph := by rw [facts.key]
      obtain ⟨sameOutcome, ended⟩ := conclude_base left.reached.isTransactional live base resource
        ((body handle).run ⟨started, scene.rest⟩).1
      obtain ⟨callOutcome, callStore⟩ := Body.run_transaction_of_opened body opened
      have outcome : call.1 = ((body handle).run ⟨started, scene.rest⟩).1 :=
        callOutcome.trans sameOutcome
      have store : final = _ := callStore.trans ended
      have settled : final.Settled := by
        rw [store]
        split
        · exact left.reached.atBoundary_commit.settled
        · exact left.reached.atBoundary_abort.settled
      refine ⟨handle, started, opened, outcome, ?_, ?_, ?_⟩
      · simpa using settled.not_pending
      · intro value succeeded
        rw [outcome] at succeeded
        rw [store, succeeded]
        rfl
      · intro unsuccessful
        rw [outcome] at unsuccessful
        rw [store]
        split
        · next value succeeded => exact absurd succeeded (unsuccessful value)
        · exact left.reached.content_abort

/-- On the first thread, the first graph takes a vertex. -/
def writeVertex : Body ⟨0⟩ ⟨1⟩ Unit Store.Answer := .act (.write (.addVertex Dict.empty))

def writeAndFail (_ : Handle) : Body ⟨0⟩ ⟨1⟩ Unit Unit :=
  writeVertex.andThen fun _ => Body.fail .noGraph

/-- The vertex is pending when a transaction starts that takes a second one and fails. -/
def failingCall : Outcome Unit × Scene Unit :=
  (Body.transaction false writeAndFail).run
    (writeVertex.run ⟨(World.empty.addGraph true TransactionConfig.standard).2, ()⟩).2

/-- A vertex that is pending when a transaction starts is committed then, and stays when the
transaction fails; the vertex that the transaction adds does not. -/
theorem failing_transaction_keeps_commit :
    failingCall.1 = .failed .noGraph ∧
      (failingCall.2.world.store ⟨1⟩).hasPendingChanges = false ∧
      (failingCall.2.world.store ⟨1⟩).vertexIds = [⟨1⟩] := by
  have made : World.empty.addGraph true TransactionConfig.standard =
      (⟨1⟩, (World.empty.addGraph true TransactionConfig.standard).2) := rfl
  obtain ⟨_, _, _, _, settled, _⟩ :=
    transaction_atomic made () writeVertex false writeAndFail rfl
  exact ⟨rfl, settled, rfl⟩

end RoutedGraph
