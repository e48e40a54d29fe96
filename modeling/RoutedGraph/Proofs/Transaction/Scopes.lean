import RoutedGraph.Proofs.Transaction.Touch

/-!
# Scopes of one graph

A thread that opens a scope on a graph of its own manager finds a context that
gives back the former one when the scope is left, and in which the handle of
the scope is live.  What is done within the scope touches the store but no
context, so that the handle stays live until the scope is left.
-/

namespace RoutedGraph

namespace World

/-- A graph has its own manager and registry, and what the registry has for a thread is as open
scopes make it. -/
structure InOrder (thread : ThreadId) (graph : GraphId) (world : World) : Prop where
  resource : (world.manager (.graph graph)).resource = .graph graph
  registry : (world.manager (.graph graph)).registry = .graph graph
  wellFormed : ∀ context, world.context? thread graph = some context → context.WellFormed

variable {thread : ThreadId} {graph : GraphId} {world after : World} {kept : Content}

theorem Unscoped.context? (unscoped : Unscoped world after) :
    after.context? thread graph = world.context? thread graph :=
  unscoped.contextAt? (.graph graph) ⟨thread, .graph graph⟩

theorem InOrder.of_same (inOrder : InOrder thread graph world)
    (sameManager : after.manager (.graph graph) = world.manager (.graph graph))
    (sameContext : after.context? thread graph = world.context? thread graph) :
    InOrder thread graph after where
  resource := by rw [sameManager, inOrder.resource]
  registry := by rw [sameManager, inOrder.registry]
  wellFormed := by rw [sameContext]; exact inOrder.wellFormed

theorem InOrder.key (inOrder : InOrder thread graph world) :
    world.key thread (.graph graph) = ⟨thread, .graph graph⟩ := by
  simp [World.key, inOrder.resource]

/-- An action leaves the contexts alone, and all of a manager but its configuration. -/
theorem inOrder_perform (inOrder : InOrder thread graph world) {α : Type}
    (action : GraphAction α) :
    InOrder thread graph (action.perform graph world).2 ∧
      (action.perform graph world).2.context? thread graph = world.context? thread graph := by
  have unscoped : ∀ {after : World}, Unscoped world after →
      InOrder thread graph after ∧ after.context? thread graph = world.context? thread graph :=
    fun same => ⟨inOrder.of_same (same.manager _) same.context?, same.context?⟩
  cases action with
  | read look => exact unscoped ⟨rfl, rfl⟩
  | write change => exact unscoped ⟨rfl, rfl⟩
  | cloneVertex source vertex =>
      refine unscoped ?_
      simp only [GraphAction.perform, graphical, cloneVertex, emitAll_eq]
      split <;> exact ⟨rfl, rfl⟩
  | cloneEdge source edge options =>
      refine unscoped ?_
      simp only [GraphAction.perform, graphical, cloneEdge, emitAll_eq]
      split <;> exact ⟨rfl, rfl⟩
  | commit handle => exact unscoped (world.sameScopes_commit handle).toUnscoped
  | rollback handle message =>
      exact unscoped (world.sameScopes_finishRollback handle message false).toUnscoped
  | commitImplicit => exact unscoped (world.sameScopes_commitAll _).toUnscoped
  | rollbackImplicit => exact unscoped (world.sameScopes_abortAll _).toUnscoped
  | closeImplicit => exact unscoped (world.sameScopes_closeImplicit _).toUnscoped
  | configure change =>
      refine ⟨⟨?_, ?_, inOrder.wellFormed⟩, rfl⟩
      · simpa [GraphAction.perform, configure, World.manager, Dict.getD] using inOrder.resource
      · simpa [GraphAction.perform, configure, World.manager, Dict.getD] using inOrder.registry

/-- What opening a scope leads to if it is refused: only the depth has been counted. -/
structure Refused (thread : ThreadId) (graph : GraphId) (before refused : World) : Prop where
  touch : Touch graph before refused
  manager : refused.manager (.graph graph) = before.manager (.graph graph)
  context : ∃ entered, refused.context? thread graph = some entered ∧
    entered.leave? = before.context? thread graph

/-- What opening a scope leads to if it is granted: a context that gives back the former one when
it is left, and in which the handle is live. -/
structure Opened (thread : ThreadId) (graph : GraphId) (before started : World)
    (handle : Handle) : Prop where
  touch : Touch graph before started
  manager : started.manager (.graph graph) = before.manager (.graph graph)
  key : handle.key = ⟨thread, .graph graph⟩
  registry : handle.registry = .graph graph
  context : ∃ bound, started.context? thread graph = some bound ∧ bound.WellFormed ∧
    bound.leave? = before.context? thread graph ∧ bound.token = some handle.token ∧
    bound.isOpen handle.scope handle.depth = true

/-- How opening a scope ends. -/
inductive Opening (thread : ThreadId) (graph : GraphId) (before : World) :
    Except TransactionError Handle × World → Prop where
  | refused (error : TransactionError) (refused : World)
      (facts : Refused thread graph before refused) :
      Opening thread graph before (.error error, refused)
  | granted (handle : Handle) (started : World)
      (facts : Opened thread graph before started handle) :
      Opening thread graph before (.ok handle, started)

/-- The context that a scope is entered in: none, or one that open scopes made. -/
theorem InOrder.entered (inOrder : InOrder thread graph world) :
    ((world.context? thread graph).getD Context.vacant).deepen.leave? =
      world.context? thread graph := by
  cases former : world.context? thread graph with
  | none => rfl
  | some context => exact (inOrder.wellFormed context former).leave?_deepen

/-- Binding a scope that has just been entered, with the token of the scopes around it. -/
theorem InOrder.bound (inOrder : InOrder thread graph world) {token : Token}
    (same : ∀ context, world.context? thread graph = some context → context.token = some token)
    (strategy : Strategy) (scope : ScopeId) :
    let former := (world.context? thread graph).getD Context.vacant
    let bound := former.deepen.bind token strategy scope
    bound.WellFormed ∧ bound.leave? = world.context? thread graph ∧
      bound.token = some token ∧ bound.isOpen scope (former.depth + 1) = true := by
  intro former bound
  cases found : world.context? thread graph with
  | none =>
      have fresh : former = Context.vacant := by simp [former, found]
      rw [show bound = Context.vacant.deepen.bind token strategy scope by simp [bound, fresh],
        fresh]
      refine ⟨Context.wellFormed_bind_vacant token strategy scope, rfl, rfl, ?_⟩
      simp [Context.isOpen, Context.bind, Context.deepen, Context.vacant]
  | some context =>
      have known : former = context := by simp [former, found]
      have wellFormed := inOrder.wellFormed context found
      rw [show bound = context.deepen.bind token strategy scope by simp [bound, known], known]
      exact ⟨wellFormed.bind token strategy scope,
        wellFormed.leave?_bind (same context found) strategy scope, rfl,
        wellFormed.isOpen_bind token strategy scope⟩

theorem InOrder.contextAt?_eq (inOrder : InOrder thread graph world) (after : World) :
    after.contextAt? (world.registryId (.graph graph)) (world.key thread (.graph graph)) =
      after.context? thread graph := by
  rw [registryId, inOrder.registry, inOrder.key]
  rfl

theorem InOrder.enclosing (inOrder : InOrder thread graph world) :
    world.enclosing thread (.graph graph) =
      (world.context? thread graph).getD Context.vacant := by
  rw [World.enclosing, inOrder.contextAt?_eq]

/-- A scope has the token of the scopes around it. -/
theorem InOrder.token (inOrder : InOrder thread graph world) {nesting : Bool} {handle : Handle}
    {started : World} (bound : Bound world thread (.graph graph) nesting handle started)
    {context : Context} (found : world.context? thread graph = some context) :
    context.token = some handle.token := by
  have wellFormed := inOrder.wellFormed context found
  have enclosing : world.enclosing thread (.graph graph) = context := by
    rw [inOrder.enclosing, found, Option.getD_some]
  obtain ⟨token, same⟩ := Option.isSome_iff_exists.mp wellFormed.token
  rw [same, bound.token (enclosing ▸ wellFormed.depth_pos) token (enclosing ▸ same)]

/-- Counting a scope in and taking its token leaves every manager, store and commit alone. -/
theorem minted_frame (world : World) (thread : ThreadId) (id : ManagerId) (graph : GraphId) :
    (world.minted thread id).2.managers = world.managers ∧
      (world.minted thread id).2.store graph = world.store graph ∧
      (world.minted thread id).2.commits graph = world.commits graph := by
  unfold minted takeToken
  split <;> exact ⟨rfl, rfl, rfl⟩

/-- Closing what is pending is all that touches the store before a scope is bound. -/
theorem touch_closing (reached : (world.store graph).RollsBackTo kept) (thread : ThreadId)
    (id : ManagerId) (strategy : Strategy) :
    Touch graph world ((world.minted thread id).2.closeFor id strategy).2 := by
  obtain ⟨-, store, silent⟩ := world.minted_frame thread id graph
  have mintedReached : ((world.minted thread id).2.store graph).RollsBackTo kept :=
    store ▸ reached
  refine Touch.congr_left ?_ store silent
  unfold closeFor
  split
  · exact touch_closeImplicit mintedReached id
  · exact Touch.of_same mintedReached rfl rfl

theorem touch_openScope (reached : (world.store graph).RollsBackTo kept) (thread : ThreadId)
    (id : ManagerId) (nesting : Bool) :
    Touch graph world (world.openScope thread id nesting).2 := by
  rw [openScope_eq]
  split
  · exact Touch.of_same reached rfl rfl
  · next strategy selected =>
      have closing := touch_closing reached thread id strategy
      dsimp only
      split
      · exact closing
      · exact closing.congr_right rfl (commits_emit_of_other _ graph rfl)

/-- A scope is granted with a live handle, or refused with nothing but its depth counted. -/
theorem opening_openScope (inOrder : InOrder thread graph world)
    (reached : (world.store graph).RollsBackTo kept) (nesting : Bool) :
    Opening thread graph world (world.openScope thread (.graph graph) nesting) := by
  have touch := touch_openScope reached thread (.graph graph) nesting
  have manager {after : World} (same : after.managers = world.managers) :
      after.manager (.graph graph) = world.manager (.graph graph) := by
    simp only [World.manager, same]
  cases opened : world.openScope thread (.graph graph) nesting with
  | mk result after =>
      rw [opened] at touch
      cases result with
      | error error =>
          have counted := countedIn_openScope opened
          have context := counted.at_key
          rw [inOrder.contextAt?_eq, inOrder.enclosing] at context
          exact .refused _ _ ⟨touch, manager counted.managers, _, context, inOrder.entered⟩
      | ok handle =>
          have granted := bound_openScope opened
          have context := granted.contexts (world.registryId (.graph graph))
            (world.key thread (.graph graph))
          rw [if_pos ⟨rfl, rfl⟩, inOrder.contextAt?_eq, inOrder.enclosing] at context
          have depth := granted.depth
          rw [inOrder.enclosing] at depth
          refine .granted _ _ ⟨touch, manager granted.managers, granted.key.trans inOrder.key,
            granted.registry.trans inOrder.registry, _, context, ?_⟩
          rw [depth]
          exact inOrder.bound (fun _ found => inOrder.token granted found) _ _

/-- Where transactions are enabled, the outermost scope reaches its resource. -/
theorem openScope_outermost (inOrder : InOrder thread graph world)
    (transactional : (world.store graph).isTransactional = true)
    (outermost : world.context? thread graph = none)
    (enabled : (world.manager (.graph graph)).config.disabled = false) (nesting : Bool) :
    ∃ handle started, world.openScope thread (.graph graph) nesting = (.ok handle, started) ∧
      handle.strategy = .base := by
  have native : world.isNative (.graph graph) = true := by
    simp [isNative, enabled, inOrder.resource, takesPart, transactional]
  have depth : world.depth thread (.graph graph) = 0 := by
    rw [depth_eq, inOrder.enclosing, outermost]
    rfl
  obtain ⟨managers, store, -⟩ := world.minted_frame thread (.graph graph) graph
  have closed : ((world.minted thread (.graph graph)).2.closeImplicit (.graph graph)).1 =
      .ok () := by
    refine closeImplicit_ok ?_ (store ▸ transactional)
    simpa only [World.manager, managers] using inOrder.resource
  rw [openScope_eq, native, depth]
  simp only [Strategy.select, closeFor, Strategy.isReal, if_true, closed]
  exact ⟨_, _, rfl, rfl⟩

end World

end RoutedGraph
