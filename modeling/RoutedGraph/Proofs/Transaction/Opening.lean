import RoutedGraph.Proofs.Transaction.Contexts

/-!
# Opening a scope

Opening a scope ends in one of three ways: its strategy is refused, closing
what is pending fails, or the scope is bound.  In the first two it has only
been counted in.
-/

namespace RoutedGraph

namespace World

/-- Enter a scope and start it. -/
def openScope (world : World) (thread : ThreadId) (id : ManagerId) (nesting : Bool) :
    Except TransactionError Handle × World :=
  let (previous, entered) := world.enter (world.manager id).registry (world.key thread id)
  entered.start thread id previous nesting

variable (world : World) (thread : ThreadId) (id : ManagerId)

/-- Whether a manager works with its resource for real. -/
def isNative : Bool :=
  !(world.manager id).config.disabled && world.takesPart (world.manager id).resource

/-- The registry of a manager. -/
def registryId : ManagerId := (world.manager id).registry

/-- The context that a scope is entered from, vacant if it is the outermost one. -/
def enclosing : Context :=
  (world.contextAt? (world.registryId id) (world.key thread id)).getD Context.vacant

theorem depth_eq : world.depth thread id = (world.enclosing thread id).depth := rfl

/-- The token of a scope and the world in which it has been counted in. -/
def minted : Token × World :=
  (world.enter (world.registryId id) (world.key thread id)).2.takeToken (world.registryId id)
    (world.key thread id) (world.depth thread id)

/-- Close what is pending before a scope that reaches its resource. -/
def closeFor (strategy : Strategy) : Except TransactionError Unit × World :=
  if strategy.isReal then world.closeImplicit id else (.ok (), world)

/-- Opening a scope counts it in, selects its strategy, closes what is pending, and binds it. -/
theorem openScope_eq (nesting : Bool) :
    world.openScope thread id nesting =
      match Strategy.select (world.isNative id) (world.depth thread id) nesting with
      | .error error => (.error error, (world.enter (world.registryId id) (world.key thread id)).2)
      | .ok strategy =>
          let closing := (world.minted thread id).2.closeFor id strategy
          match closing.1 with
          | .error error => (.error error, closing.2)
          | .ok () =>
              let binding := closing.2.bindScope (world.registryId id) (world.key thread id)
                (world.depth thread id) strategy (world.minted thread id).1
              (.ok binding.1, binding.2) := rfl

theorem BoundaryFrame.closeFor {kept : World → World → Prop} (frame : BoundaryFrame kept)
    (strategy : Strategy) : kept world (world.closeFor id strategy).2 := by
  unfold World.closeFor
  split
  · exact frame.closeImplicit world id
  · exact frame.refl world

theorem sameScopes_closeFor (strategy : Strategy) :
    SameScopes world (world.closeFor id strategy).2 :=
  sameScopes_frame.closeFor world id strategy

theorem sameScopes_takeToken (registry : ManagerId) (key : ContextKey) (previous : Nat) :
    SameScopes world (world.takeToken registry key previous).2 := by
  unfold takeToken
  split <;> exact ⟨⟨rfl, rfl⟩, rfl⟩

/-- An inner scope takes the token of the scopes around it. -/
theorem takeToken_of_open {registry : ManagerId} {key : ContextKey} {previous : Nat}
    (inner : 0 < previous) {context : Context}
    (found : world.contextAt? registry key = some context) {token : Token}
    (same : context.token = some token) :
    (world.takeToken registry key previous).1 = token := by
  have stored : (world.registry registry).contexts.get? key = some context := found
  have known : (world.registry registry).token? key = some token := by
    simp [Registry.token?, Registry.context, Dict.getD, stored, same]
  cases previous with
  | zero => omega
  | succ previous => simp [takeToken, known]

/-- A scope has been counted in but is not bound. -/
structure CountedIn (after : World) : Prop where
  managers : after.managers = world.managers
  nextScope : after.nextScope = world.nextScope
  contexts : ∀ registry key, after.contextAt? registry key =
    if registry = world.registryId id ∧ key = world.key thread id then
      some (world.enclosing thread id).deepen
    else world.contextAt? registry key

/-- A scope has been bound, and its handle says under which number, token and strategy. -/
structure Bound (nesting : Bool) (handle : Handle) (started : World) : Prop where
  registry : handle.registry = world.registryId id
  key : handle.key = world.key thread id
  scope : handle.scope = ⟨world.nextScope⟩
  depth : handle.depth = (world.enclosing thread id).depth + 1
  strategy : Strategy.select (world.isNative id) (world.enclosing thread id).depth nesting =
    .ok handle.strategy
  token : 0 < (world.enclosing thread id).depth →
    ∀ token, (world.enclosing thread id).token = some token → handle.token = token
  managers : started.managers = world.managers
  nextScope : started.nextScope = world.nextScope + 1
  contexts : ∀ registry key, started.contextAt? registry key =
    if registry = world.registryId id ∧ key = world.key thread id then
      some ((world.enclosing thread id).deepen.bind handle.token handle.strategy handle.scope)
    else world.contextAt? registry key

theorem countedIn_enter :
    CountedIn world thread id (world.enter (world.registryId id) (world.key thread id)).2 where
  managers := rfl
  nextScope := rfl
  contexts registry key := world.contextAt?_enter _ registry _ key

variable {world thread id}

/-- A graph that takes part in transactions does not fail to close what is pending. -/
theorem closeImplicit_ok {graph : GraphId}
    (resource : (world.manager (.graph graph)).resource = .graph graph)
    (transactional : (world.store graph).isTransactional = true) :
    (world.closeImplicit (.graph graph)).1 = .ok () := by
  unfold closeImplicit
  simp only [resource]
  split
  · rfl
  · simp [abortAll, transactional]
  · rfl

theorem CountedIn.sameScopes (counted : CountedIn world thread id middle)
    (same : SameScopes middle after) : CountedIn world thread id after where
  managers := same.managers.trans counted.managers
  nextScope := same.nextScope.trans counted.nextScope
  contexts registry key := by rw [same.contextAt?, counted.contexts]

theorem countedIn_closing (world : World) (thread : ThreadId) (id : ManagerId)
    (strategy : Strategy) :
    CountedIn world thread id ((world.minted thread id).2.closeFor id strategy).2 :=
  ((world.countedIn_enter thread id).sameScopes (sameScopes_takeToken _ _ _ _)).sameScopes
    (sameScopes_closeFor _ id strategy)

theorem CountedIn.at_key (counted : CountedIn world thread id after) :
    after.contextAt? (world.registryId id) (world.key thread id) =
      some (world.enclosing thread id).deepen := by
  rw [counted.contexts, if_pos ⟨rfl, rfl⟩]

theorem minted_token (inner : 0 < (world.enclosing thread id).depth) {token : Token}
    (same : (world.enclosing thread id).token = some token) :
    (world.minted thread id).1 = token :=
  takeToken_of_open _ inner (world.countedIn_enter thread id).at_key same

/-- A call that does not start has only counted its scope in. -/
theorem countedIn_openScope {nesting : Bool} {error : TransactionError} {refused : World}
    (opened : world.openScope thread id nesting = (.error error, refused)) :
    CountedIn world thread id refused := by
  rw [openScope_eq] at opened
  split at opened
  · obtain ⟨-, rfl⟩ := Prod.mk.inj opened
    exact world.countedIn_enter thread id
  · next strategy selected =>
      dsimp only at opened
      split at opened
      · obtain ⟨-, rfl⟩ := Prod.mk.inj opened
        exact countedIn_closing _ _ _ strategy
      · cases (Prod.mk.inj opened).1

/-- A call that starts has bound its scope. -/
theorem bound_openScope {nesting : Bool} {handle : Handle} {started : World}
    (opened : world.openScope thread id nesting = (.ok handle, started)) :
    Bound world thread id nesting handle started := by
  rw [openScope_eq] at opened
  split at opened
  · cases (Prod.mk.inj opened).1
  · next strategy selected =>
      have counted := world.countedIn_closing thread id strategy
      dsimp only at opened
      split at opened
      · cases (Prod.mk.inj opened).1
      · generalize ((world.minted thread id).2.closeFor id strategy).2 = ready
          at counted opened
        obtain ⟨granted, rfl⟩ := Prod.mk.inj opened
        obtain rfl := Except.ok.inj granted
        exact
          { registry := rfl
            key := rfl
            scope := congrArg ScopeId.mk counted.nextScope
            depth := rfl
            strategy := selected
            token := fun inner token same => minted_token inner same
            managers := counted.managers
            nextScope := congrArg (· + 1) counted.nextScope
            contexts := fun registry key => by
              rw [contextAt?_bindScope, counted.at_key, counted.contexts]
              split <;> rfl }

end World

end RoutedGraph
