import RoutedGraph.Proofs.World.Frame
import RoutedGraph.World.Transaction

/-!
# Contexts and boundaries

Entering a scope deepens a context and binding it adds its strategy and
identity; leaving it gives back the context that was there before, or none if
it was the outermost scope.  A context is looked up by its registry and its
key, and each of these changes one look-up.  However a scope is asked to commit,
to roll back or to end, all that happens is that resources are committed and
aborted and that the log is written.  What these three leave as it was is left
by everything that is done through handles, and they change no context.
-/

namespace RoutedGraph

namespace Context

/-- A context as open scopes make it: it has a token, and a strategy and an identity for each. -/
structure WellFormed (context : Context) : Prop where
  depth_pos : 0 < context.depth
  token : context.token.isSome = true
  strategies : context.strategies.length = context.depth
  scopes : context.scopes.length = context.depth

theorem WellFormed.leave?_deepen {context : Context} (wellFormed : context.WellFormed) :
    context.deepen.leave? = some context := by
  have positive := wellFormed.depth_pos
  have strategies := List.take_of_length_le (Nat.le_of_eq wellFormed.strategies)
  have scopes := List.take_of_length_le (Nat.le_of_eq wellFormed.scopes)
  have inner : context.depth ≠ 0 := by omega
  simp [leave?, deepen, inner, strategies, scopes]

theorem WellFormed.leave?_bind {context : Context} (wellFormed : context.WellFormed)
    {token : Token} (same : context.token = some token) (strategy : Strategy) (scope : ScopeId) :
    (context.deepen.bind token strategy scope).leave? = some context := by
  have positive := wellFormed.depth_pos
  have inner : context.depth ≠ 0 := by omega
  have strategies : (context.strategies ++ [strategy]).take context.depth = context.strategies := by
    rw [← wellFormed.strategies]
    exact List.take_left
  have scopes : (context.scopes ++ [scope]).take context.depth = context.scopes := by
    rw [← wellFormed.scopes]
    exact List.take_left
  simp [leave?, deepen, Context.bind, inner, strategies, scopes, ← same]

theorem WellFormed.bind {context : Context} (wellFormed : context.WellFormed) (token : Token)
    (strategy : Strategy) (scope : ScopeId) :
    (context.deepen.bind token strategy scope).WellFormed where
  depth_pos := Nat.succ_pos _
  token := rfl
  strategies := by simp [deepen, Context.bind, wellFormed.strategies]
  scopes := by simp [deepen, Context.bind, wellFormed.scopes]

theorem WellFormed.isOpen_bind {context : Context} (wellFormed : context.WellFormed)
    (token : Token) (strategy : Strategy) (scope : ScopeId) :
    (context.deepen.bind token strategy scope).isOpen scope (context.depth + 1) = true := by
  simp [isOpen, deepen, Context.bind, ← wellFormed.scopes]

theorem wellFormed_bind_vacant (token : Token) (strategy : Strategy) (scope : ScopeId) :
    (vacant.deepen.bind token strategy scope).WellFormed :=
  ⟨Nat.succ_pos _, rfl, rfl, rfl⟩

end Context

namespace Registry

theorem snapshot?_exit_self (registry : Registry) (key : ContextKey) :
    (registry.exit key).snapshot? key = (registry.snapshot? key).bind Context.leave? := by
  cases found : registry.contexts.get? key with
  | none => simp [Registry.exit, snapshot?, found]
  | some context =>
      cases left : context.leave? with
      | none => simp [Registry.exit, snapshot?, found, left]
      | some rest => simp [Registry.exit, snapshot?, found, left]

theorem snapshot?_exit_of_ne (registry : Registry) {key other : ContextKey}
    (different : key ≠ other) : (registry.exit key).snapshot? other = registry.snapshot? other := by
  unfold Registry.exit
  split
  · rfl
  · split
    · exact Dict.get?_erase_of_ne _ different
    · exact Dict.get?_insert_of_ne _ different _

end Registry

namespace World

variable {world before middle after : World}

/-- The context that a registry holds under a key. -/
def contextAt? (world : World) (registry : ManagerId) (key : ContextKey) : Option Context :=
  (world.registry registry).snapshot? key

theorem contextAt?_setRegistry (world : World) (registry other : ManagerId) (content : Registry)
    (key : ContextKey) :
    (world.setRegistry registry content).contextAt? other key =
      if other = registry then content.snapshot? key else world.contextAt? other key := by
  by_cases same : other = registry
  · simp [contextAt?, same]
  · simp [contextAt?, same, registry_setRegistry_of_ne world (Ne.symm same)]

/-- Entering a scope deepens the context under its key. -/
theorem contextAt?_enter (world : World) (registry other : ManagerId) (key otherKey : ContextKey) :
    (world.enter registry key).2.contextAt? other otherKey =
      if other = registry ∧ otherKey = key then
        some ((world.contextAt? registry key).getD Context.vacant).deepen
      else world.contextAt? other otherKey := by
  simp only [enter, contextAt?_setRegistry]
  by_cases sameRegistry : other = registry
  · by_cases sameKey : otherKey = key
    · simp [sameRegistry, sameKey, Registry.enter, Registry.snapshot?, Registry.context, contextAt?,
        Dict.getD]
    · simp [sameRegistry, sameKey, Registry.enter, Registry.snapshot?, contextAt?,
        Dict.get?_insert_of_ne, Ne.symm sameKey]
  · simp [sameRegistry]

/-- Binding a scope adds it to the context under its key. -/
theorem contextAt?_bindScope (world : World) (registry other : ManagerId)
    (key otherKey : ContextKey) (previous : Nat) (strategy : Strategy) (token : Token) :
    (world.bindScope registry key previous strategy token).2.contextAt? other otherKey =
      if other = registry ∧ otherKey = key then
        some (((world.contextAt? registry key).getD Context.vacant).bind token strategy
          ⟨world.nextScope⟩)
      else world.contextAt? other otherKey := by
  have unlogged : ∀ (bound : World) (event : LogEvent),
      (bound.emit event).contextAt? other otherKey = bound.contextAt? other otherKey :=
    fun _ _ => rfl
  simp only [bindScope, unlogged, contextAt?_setRegistry]
  by_cases sameRegistry : other = registry
  · by_cases sameKey : otherKey = key
    · simp [sameRegistry, sameKey, Registry.bind, Registry.snapshot?, Registry.context, contextAt?,
        Dict.getD, World.registry]
    · simp [sameRegistry, sameKey, Registry.bind, Registry.snapshot?, contextAt?, World.registry,
        Dict.get?_insert_of_ne, Ne.symm sameKey]
  · simp [sameRegistry, contextAt?, World.registry]

/-- Leaving a scope takes it out of the context under its key. -/
theorem contextAt?_leave (world : World) (registry other : ManagerId) (key otherKey : ContextKey) :
    (world.leave registry key).contextAt? other otherKey =
      if other = registry ∧ otherKey = key then (world.contextAt? registry key).bind Context.leave?
      else world.contextAt? other otherKey := by
  simp only [leave, contextAt?_setRegistry]
  by_cases sameRegistry : other = registry
  · by_cases sameKey : otherKey = key
    · simp only [sameRegistry, sameKey, and_self, if_true]
      exact Registry.snapshot?_exit_self _ key
    · simp only [sameRegistry, sameKey, and_false, if_true, if_false]
      exact Registry.snapshot?_exit_of_ne _ (Ne.symm sameKey)
  · simp [sameRegistry]

/-- A relation that holds between the worlds before and after whatever happens at a boundary. -/
structure BoundaryFrame (kept : World → World → Prop) : Prop where
  refl : ∀ world, kept world world
  trans : ∀ {before middle after}, kept before middle → kept middle after → kept before after
  emit : ∀ world event, kept world (world.emit event)
  commitAll : ∀ world resource, kept world (world.commitAll resource).2
  abortAll : ∀ world resource, kept world (world.abortAll resource).2

namespace BoundaryFrame

variable {kept : World → World → Prop} (frame : BoundaryFrame kept) (world : World)
  (handle : Handle)

include frame

theorem closeImplicit (id : ManagerId) : kept world (world.closeImplicit id).2 := by
  unfold World.closeImplicit
  dsimp only
  split
  · exact frame.commitAll world _
  · exact frame.abortAll world _
  · exact frame.refl world

theorem commit : kept world (world.commit handle).2 := by
  unfold World.commit
  split
  · unfold commitLive
    split
    · have committed := frame.commitAll world handle.key.resource
      generalize world.commitAll handle.key.resource = outcome at committed
      obtain ⟨result, later⟩ := outcome
      cases result with
      | ok value => exact frame.trans committed (frame.emit later _)
      | error error => exact committed
    all_goals exact frame.emit world _
  · exact frame.refl world

theorem finishRollback (message : Option String) (unwinding : Bool) :
    kept world (world.finishRollback handle message unwinding).2 := by
  unfold World.finishRollback
  split
  · have noted := frame.emit world (.rolledBack handle.token handle.strategy message)
    unfold rollbackLive
    dsimp only
    split
    · exact frame.trans noted (frame.abortAll _ _)
    · split <;> exact noted
  · exact frame.refl world

theorem unwind (message : String) : kept world (world.unwind handle message) := by
  have rolledBack := frame.finishRollback world handle (some message) true
  unfold World.unwind
  split
  · next unwound finished =>
      rw [finished] at rolledBack
      exact rolledBack
  · next error stuck finished =>
      rw [finished] at rolledBack
      exact frame.trans rolledBack (frame.emit stuck _)

/-- However a scope ends, what it does before it is left stays within the frame. -/
theorem conclude {α : Type} (outcome : Outcome α) :
    kept world (world.conclude handle outcome).2 := by
  cases outcome with
  | done value =>
      have committed := frame.commit world handle
      simp only [World.conclude]
      split
      · next final ended =>
          rw [ended] at committed
          exact committed
      · next error refused ended =>
          rw [ended] at committed
          exact frame.trans committed (frame.unwind refused handle error.message)
  | failed error => exact frame.unwind world handle error.message
  | panicked message => exact frame.unwind world handle "panicked"

end BoundaryFrame

/-- No manager and no registry is changed. -/
structure Unscoped (before after : World) : Prop where
  managers : after.managers = before.managers
  registries : after.registries = before.registries

theorem Unscoped.trans (first : Unscoped before middle)
    (second : Unscoped middle after) : Unscoped before after :=
  ⟨second.managers.trans first.managers, second.registries.trans first.registries⟩

theorem Unscoped.manager (unscoped : Unscoped before after) (id : ManagerId) :
    after.manager id = before.manager id := by
  simp only [World.manager, unscoped.managers]

theorem Unscoped.contextAt? (unscoped : Unscoped before after) (registry : ManagerId)
    (key : ContextKey) : after.contextAt? registry key = before.contextAt? registry key := by
  simp only [World.contextAt?, World.registry, unscoped.registries]

theorem Unscoped.isLive (unscoped : Unscoped before after) (handle : Handle) :
    after.isLive handle = before.isLive handle := by
  simp only [World.isLive, World.registry, unscoped.registries]

/-- No manager, no registry and no numbering of scopes is changed. -/
structure SameScopes (before after : World) : Prop extends Unscoped before after where
  nextScope : after.nextScope = before.nextScope

theorem SameScopes.refl (world : World) : SameScopes world world := ⟨⟨rfl, rfl⟩, rfl⟩

theorem SameScopes.trans (first : SameScopes before middle) (second : SameScopes middle after) :
    SameScopes before after :=
  ⟨first.toUnscoped.trans second.toUnscoped, second.nextScope.trans first.nextScope⟩

theorem sameScopes_emit (world : World) (event : LogEvent) : SameScopes world (world.emit event) :=
  ⟨⟨rfl, rfl⟩, rfl⟩

theorem sameScopes_commitAll (world : World) (resource : ResourceId) :
    SameScopes world (world.commitAll resource).2 := by
  cases resource <;> exact ⟨⟨rfl, rfl⟩, rfl⟩

theorem sameScopes_abortAll (world : World) (resource : ResourceId) :
    SameScopes world (world.abortAll resource).2 := by
  cases resource with
  | graph id =>
      unfold abortAll
      dsimp only
      split <;> exact ⟨⟨rfl, rfl⟩, rfl⟩
  | external number => exact ⟨⟨rfl, rfl⟩, rfl⟩

theorem sameScopes_frame : BoundaryFrame SameScopes where
  refl := SameScopes.refl
  trans := SameScopes.trans
  emit := sameScopes_emit
  commitAll := sameScopes_commitAll
  abortAll := sameScopes_abortAll

theorem sameScopes_closeImplicit (world : World) (id : ManagerId) :
    SameScopes world (world.closeImplicit id).2 :=
  sameScopes_frame.closeImplicit world id

theorem sameScopes_commit (world : World) (handle : Handle) :
    SameScopes world (world.commit handle).2 :=
  sameScopes_frame.commit world handle

theorem sameScopes_finishRollback (world : World) (handle : Handle) (message : Option String)
    (unwinding : Bool) : SameScopes world (world.finishRollback handle message unwinding).2 :=
  sameScopes_frame.finishRollback world handle message unwinding

/-- However a scope ends, what it does before it is left changes no context. -/
theorem sameScopes_conclude (world : World) (handle : Handle) {α : Type} (outcome : Outcome α) :
    SameScopes world (world.conclude handle outcome).2 :=
  sameScopes_frame.conclude world handle outcome

end World

end RoutedGraph
