import Mathlib.Data.List.Nodup
import RoutedGraph.Proofs.Transaction.Traffic

/-!
# Nesting

The scopes that are open under one key of a registry are nested: each is one
deeper than the one around it, all share a token, and only the outermost one
has a base strategy.  In a run of traffic, what a registry holds under a key is
at every moment the description of the running calls under this key, and no
two calls ever have the same scope.
-/

namespace RoutedGraph

namespace Strategy

/-- Whether a strategy is one of outermost scopes. -/
def isOutermost : Strategy → Bool
  | base => true
  | mockBase => true
  | nested => false
  | mockNested => false

/-- Outermost scopes have a strategy of their own. -/
theorem isOutermost_of_select {native nesting : Bool} {depth : Nat} {strategy : Strategy}
    (selected : select native depth nesting = .ok strategy) :
    strategy.isOutermost = decide (depth = 0) := by
  cases native <;> cases depth <;> cases nesting <;> cases selected <;> rfl

end Strategy

/-- The handles of nested scopes, innermost first. -/
inductive Stacked : List Handle → Prop where
  | none : Stacked []
  | within {outer : List Handle} (stacked : Stacked outer) (inner : Handle)
      (depth : inner.depth = outer.length + 1)
      (strategy : inner.strategy.isOutermost = decide (outer.length = 0))
      (token : ∀ handle ∈ outer, handle.token = inner.token) : Stacked (inner :: outer)

/-- The context that describes nested scopes, given innermost first. -/
def Context.ofScopes : List Handle → Option Context
  | [] => none
  | inner :: outer =>
      some
        ⟨outer.length + 1, some inner.token,
          (outer.map Handle.strategy).reverse ++ [inner.strategy],
          (outer.map Handle.scope).reverse ++ [inner.scope]⟩

namespace Context

theorem ofScopes_cons (inner : Handle) {outer : List Handle} (stacked : Stacked outer)
    (token : ∀ handle ∈ outer, handle.token = inner.token) :
    ofScopes (inner :: outer) =
      some (((ofScopes outer).getD vacant).deepen.bind inner.token inner.strategy inner.scope) := by
  cases stacked with
  | none => rfl
  | within => simp [ofScopes, deepen, Context.bind]

theorem depth_ofScopes (scopes : List Handle) :
    ((ofScopes scopes).getD vacant).depth = scopes.length := by
  cases scopes <;> rfl

theorem wellFormed_ofScopes {inner : Handle} {outer : List Handle} {context : Context}
    (described : ofScopes (inner :: outer) = some context) : context.WellFormed := by
  obtain rfl := Option.some.inj described
  exact ⟨Nat.succ_pos _, rfl, by simp, by simp⟩

/-- Leaving the innermost scope leaves the ones around it. -/
theorem leave?_ofScopes {inner : Handle} {outer : List Handle}
    (stacked : Stacked (inner :: outer)) :
    (ofScopes (inner :: outer)).bind leave? = ofScopes outer := by
  cases stacked with
  | within stacked _ depth strategy token =>
      rw [ofScopes_cons inner stacked token, Option.bind_some]
      cases outer with
      | nil => rfl
      | cons next rest =>
          have same : (some next.token) = some inner.token := by
            rw [token next List.mem_cons_self]
          exact (wellFormed_ofScopes rfl).leave?_bind same inner.strategy inner.scope

/-- Leaving a scope that was counted in but not bound leaves the ones around it. -/
theorem leave?_deepen_ofScopes (scopes : List Handle) :
    ((ofScopes scopes).getD vacant).deepen.leave? = ofScopes scopes := by
  cases scopes with
  | nil => rfl
  | cons inner outer => exact (wellFormed_ofScopes rfl).leave?_deepen

end Context

namespace Stacked

variable {scopes : List Handle} {handle other : Handle}

/-- A scope lies as deep as its handle says. -/
theorem scopes_at_depth (stacked : Stacked scopes) (member : handle ∈ scopes) :
    0 < handle.depth ∧ handle.depth ≤ scopes.length ∧
      (scopes.map Handle.scope).reverse[handle.depth - 1]? = some handle.scope := by
  induction stacked with
  | none => simp at member
  | @within outer stacked inner depth strategy token ih =>
      rcases List.mem_cons.mp member with rfl | deeper
      · refine ⟨by omega, by simp [depth], ?_⟩
        simp [depth]
      · obtain ⟨positive, bounded, found⟩ := ih deeper
        refine ⟨positive, by simp; omega, ?_⟩
        rw [List.map_cons, List.reverse_cons, List.getElem?_append_left (by simp; omega)]
        exact found

theorem token_eq {inner : Handle} {outer : List Handle} (stacked : Stacked (inner :: outer))
    (member : handle ∈ inner :: outer) : handle.token = inner.token := by
  cases stacked with
  | within stacked _ depth strategy token =>
      rcases List.mem_cons.mp member with rfl | deeper
      · rfl
      · exact token handle deeper

/-- There is one outermost scope. -/
theorem outermost_unique (stacked : Stacked scopes) (member : handle ∈ scopes)
    (otherMember : other ∈ scopes) (outermost : handle.strategy.isOutermost = true)
    (otherOutermost : other.strategy.isOutermost = true) : handle = other := by
  induction stacked with
  | none => simp at member
  | @within outer stacked inner depth strategy token ih =>
      by_cases alone : outer.length = 0
      · have empty : outer = [] := List.length_eq_zero_iff.mp alone
        rw [empty, List.mem_singleton] at member otherMember
        rw [member, otherMember]
      · have nested : inner.strategy.isOutermost = false := by rw [strategy]; simp [alone]
        have below : ∀ candidate ∈ inner :: outer, candidate.strategy.isOutermost = true →
            candidate ∈ outer := by
          intro candidate found isOutermost
          rcases List.mem_cons.mp found with rfl | deeper
          · rw [nested] at isOutermost
            cases isOutermost
          · exact deeper
        exact ih (below _ member outermost) (below _ otherMember otherOutermost)

end Stacked

/-- A context as nested scopes make it: the first strategy is one of outermost scopes, and no other
is. -/
structure Context.Nested (context : Context) : Prop extends context.WellFormed where
  outermost : ∃ first inner, context.strategies = first :: inner ∧
    first.isOutermost = true ∧ ∀ strategy ∈ inner, strategy.isOutermost = false

theorem Stacked.nested {scopes : List Handle} (stacked : Stacked scopes) {context : Context}
    (described : Context.ofScopes scopes = some context) : context.Nested := by
  have strategies : ∀ inner outer, Stacked (inner :: outer) → ∃ first rest,
      (outer.map Handle.strategy).reverse ++ [inner.strategy] = first :: rest ∧
        first.isOutermost = true ∧ ∀ strategy ∈ rest, strategy.isOutermost = false := by
    intro inner outer
    induction outer generalizing inner with
    | nil =>
        rintro ⟨⟩
        next strategy _ => exact ⟨inner.strategy, [], rfl, by simpa using strategy, by simp⟩
    | cons next rest ih =>
        rintro ⟨⟩
        next stacked depth strategy token =>
          obtain ⟨first, others, listed, outermost, nested⟩ := ih next stacked
          refine ⟨first, others ++ [inner.strategy], by simp [listed], outermost, ?_⟩
          intro other member
          rcases List.mem_append.mp member with earlier | last
          · exact nested other earlier
          · rw [List.mem_singleton.mp last, strategy]
            simp
  cases scopes with
  | nil => cases described
  | cons inner outer =>
      refine ⟨Context.wellFormed_ofScopes described, ?_⟩
      obtain rfl := Option.some.inj described
      exact strategies inner outer stacked

namespace Traffic

/-- What the registries hold is what the running calls say, and scopes are numbered in order. -/
structure Sound (traffic : Traffic) : Prop where
  contexts : ∀ registry key,
    traffic.world.contextAt? registry key = Context.ofScopes (traffic.scopesOf registry key)
  stacked : ∀ registry key, Stacked (traffic.scopesOf registry key)
  numbered : ∀ handle ∈ traffic.issued, handle.scope.raw < traffic.world.nextScope
  newestFirst : traffic.issued.Pairwise fun newer older => older.scope.raw < newer.scope.raw
  handedOut : traffic.running.Sublist traffic.issued

variable {traffic : Traffic} {thread : ThreadId} {id : ManagerId} {nesting : Bool}

theorem Sound.nodup_running (sound : traffic.Sound) : traffic.running.Nodup :=
  sound.handedOut.nodup (sound.newestFirst.imp fun lower same => by
    rw [same] at lower
    exact Nat.lt_irrefl _ lower)

theorem sound_begin {start : World}
    (unused : ∀ registry key, start.contextAt? registry key = none) : (begin start).Sound where
  contexts := unused
  stacked _ _ := Stacked.none
  numbered _ member := by simp [begin] at member
  newestFirst := List.Pairwise.nil
  handedOut := List.Sublist.refl _

theorem mem_scopesOf {registry : ManagerId} {key : ContextKey} {handle : Handle} :
    handle ∈ traffic.scopesOf registry key ↔
      handle ∈ traffic.running ∧ handle.registry = registry ∧ handle.key = key := by
  simp [scopesOf]

theorem Sound.withWorld (sound : traffic.Sound) {after : World}
    (quiet : traffic.world.Quiet after) : (traffic.withWorld after).Sound where
  contexts registry key := (quiet.contexts registry key).trans (sound.contexts registry key)
  stacked := sound.stacked
  numbered handle member := Nat.lt_of_lt_of_le (sound.numbered handle member) quiet.nextScope
  newestFirst := sound.newestFirst
  handedOut := sound.handedOut

theorem quiet_of_sameScopes {before after : World} (same : World.SameScopes before after) :
    before.Quiet after :=
  ⟨same.contextAt?, Nat.le_of_eq same.nextScope.symm⟩

theorem Sound.enclosing (sound : traffic.Sound) (thread : ThreadId) (id : ManagerId) :
    traffic.world.enclosing thread id =
      (Context.ofScopes (traffic.scopesOf (traffic.world.registryId id)
        (traffic.world.key thread id))).getD Context.vacant := by
  rw [World.enclosing, sound.contexts]

/-- A refused call leaves every context as it found it. -/
theorem Sound.contextAt?_refused (sound : traffic.Sound) {error : TransactionError}
    {refused : World} (opened : traffic.world.openScope thread id nesting = (.error error, refused))
    (registry : ManagerId) (key : ContextKey) :
    (refused.leave (traffic.world.registryId id) (traffic.world.key thread id)).contextAt? registry
      key = traffic.world.contextAt? registry key := by
  have counted := World.countedIn_openScope opened
  rw [World.contextAt?_leave]
  split
  · next here =>
      obtain ⟨rfl, rfl⟩ := here
      rw [counted.at_key, sound.enclosing, sound.contexts, Option.bind_some,
        Context.leave?_deepen_ofScopes]
  · next elsewhere => rw [counted.contexts, if_neg elsewhere]

/-- The handle of a call that starts lies on top of the scopes that are open under its key. -/
theorem Sound.stacked_cons (sound : traffic.Sound) {handle : Handle} {started : World}
    (bound : World.Bound traffic.world thread id nesting handle started) :
    Stacked (handle :: traffic.scopesOf handle.registry handle.key) := by
  have enclosing := sound.enclosing thread id
  rw [← bound.registry, ← bound.key] at enclosing
  have depth := congrArg Context.depth enclosing
  rw [Context.depth_ofScopes] at depth
  refine .within (sound.stacked _ _) handle ?_ ?_ ?_
  · rw [bound.depth, depth]
  · rw [Strategy.isOutermost_of_select bound.strategy, depth]
  · have stacked := sound.stacked handle.registry handle.key
    have token := bound.token
    rw [depth, enclosing] at token
    generalize traffic.scopesOf handle.registry handle.key = outer at stacked token ⊢
    intro other member
    cases outer with
    | nil => cases member
    | cons inner rest =>
        rw [stacked.token_eq member, token (Nat.succ_pos _) inner.token rfl]

theorem scopesOf_cons (running issued : List Handle) (world : World) (handle : Handle)
    (registry : ManagerId) (key : ContextKey) :
    scopesOf ⟨world, handle :: running, issued⟩ registry key =
      if handle.registry = registry ∧ handle.key = key then
        handle :: scopesOf ⟨world, running, issued⟩ registry key
      else scopesOf ⟨world, running, issued⟩ registry key := by
  simp [scopesOf, List.filter_cons]

theorem Sound.started (sound : traffic.Sound) {handle : Handle} {started : World}
    (bound : World.Bound traffic.world thread id nesting handle started) :
    Sound ⟨started, handle :: traffic.running, handle :: traffic.issued⟩ := by
  have stacked := sound.stacked_cons bound
  refine ⟨?_, ?_, ?_, ?_, ?_⟩
  · intro registry key
    rw [scopesOf_cons, bound.contexts, ← bound.registry, ← bound.key]
    by_cases here : handle.registry = registry ∧ handle.key = key
    · obtain ⟨rfl, rfl⟩ := here
      cases stacked with
      | within outer _ depth strategy token =>
          rw [if_pos ⟨rfl, rfl⟩, if_pos ⟨rfl, rfl⟩]
          refine Eq.trans ?_ (Context.ofScopes_cons handle outer token).symm
          rw [sound.enclosing, bound.registry, bound.key]
    · rw [if_neg here, if_neg fun same => here ⟨same.1.symm, same.2.symm⟩]
      exact sound.contexts registry key
  · intro registry key
    rw [scopesOf_cons]
    split
    · next here =>
        obtain ⟨rfl, rfl⟩ := here
        exact stacked
    · exact sound.stacked registry key
  · intro other member
    rw [bound.nextScope]
    rcases List.mem_cons.mp member with rfl | earlier
    · rw [bound.scope]
      exact Nat.lt_succ_self _
    · exact Nat.lt_succ_of_lt (sound.numbered other earlier)
  · refine List.pairwise_cons.mpr ⟨fun other member => ?_, sound.newestFirst⟩
    rw [bound.scope]
    exact sound.numbered other member
  · exact sound.handedOut.cons_cons handle

theorem Sound.call (sound : traffic.Sound) (thread : ThreadId) (id : ManagerId) (nesting : Bool) :
    (traffic.call thread id nesting).Sound := by
  unfold Traffic.call
  split
  · next error refused opened =>
      refine sound.withWorld ⟨sound.contextAt?_refused opened, ?_⟩
      exact Nat.le_of_eq (World.countedIn_openScope opened).nextScope.symm
  · next handle started opened => exact sound.started (World.bound_openScope opened)

/-- Among running calls of one thread, the innermost one comes first, and finishing takes it
away. -/
theorem filter_running_erase {handle : Handle}
    (innermost : traffic.innermost? thread = some handle) (chosen : Handle → Bool)
    (own : chosen handle = true → ∀ other, chosen other = true → other.key.thread = thread) :
    traffic.running.filter chosen =
      if chosen handle = true then handle :: (traffic.running.erase handle).filter chosen
      else (traffic.running.erase handle).filter chosen := by
  obtain ⟨ownHandle, newer, older, running, others⟩ :=
    List.find?_eq_some_iff_append.mp innermost
  simp only [decide_eq_true_eq, Bool.not_eq_true', decide_eq_false_iff_not] at ownHandle others
  have fresh : handle ∉ newer := fun member => others handle member ownHandle
  rw [running, List.erase_append_right _ fresh, List.erase_cons_head]
  simp only [List.filter_append, List.filter_cons]
  split
  · next here =>
      have none : newer.filter chosen = [] :=
        List.filter_eq_nil_iff.mpr fun other member same =>
          others other member (own here other same)
      rw [none]
      rfl
  · rfl

/-- Finishing takes the innermost scope of its key away. -/
theorem scopesOf_erase {handle : Handle} (innermost : traffic.innermost? thread = some handle)
    (world : World) (registry : ManagerId) (key : ContextKey) :
    traffic.scopesOf registry key =
      if handle.registry = registry ∧ handle.key = key then
        handle :: scopesOf ⟨world, traffic.running.erase handle, traffic.issued⟩ registry key
      else scopesOf ⟨world, traffic.running.erase handle, traffic.issued⟩ registry key := by
  have own : handle.key.thread = thread := by simpa using List.find?_some innermost
  have shrunk := filter_running_erase innermost
    (fun other => decide (other.registry = registry ∧ other.key = key))
  simp only [decide_eq_true_eq] at shrunk
  refine shrunk ?_
  rintro ⟨-, rfl⟩ other ⟨-, same⟩
  rw [same, own]

theorem Sound.finish (sound : traffic.Sound) (thread : ThreadId) (ending : Outcome Unit) :
    (traffic.finish thread ending).Sound := by
  unfold Traffic.finish
  split
  · exact sound
  · next handle innermost =>
      have concluded := traffic.world.sameScopes_conclude handle ending
      generalize (traffic.world.conclude handle ending).2 = after at concluded
      have shrunk := scopesOf_erase innermost (after.leave handle.registry handle.key)
      refine ⟨?_, ?_, ?_, sound.newestFirst, List.erase_sublist.trans sound.handedOut⟩
      · intro registry key
        have before := sound.contexts registry key
        have stacked := sound.stacked registry key
        rw [World.contextAt?_leave, concluded.contextAt?, concluded.contextAt?]
        rw [shrunk] at before stacked
        by_cases here : handle.registry = registry ∧ handle.key = key
        · obtain ⟨rfl, rfl⟩ := here
          rw [if_pos ⟨rfl, rfl⟩] at before stacked ⊢
          rw [before, Context.leave?_ofScopes stacked]
        · rw [if_neg here] at before
          rw [if_neg fun same => here ⟨same.1.symm, same.2.symm⟩, before]
      · intro registry key
        have stacked := sound.stacked registry key
        rw [shrunk] at stacked
        split at stacked
        · cases stacked with
          | within outer => exact outer
        · exact stacked
      · intro other member
        exact Nat.lt_of_lt_of_le (sound.numbered other member)
          (Nat.le_of_eq concluded.nextScope.symm)

theorem Sound.step (sound : traffic.Sound) (event : Event)
    (quiet : ∀ after, event = .aside after → traffic.world.Quiet after) :
    (traffic.step event).Sound := by
  cases event with
  | call thread id nesting => exact sound.call thread id nesting
  | finish thread ending => exact sound.finish thread ending
  | request request =>
      exact sound.withWorld (quiet_of_sameScopes (traffic.world.sameScopes_perform request))
  | aside after => exact sound.withWorld (quiet after rfl)

theorem Sound.run (sound : traffic.Sound) {events : List Event} (lawful : traffic.Lawful events) :
    (traffic.run events).Sound := by
  induction events generalizing traffic with
  | nil => exact sound
  | cons event rest ih => exact ih (sound.step event lawful.1) lawful.2

/-- Whatever happens in a world that has no contexts yet, the registries hold what the running
calls say. -/
theorem sound_run {start : World} (unused : ∀ registry key, start.contextAt? registry key = none)
    {events : List Event} (lawful : (begin start).Lawful events) :
    ((begin start).run events).Sound :=
  (sound_begin unused).run lawful

end Traffic

/-- A new manager comes without contexts. -/
theorem World.unused_addManager {world : World}
    (unused : ∀ registry key, world.contextAt? registry key = none) (id : ManagerId)
    (manager : Manager) (registry : ManagerId) (key : ContextKey) :
    (world.addManager id manager).contextAt? registry key = none := by
  unfold addManager
  dsimp only
  split
  · rw [contextAt?_setRegistry]
    split
    · rfl
    · exact unused registry key
  · exact unused registry key

theorem World.unused_addGraph {world : World}
    (unused : ∀ registry key, world.contextAt? registry key = none) (transactional : Bool)
    (config : TransactionConfig) (registry : ManagerId) (key : ContextKey) :
    (world.addGraph transactional config).2.contextAt? registry key = none := by
  refine unused_addManager ?_ _ _ registry key
  exact unused

theorem World.unused_addStandalone {world : World}
    (unused : ∀ registry key, world.contextAt? registry key = none)
    (resource : External ⊕ ManagerId) (shared : Option ManagerId) (config : TransactionConfig)
    (registry : ManagerId) (key : ContextKey) :
    (world.addStandalone resource shared config).2.contextAt? registry key = none := by
  cases resource with
  | inl external =>
      refine unused_addManager ?_ _ _ registry key
      exact unused
  | inr other =>
      refine unused_addManager ?_ _ _ registry key
      exact unused

/-- There are no contexts in an empty world. -/
theorem World.unused_empty (registry : ManagerId) (key : ContextKey) :
    World.empty.contextAt? registry key = none := rfl

end RoutedGraph
