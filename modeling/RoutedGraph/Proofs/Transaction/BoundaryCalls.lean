import RoutedGraph.Proofs.Transaction.Opening

/-!
# Calls on a resource

The commits and aborts that a resource is asked for are on record: a scripted
resource counts them, and the log has those of a graph that takes part in
transactions.  Every step of a transaction adds known calls to the record, and
most steps add none.
-/

namespace RoutedGraph

/-- The call on a graph that an event tells of. -/
def LogEvent.boundaryCall? (graph : GraphId) : LogEvent → Option BoundaryCall
  | implicitCommitted other => if other = graph then some ⟨true, true⟩ else none
  | implicitAborted other => if other = graph then some ⟨false, true⟩ else none
  | _ => none

/-- The call that a policy makes to close what is pending, if it makes one. -/
def ImplicitPolicy.calls (succeeded : Bool) : ImplicitPolicy → List BoundaryCall
  | commit => [⟨true, succeeded⟩]
  | rollback => [⟨false, succeeded⟩]
  | ignore => []

/-- Whether a handle commits and aborts a resource for real. -/
def Handle.Reaches (handle : Handle) (resource : ResourceId) : Prop :=
  handle.strategy = .base ∧ handle.key.resource = resource

instance (handle : Handle) (resource : ResourceId) : Decidable (handle.Reaches resource) :=
  inferInstanceAs (Decidable (_ ∧ _))

namespace World

/-- The calls that have been made on a resource, in order. -/
def boundaryCalls (world : World) : ResourceId → List BoundaryCall
  | .graph id => world.log.reverse.filterMap (LogEvent.boundaryCall? id)
  | .external number => (world.external number).calls

/-- Whether every call on a resource is put on record.  A graph that takes no part in transactions
refuses an abort without a trace. -/
def Records (world : World) : ResourceId → Prop
  | .graph id => (world.store id).isTransactional = true
  | .external _ => True

/-- The record of a commit that is asked for now. -/
def commitCall (world : World) (resource : ResourceId) : BoundaryCall :=
  ⟨true, (world.commitAll resource).1.isOk⟩

/-- The record of an abort that is asked for now. -/
def abortCall (world : World) (resource : ResourceId) : BoundaryCall :=
  ⟨false, (world.abortAll resource).1.isOk⟩

/-- The calls that a manager makes to close what is pending. -/
def closingCalls (world : World) (id : ManagerId) : List BoundaryCall :=
  (world.manager id).config.implicit.calls (world.closeImplicit id).1.isOk

/-- A step makes these calls on a resource, and keeps them on record. -/
structure Makes (resource : ResourceId) (before after : World) (calls : List BoundaryCall) :
    Prop where
  calls : after.boundaryCalls resource = before.boundaryCalls resource ++ calls
  records : before.Records resource → after.Records resource

variable {resource : ResourceId} {before middle after : World}

theorem Makes.refl (world : World) : Makes resource world world [] := ⟨by simp, id⟩

theorem Makes.trans {first second : List BoundaryCall} (former : Makes resource before middle first)
    (latter : Makes resource middle after second) :
    Makes resource before after (first ++ second) :=
  ⟨by rw [latter.calls, former.calls, List.append_assoc], latter.records ∘ former.records⟩

theorem Makes.then_none {calls : List BoundaryCall} (former : Makes resource before middle calls)
    (latter : Makes resource middle after []) : Makes resource before after calls := by
  simpa using former.trans latter

theorem Makes.after_none {calls : List BoundaryCall} (former : Makes resource before middle [])
    (latter : Makes resource middle after calls) : Makes resource before after calls :=
  former.trans latter

theorem Makes.of_same (log : after.log = before.log) (stores : after.stores = before.stores)
    (externals : after.externals = before.externals) : Makes resource before after [] := by
  cases resource with
  | graph id =>
      exact ⟨by simp [boundaryCalls, log], fun records => by
        simpa only [Records, World.store, stores] using records⟩
  | external number =>
      exact ⟨by simp [boundaryCalls, World.external, externals], fun _ => trivial⟩

theorem Makes.emit {calls : List BoundaryCall} (former : Makes resource before middle calls)
    {event : LogEvent} (silent : ∀ graph, event.boundaryCall? graph = none) :
    Makes resource before (middle.emit event) calls := by
  refine former.then_none ?_
  cases resource with
  | graph id =>
      exact ⟨by simp [boundaryCalls, World.emit, withHub, Hub.emit, silent], fun records => records⟩
  | external number =>
      exact ⟨by simp [boundaryCalls, World.emit, withHub, World.external], fun _ => trivial⟩

/-- How a boundary ends depends on the stores and the scripted resources only. -/
theorem boundary_of_same (stores : after.stores = before.stores)
    (externals : after.externals = before.externals) (resource : ResourceId) :
    (after.commitAll resource).1 = (before.commitAll resource).1 ∧
      (after.abortAll resource).1 = (before.abortAll resource).1 := by
  cases resource with
  | graph id =>
      have same : after.store id = before.store id := by simp only [World.store, stores]
      cases transactional : (before.store id).isTransactional with
      | true => simp [commitAll, abortAll, same, transactional]
      | false => simp [commitAll, abortAll, same, transactional]
  | external number => simp [commitAll, abortAll, World.external, externals]

variable (world : World) (resource : ResourceId)

theorem records_setStore {id : GraphId} {store : Store}
    (kept : (world.store id).isTransactional = true → store.isTransactional = true)
    (records : world.Records resource) : (world.setStore id store).Records resource := by
  cases resource with
  | graph other =>
      by_cases here : id = other
      · obtain rfl := here
        simp only [Records, store_setStore_self]
        exact kept records
      · simp only [Records, store_setStore_of_ne _ here]
        exact records
  | external number => trivial

theorem calls_commitAll (external : External) :
    external.commitAll.2.calls = external.calls ++ [⟨true, external.commitAll.1.isOk⟩] := by
  unfold External.commitAll
  dsimp only
  split <;> rfl

theorem calls_abortAll (external : External) :
    external.abortAll.2.calls = external.calls ++ [⟨false, external.abortAll.1.isOk⟩] := by
  unfold External.abortAll
  dsimp only
  split <;> rfl

/-- Replacing one scripted resource puts what it was called for on record. -/
theorem makes_setExternal {number : Nat} {later : External} {calls : List BoundaryCall}
    (called : later.calls = (world.external number).calls ++ calls) :
    Makes resource world (world.setExternal number later)
      (if .external number = resource then calls else []) := by
  cases resource with
  | graph id => exact ⟨by simp [boundaryCalls, setExternal], fun records => records⟩
  | external other =>
      refine ⟨?_, fun _ => trivial⟩
      by_cases here : number = other
      · obtain rfl := here
        simp [boundaryCalls, setExternal, World.external, Dict.getD] at called ⊢
        exact called
      · simp [boundaryCalls, setExternal, World.external, Dict.getD, here,
          Dict.get?_insert_of_ne _ here]

/-- Every commit that a resource is asked for is on record. -/
theorem makes_commitAll (other : ResourceId) :
    Makes resource world (world.commitAll other).2
      (if other = resource then [world.commitCall resource] else []) := by
  cases other with
  | graph id =>
      refine ⟨?_, fun records => ?_⟩
      · cases resource with
        | graph reached =>
            by_cases here : id = reached
            · simp [boundaryCalls, commitAll, emit, withHub, Hub.emit, LogEvent.boundaryCall?, here,
                setStore, commitCall, Except.isOk, Except.toBool]
            · simp [boundaryCalls, commitAll, emit, withHub, Hub.emit, LogEvent.boundaryCall?, here,
                setStore]
        | external number =>
            simp [boundaryCalls, commitAll, emit, withHub, setStore, World.external]
      · refine records_setStore world resource (fun transactional => ?_) records
        simpa [Store.commit, Store.isTransactional] using transactional
  | external number =>
      have made := world.makes_setExternal resource (calls_commitAll (world.external number))
      split at made
      · next here =>
          obtain rfl := here
          rwa [if_pos rfl]
      · next elsewhere =>
          rw [if_neg elsewhere]
          exact made

theorem isTransactional_abort {store : Store} (transactional : store.isTransactional = true) :
    store.abort.isTransactional = true := by
  obtain ⟨log, logged⟩ := Option.isSome_iff_exists.mp transactional
  simp [Store.abort, Store.isTransactional, logged]

/-- Every abort that a resource is asked for is on record. -/
theorem makes_abortAll (records : world.Records resource) (other : ResourceId) :
    Makes resource world (world.abortAll other).2
      (if other = resource then [world.abortCall resource] else []) := by
  cases other with
  | graph id =>
      by_cases transactional : (world.store id).isTransactional = true
      · refine ⟨?_, fun _ => ?_⟩
        · cases resource with
          | graph reached =>
              by_cases here : id = reached
              · subst here
                simp [boundaryCalls, abortAll, transactional, emit, withHub, Hub.emit,
                  LogEvent.boundaryCall?, setStore, abortCall, Except.isOk, Except.toBool]
              · simp [boundaryCalls, abortAll, transactional, emit, withHub, Hub.emit,
                  LogEvent.boundaryCall?, here, setStore]
          | external number =>
              simp [boundaryCalls, abortAll, transactional, emit, withHub, setStore, World.external]
        · simp only [abortAll, transactional, if_true]
          exact records_setStore world resource (fun kept => isTransactional_abort kept) records
      · have elsewhere : ResourceId.graph id ≠ resource := by
          rintro rfl
          exact transactional records
        rw [if_neg elsewhere]
        simp only [abortAll, transactional]
        exact Makes.refl world
  | external number =>
      have made := world.makes_setExternal resource (calls_abortAll (world.external number))
      split at made
      · next here =>
          obtain rfl := here
          rwa [if_pos rfl]
      · next elsewhere =>
          rw [if_neg elsewhere]
          exact made

/-- Closing what is pending makes the calls of the policy. -/
theorem makes_closeImplicit (records : world.Records resource) (id : ManagerId) :
    Makes resource world (world.closeImplicit id).2
      (if (world.manager id).resource = resource then world.closingCalls id else []) := by
  have committed := world.makes_commitAll resource (world.manager id).resource
  have aborted := world.makes_abortAll resource records (world.manager id).resource
  by_cases here : (world.manager id).resource = resource
  · rw [if_pos here] at committed aborted ⊢
    cases policy : (world.manager id).config.implicit with
    | commit =>
        simpa [closingCalls, closeImplicit, policy, ImplicitPolicy.calls, commitCall, here]
          using committed
    | rollback =>
        simpa [closingCalls, closeImplicit, policy, ImplicitPolicy.calls, abortCall, here]
          using aborted
    | ignore =>
        simpa [closingCalls, closeImplicit, policy, ImplicitPolicy.calls] using Makes.refl world
  · rw [if_neg here] at committed aborted ⊢
    cases policy : (world.manager id).config.implicit with
    | commit => simpa [closeImplicit, policy] using committed
    | rollback => simpa [closeImplicit, policy] using aborted
    | ignore => simpa [closeImplicit, policy] using Makes.refl world

/-- A commit reaches the resource through a live handle of the base strategy only. -/
theorem makes_commit (handle : Handle) :
    Makes resource world (world.commit handle).2
      (if world.isLive handle = true ∧ handle.Reaches resource then [world.commitCall resource]
        else []) := by
  unfold commit
  by_cases live : world.isLive handle = true
  · have committed := world.makes_commitAll resource handle.key.resource
    simp only [live, if_true, true_and]
    unfold commitLive
    cases strategy : handle.strategy with
    | base =>
        simp only [Handle.Reaches, strategy, true_and]
        generalize world.commitAll handle.key.resource = outcome at committed ⊢
        obtain ⟨result, later⟩ := outcome
        cases result with
        | ok value => exact committed.emit fun _ => rfl
        | error error => exact committed
    | _ =>
        simp only [Handle.Reaches, strategy, reduceCtorEq, false_and, if_false]
        exact (Makes.refl world).emit fun _ => rfl
  · rw [if_neg live, if_neg fun both => live both.1]
    exact Makes.refl world

/-- A rollback reaches the resource through a live handle of the base strategy only. -/
theorem makes_finishRollback (records : world.Records resource) (handle : Handle)
    (message : Option String) (unwinding : Bool) :
    Makes resource world (world.finishRollback handle message unwinding).2
      (if world.isLive handle = true ∧ handle.Reaches resource then [world.abortCall resource]
        else []) := by
  unfold finishRollback
  by_cases live : world.isLive handle = true
  · have noted : Makes resource world
        (world.emit (.rolledBack handle.token handle.strategy message)) [] :=
      (Makes.refl world).emit fun _ => rfl
    have aborted := makes_abortAll _ resource (noted.records records) handle.key.resource
    simp only [live, if_true, true_and, rollbackLive]
    cases strategy : handle.strategy with
    | base =>
        simp only [Handle.Reaches, strategy, true_and, Strategy.rollbackRequest?] at aborted ⊢
        have unlogged : (world.emit (.rolledBack handle.token .base message)).stores =
            world.stores := rfl
        rw [strategy] at noted
        rw [abortCall, (boundary_of_same unlogged rfl resource).2] at aborted
        exact noted.after_none aborted
    | _ =>
        rw [strategy] at noted
        simp only [Handle.Reaches, strategy, reduceCtorEq, false_and, if_false,
          Strategy.rollbackRequest?]
        split <;> exact noted
  · rw [if_neg live, if_neg fun both => live both.1]
    exact Makes.refl world

theorem makes_unwind (records : world.Records resource) (handle : Handle) (message : String) :
    Makes resource world (world.unwind handle message)
      (if world.isLive handle = true ∧ handle.Reaches resource then [world.abortCall resource]
        else []) := by
  have rolledBack := world.makes_finishRollback resource records handle (some message) true
  unfold unwind
  split
  · next unwound finished =>
      rw [finished] at rolledBack
      exact rolledBack
  · next error stuck finished =>
      rw [finished] at rolledBack
      exact rolledBack.emit fun _ => rfl

end World

/-- The calls with which a scope of the base strategy ends, by how its body and the call itself
end: a commit if the body succeeded, an abort otherwise, and an abort after a commit that
failed. -/
inductive Ending {α : Type} : Outcome α → Outcome α → List BoundaryCall → Prop where
  | committed (value : α) : Ending (.done value) (.done value) [⟨true, true⟩]
  | uncommitted (value : α) (error : TransactionError) (aborted : Bool) :
      Ending (.done value) (.failed (.transaction error)) [⟨true, false⟩, ⟨false, aborted⟩]
  | failed (error : RouteError) (aborted : Bool) :
      Ending (.failed error) (.failed error) [⟨false, aborted⟩]
  | panicked (message : String) (aborted : Bool) :
      Ending (.panicked message) (.panicked message) [⟨false, aborted⟩]

namespace World

variable {resource : ResourceId} {world : World} {handle : Handle} {α : Type}

theorem commit_of_reaches (live : world.isLive handle = true)
    (reaches : handle.Reaches resource) :
    (world.commit handle).1 = (world.commitAll resource).1 := by
  obtain ⟨base, rfl⟩ := reaches
  simp only [commit, live, if_true, commitLive, base]
  rcases world.commitAll handle.key.resource with ⟨_ | _, _⟩ <;> rfl

/-- A live scope of the base strategy ends with the calls of its ending. -/
theorem ending_conclude (records : world.Records resource) (live : world.isLive handle = true)
    (reaches : handle.Reaches resource) (outcome : Outcome α) :
    ∃ calls, Ending outcome (world.conclude handle outcome).1 calls ∧
      Makes resource world (world.conclude handle outcome).2 calls := by
  have unwound := fun message => world.makes_unwind resource records handle message
  simp only [live, reaches, and_self, if_true] at unwound
  cases outcome with
  | done value =>
      have committed := world.makes_commit resource handle
      have result := commit_of_reaches live reaches
      have stillLive := (world.sameScopes_commit handle).isLive handle
      simp only [live, reaches, and_self, if_true, commitCall, ← result] at committed
      simp only [conclude]
      generalize world.commit handle = ended at committed stillLive ⊢
      obtain ⟨result, later⟩ := ended
      cases result with
      | ok value => exact ⟨_, .committed _, committed⟩
      | error error =>
          have aborted := later.makes_unwind resource (committed.records records) handle
            error.message
          simp only [stillLive.trans live, reaches, and_self, if_true] at aborted
          exact ⟨_, .uncommitted _ error _, committed.trans aborted⟩
  | failed error => exact ⟨_, .failed error _, unwound error.message⟩
  | panicked message => exact ⟨_, .panicked message _, unwound "panicked"⟩

/-- Other scopes end without a call. -/
theorem makes_conclude_of_not_reaches (records : world.Records resource)
    (aside : ¬ handle.Reaches resource) (outcome : Outcome α) :
    Makes resource world (world.conclude handle outcome).2 [] := by
  have unwound := fun (later : World) kept message =>
    later.makes_unwind resource kept handle message
  simp only [aside, and_false, if_false] at unwound
  cases outcome with
  | done value =>
      have committed := world.makes_commit resource handle
      simp only [aside, and_false, if_false] at committed
      simp only [conclude]
      generalize world.commit handle = ended at committed ⊢
      obtain ⟨result, later⟩ := ended
      cases result with
      | ok value => exact committed
      | error error =>
          exact committed.then_none (unwound later (committed.records records) error.message)
  | failed error => exact unwound world records error.message
  | panicked message => exact unwound world records "panicked"

theorem makes_leave (registry : ManagerId) (key : ContextKey) :
    Makes resource world (world.leave registry key) [] :=
  .of_same rfl rfl rfl

variable {thread : ThreadId} {id : ManagerId} {nesting : Bool}

theorem makes_bindScope (registry : ManagerId) (key : ContextKey) (previous : Nat)
    (strategy : Strategy) (token : Token) :
    Makes resource world (world.bindScope registry key previous strategy token).2 [] := by
  refine Makes.emit ?_ fun _ => rfl
  exact .of_same rfl rfl rfl

theorem minted_same (world : World) (thread : ThreadId) (id : ManagerId) :
    (world.minted thread id).2.log = world.log ∧
    (world.minted thread id).2.stores = world.stores ∧
    (world.minted thread id).2.externals = world.externals ∧
    (world.minted thread id).2.managers = world.managers := by
  unfold minted takeToken
  split <;> exact ⟨rfl, rfl, rfl, rfl⟩

theorem minted_closing (world : World) (thread : ThreadId) (id : ManagerId) :
    ((world.minted thread id).2.closeImplicit id).1 = (world.closeImplicit id).1 := by
  obtain ⟨-, stores, externals, managers⟩ := world.minted_same thread id
  have manager : (world.minted thread id).2.manager id = world.manager id := by
    simp only [World.manager, managers]
  obtain ⟨committed, aborted⟩ := boundary_of_same stores externals (world.manager id).resource
  simp only [closeImplicit, manager]
  split
  · exact committed
  · exact aborted
  · rfl

/-- A scope has the base strategy if it is the outermost one of a resource that takes part. -/
theorem select_base_iff {native : Bool} {depth : Nat} {strategy : Strategy}
    (selected : Strategy.select native depth nesting = .ok strategy) :
    strategy = .base ↔ native = true ∧ depth = 0 := by
  cases native <;> cases depth <;> cases nesting <;> cases selected <;> simp

/-- A start makes the calls of the policy if it is that of the outermost scope of a resource that
takes part, and none otherwise. -/
theorem makes_openScope (records : world.Records resource) (thread : ThreadId) (id : ManagerId)
    (nesting : Bool) :
    Makes resource world (world.openScope thread id nesting).2
      (if (world.isNative id = true ∧ world.depth thread id = 0) ∧
          (world.manager id).resource = resource then world.closingCalls id else []) := by
  have entered : Makes resource world
      (world.enter (world.registryId id) (world.key thread id)).2 [] := .of_same rfl rfl rfl
  obtain ⟨log, stores, externals, managers⟩ :=
    world.minted_same thread id
  have minted : Makes resource world (world.minted thread id).2 [] :=
    .of_same log stores externals
  have manager : (world.minted thread id).2.manager id = world.manager id := by
    simp only [World.manager, managers]
  have closing := makes_closeImplicit _ resource (minted.records records) id
  rw [closingCalls, minted_closing, manager] at closing
  rw [openScope_eq]
  split
  · next error selected =>
      have inner : ¬ (world.isNative id = true ∧ world.depth thread id = 0) := by
        rintro ⟨native, outermost⟩
        rw [native, outermost] at selected
        cases selected
      simpa only [inner, false_and, if_false] using entered
  · next strategy selected =>
      have closed : Makes resource world ((world.minted thread id).2.closeFor id strategy).2
          (if strategy = .base ∧ (world.manager id).resource = resource then
            world.closingCalls id else []) := by
        cases strategy with
        | base => simpa [closeFor, Strategy.isReal, closingCalls] using minted.after_none closing
        | _ => simpa [closeFor, Strategy.isReal] using minted
      simp only [select_base_iff selected] at closed
      generalize (world.minted thread id).2.closeFor id strategy = ready at closed ⊢
      dsimp only
      split
      · exact closed
      · exact closed.then_none (makes_bindScope _ _ _ _ _)

/-- The outermost scope of a resource that takes part starts if the calls of the policy do not
fail. -/
theorem openScope_native (native : world.isNative id = true)
    (outermost : world.depth thread id = 0) :
    (world.openScope thread id nesting).1.isOk = (world.closeImplicit id).1.isOk := by
  have closing := world.minted_closing thread id
  rw [openScope_eq, native, outermost]
  simp only [Strategy.select, closeFor, Strategy.isReal, if_true, ← closing]
  split
  · next error failed => rw [failed]; rfl
  · next done => rw [done]; rfl

end World

end RoutedGraph
