import RoutedGraph.Proofs.Transaction.BoundaryCalls
import RoutedGraph.Proofs.Transaction.Liveness
import RoutedGraph.Proofs.Transaction.Programs

/-!
# Outermost calls

From the entry of an outermost call on a resource that takes part to its exit,
the resource is asked for nothing but what the policy says at the entry, what
the body asks for through the handle of the call or without a handle, and what
belongs to the ending.  The calls nested in it and the handles of other scopes
ask the resource for nothing, since only the outermost scope of a key has the
base strategy.
-/

namespace RoutedGraph

/-- The calls on the resource of a handle that an event asks for: through the handle, or without
one. -/
def Event.requested (handle : Handle) (world : World) : Event → List BoundaryCall
  | .request (.commit used) =>
      if used = handle then [world.commitCall handle.key.resource] else []
  | .request (.rollback used _) =>
      if used = handle then [world.abortCall handle.key.resource] else []
  | .request (.commitImplicit id) =>
      if (world.manager id).resource = handle.key.resource then
        [world.commitCall handle.key.resource]
      else []
  | .request (.rollbackImplicit id) =>
      if (world.manager id).resource = handle.key.resource then
        [world.abortCall handle.key.resource]
      else []
  | .request (.closeImplicit id) =>
      if (world.manager id).resource = handle.key.resource then world.closingCalls id else []
  | _ => []

/-- A handle that may be used within a call: it has been handed out, and if it still reaches the
resource of the call, it is one of the same thread and registry. -/
structure Handle.Usable (handle used : Handle) (traffic : Traffic) : Prop where
  issued : used ∈ traffic.issued
  own : traffic.world.isLive used = true → used.Reaches handle.key.resource →
    used.key.thread = handle.key.thread ∧ used.registry = handle.registry

/-- What may happen within a call on a resource: transaction calls on the resource come from the
same thread and through managers that share the registry, and what is done aside does not touch
the resource. -/
def Event.Within (handle : Handle) (traffic : Traffic) : Event → Prop
  | .call thread id _ =>
      (traffic.world.manager id).resource = handle.key.resource →
        thread = handle.key.thread ∧ traffic.world.registryId id = handle.registry
  | .finish thread _ => thread = handle.key.thread
  | .request (.commit used) => handle.Usable used traffic
  | .request (.rollback used _) => handle.Usable used traffic
  | .request _ => True
  | .aside after =>
      traffic.world.Quiet after ∧ World.Makes handle.key.resource traffic.world after []

namespace Traffic

/-- The calls that the events of a body ask for, each when it happens. -/
def requested (handle : Handle) (traffic : Traffic) : List Event → List BoundaryCall
  | [] => []
  | event :: rest =>
      event.requested handle traffic.world ++ (traffic.step event).requested handle rest

def Within (handle : Handle) (traffic : Traffic) : List Event → Prop
  | [] => True
  | event :: rest => event.Within handle traffic ∧ (traffic.step event).Within handle rest

variable {traffic : Traffic} {handle : Handle}

theorem lawful_of_within {events : List Event} (within : traffic.Within handle events) :
    traffic.Lawful events := by
  induction events generalizing traffic with
  | nil => trivial
  | cons event rest ih =>
      refine ⟨?_, ih within.2⟩
      rintro after rfl
      exact within.1.1

/-- A call that reaches its resource is running, and the calls on the resource that have started
since are nested in it. -/
structure Nests (traffic : Traffic) (handle : Handle) : Prop where
  running : handle ∈ traffic.running
  base : handle.strategy = .base
  inner : ∀ newer ∈ traffic.running, handle.scope.raw < newer.scope.raw →
    newer.key.resource = handle.key.resource →
      newer.registry = handle.registry ∧ newer.key = handle.key

variable {event : Event}

/-- Of the scopes nested in a call, only its own reaches the resource. -/
theorem Nests.eq_of_reaches (nests : traffic.Nests handle) (sound : traffic.Sound) {used : Handle}
    (running : used ∈ traffic.running) (reaches : used.Reaches handle.key.resource)
    (registry : used.registry = handle.registry) (key : used.key = handle.key) :
    used = handle :=
  (sound.stacked handle.registry handle.key).outermost_unique
    (mem_scopesOf.mpr ⟨running, registry, key⟩) (mem_scopesOf.mpr ⟨nests.running, rfl, rfl⟩)
    (by rw [reaches.1]; rfl) (by rw [nests.base]; rfl)

theorem Nests.reaches (nests : traffic.Nests handle) : handle.Reaches handle.key.resource :=
  ⟨nests.base, rfl⟩

theorem Nests.isLive (nests : traffic.Nests handle) (sound : traffic.Sound) :
    traffic.world.isLive handle = true :=
  (sound.isLive_iff (sound.handedOut.subset nests.running)).mpr nests.running

/-- The handle of the call is the only one through which the resource is reached. -/
theorem Nests.reaches_iff (nests : traffic.Nests handle) (sound : traffic.Sound) {used : Handle}
    (usable : handle.Usable used traffic) :
    (traffic.world.isLive used = true ∧ used.Reaches handle.key.resource) ↔ used = handle := by
  constructor
  · rintro ⟨live, reaches⟩
    obtain ⟨thread, registry⟩ := usable.own live reaches
    have key : used.key = handle.key := by
      obtain ⟨-, resource⟩ := reaches
      cases keyUsed : used.key
      cases keyHandle : handle.key
      simp_all
    exact nests.eq_of_reaches sound ((sound.isLive_iff usable.issued).mp live) reaches registry key
  · rintro rfl
    exact ⟨nests.isLive sound, nests.reaches⟩

/-- Whatever happens within a call, the calls on its resource that start are nested in it. -/
theorem Nests.step (nests : traffic.Nests handle) (within : event.Within handle traffic)
    (running : handle ∈ (traffic.step event).running) : (traffic.step event).Nests handle := by
  refine ⟨running, nests.base, ?_⟩
  cases event with
  | call thread id nesting =>
      simp only [Traffic.step, Traffic.call]
      split
      · exact nests.inner
      · next granted started opened =>
          have bound := World.bound_openScope opened
          intro newer member later same
          rcases List.mem_cons.mp member with rfl | earlier
          · have resource : newer.key.resource = (traffic.world.manager id).resource := by
              rw [bound.key]
              rfl
            obtain ⟨thread, registry⟩ := within (resource.symm.trans same)
            refine ⟨bound.registry.trans registry, ?_⟩
            rw [bound.key, World.key, thread, ← resource, same]
          · exact nests.inner newer earlier later same
  | finish thread ending =>
      simp only [Traffic.step, Traffic.finish]
      split
      · exact nests.inner
      · exact fun newer member => nests.inner newer (List.mem_of_mem_erase member)
  | request request => exact nests.inner
  | aside after => exact nests.inner

/-- A call that finishes within another one of its thread started later and has the same stack. -/
theorem Nests.newer_of_innermost (nests : traffic.Nests handle) (sound : traffic.Sound)
    {finished : Handle} (innermost : traffic.innermost? handle.key.thread = some finished)
    (other : finished ≠ handle) : handle.scope.raw < finished.scope.raw := by
  obtain ⟨own, newer, older, running, others⟩ := List.find?_eq_some_iff_append.mp innermost
  have ordered := sound.newestFirst.sublist sound.handedOut
  have member := nests.running
  rw [running] at ordered member
  rcases List.mem_append.mp member with before | rest
  · have foreign := others handle before
    simp at foreign
  · rcases List.mem_cons.mp rest with same | after
    · exact absurd same.symm other
    · exact (List.pairwise_cons.mp (List.pairwise_append.mp ordered).2.1).1 handle after

/-- No start within a call asks the resource for anything. -/
theorem Nests.makes_call (nests : traffic.Nests handle) (sound : traffic.Sound)
    (records : traffic.world.Records handle.key.resource) {thread : ThreadId} {id : ManagerId}
    {nesting : Bool} (within : (Event.call thread id nesting).Within handle traffic) :
    World.Makes handle.key.resource traffic.world (traffic.call thread id nesting).world [] := by
  have opened := World.makes_openScope records thread id nesting
  have inner : ¬ ((traffic.world.isNative id = true ∧ traffic.world.depth thread id = 0) ∧
      (traffic.world.manager id).resource = handle.key.resource) := by
    rintro ⟨⟨-, outermost⟩, same⟩
    obtain ⟨own, registry⟩ := within same
    have key : traffic.world.key thread id = handle.key := by rw [World.key, own, same]
    have member : handle ∈ traffic.scopesOf (traffic.world.registryId id)
        (traffic.world.key thread id) :=
      mem_scopesOf.mpr ⟨nests.running, registry.symm, key.symm⟩
    rw [World.depth_eq, sound.enclosing, Context.depth_ofScopes] at outermost
    rw [List.length_eq_zero_iff.mp outermost] at member
    cases member
  rw [if_neg inner] at opened
  unfold Traffic.call
  split
  · next error refused failed =>
      rw [failed] at opened
      exact opened.then_none (World.makes_leave _ _)
  · next granted started succeeded =>
      rw [succeeded] at opened
      exact opened

/-- No end within a call asks the resource for anything. -/
theorem Nests.makes_finish (nests : traffic.Nests handle) (sound : traffic.Sound)
    (records : traffic.world.Records handle.key.resource) {ending : Outcome Unit}
    (running : handle ∈ (traffic.finish handle.key.thread ending).running) :
    World.Makes handle.key.resource traffic.world
      (traffic.finish handle.key.thread ending).world [] := by
  unfold Traffic.finish at running ⊢
  split
  · exact World.Makes.refl _
  · next finished innermost =>
      simp only [innermost] at running
      have other : finished ≠ handle := by
        rintro rfl
        exact sound.nodup_running.not_mem_erase running
      have member : finished ∈ traffic.running := List.mem_of_find?_eq_some innermost
      have newer := nests.newer_of_innermost sound innermost other
      have aside : ¬ finished.Reaches handle.key.resource := by
        intro reaches
        obtain ⟨registry, key⟩ := nests.inner finished member newer reaches.2
        exact other (nests.eq_of_reaches sound member reaches registry key)
      exact (World.makes_conclude_of_not_reaches records aside ending).then_none
        (World.makes_leave _ _)

theorem Nests.makes_request (nests : traffic.Nests handle) (sound : traffic.Sound)
    (records : traffic.world.Records handle.key.resource) {request : BoundaryRequest}
    (within : (Event.request request).Within handle traffic) :
    World.Makes handle.key.resource traffic.world (request.perform traffic.world).2
      ((Event.request request).requested handle traffic.world) := by
  cases request with
  | commit used =>
      have made := traffic.world.makes_commit handle.key.resource used
      simp only [nests.reaches_iff sound within] at made
      exact made
  | rollback used message =>
      have made := traffic.world.makes_finishRollback _ records used message false
      simp only [nests.reaches_iff sound within] at made
      exact made
  | commitImplicit id => exact traffic.world.makes_commitAll _ _
  | rollbackImplicit id => exact traffic.world.makes_abortAll _ records _
  | closeImplicit id => exact traffic.world.makes_closeImplicit _ records id

/-- Within a call, its resource is asked for exactly what the events ask for themselves. -/
theorem Nests.makes_step (nests : traffic.Nests handle) (sound : traffic.Sound)
    (records : traffic.world.Records handle.key.resource) (within : event.Within handle traffic)
    (running : handle ∈ (traffic.step event).running) :
    World.Makes handle.key.resource traffic.world (traffic.step event).world
      (event.requested handle traffic.world) := by
  cases event with
  | call thread id nesting => exact nests.makes_call sound records within
  | finish thread ending =>
      obtain rfl := within
      exact nests.makes_finish sound records running
  | request request => exact nests.makes_request sound records within
  | aside after => exact within.2

theorem Nests.makes_run (nests : traffic.Nests handle) (sound : traffic.Sound)
    (records : traffic.world.Records handle.key.resource) {events : List Event}
    (within : traffic.Within handle events)
    (running : handle ∈ (traffic.run events).running) :
    World.Makes handle.key.resource traffic.world (traffic.run events).world
      (traffic.requested handle events) := by
  induction events generalizing traffic with
  | nil => exact World.Makes.refl _
  | cons event rest ih =>
      have lawful := lawful_of_within within
      have next := sound.step event lawful.1
      have issued := issued_step event (sound.handedOut.subset nests.running)
      have stillRunning := next.running_of_run lawful.2 issued running
      have made := nests.makes_step sound records within.1 stillRunning
      exact made.trans
        (ih (nests.step within.1 stillRunning) next (made.records records) within.2 running)

/-- A call that starts with the base strategy is the first to be nested in itself. -/
theorem Sound.nests_started (sound : traffic.Sound) {thread : ThreadId} {id : ManagerId}
    {nesting : Bool} {started : World}
    (bound : World.Bound traffic.world thread id nesting handle started)
    (base : handle.strategy = .base) :
    Nests ⟨started, handle :: traffic.running, handle :: traffic.issued⟩ handle := by
  refine ⟨List.mem_cons_self, base, ?_⟩
  intro newer member later
  rcases List.mem_cons.mp member with rfl | earlier
  · exact absurd later (Nat.lt_irrefl _)
  · have lower := sound.numbered newer (sound.handedOut.subset earlier)
    rw [bound.scope] at later
    exact absurd later (Nat.lt_asymm lower)

end Traffic

/-- A resource that a manager works with for real has its calls on record. -/
theorem World.records_of_isNative {world : World} {id : ManagerId}
    (native : world.isNative id = true) : world.Records (world.manager id).resource := by
  have takesPart : world.takesPart (world.manager id).resource = true :=
    (Bool.and_eq_true_iff.mp native).2
  cases resource : (world.manager id).resource with
  | graph graph => rwa [resource] at takesPart
  | external number => trivial

namespace Program

variable {χ α : Type}

/-- What a program asks for within a call leaves the handle of the call live. -/
theorem makes_run {traffic : Traffic} {handle : Handle} (nests : traffic.Nests handle)
    (sound : traffic.Sound) (records : traffic.world.Records handle.key.resource)
    (thread : ThreadId) (program : Program χ α) (rest : χ)
    (within : traffic.Within handle (program.events thread ⟨traffic.world, rest⟩)) :
    World.Makes handle.key.resource traffic.world
        (program.run thread ⟨traffic.world, rest⟩).2.world
        (traffic.requested handle (program.events thread ⟨traffic.world, rest⟩)) ∧
      (program.run thread ⟨traffic.world, rest⟩).2.world.isLive handle = true := by
  obtain ⟨world, running⟩ := program.run_events thread ⟨traffic.world, rest⟩ traffic rfl
  have ended := sound.run (Traffic.lawful_of_within within)
  have stillRunning : handle ∈
      (traffic.run (program.events thread ⟨traffic.world, rest⟩)).running := by
    rw [running]
    exact nests.running
  rw [← world]
  exact ⟨nests.makes_run sound records within stillRunning,
    (ended.isLive_iff (ended.handedOut.subset stillRunning)).mpr stillRunning⟩

section Call

variable {traffic : Traffic} {thread : ThreadId} {id : ManagerId} {nesting : Bool}

theorem makes_opening (native : traffic.world.isNative id = true)
    (outermost : traffic.world.depth thread id = 0) :
    World.Makes (traffic.world.manager id).resource traffic.world
      (traffic.world.openScope thread id nesting).2
      ((traffic.world.manager id).config.implicit.calls
        (traffic.world.openScope thread id nesting).1.isOk) := by
  have opening := World.makes_openScope (World.records_of_isNative native) thread id nesting
  rwa [if_pos ⟨⟨native, outermost⟩, rfl⟩, World.closingCalls,
    ← World.openScope_native native outermost] at opening

/-- An outermost call does not start if the call of the policy fails, which is all there is. -/
theorem makes_refused (native : traffic.world.isNative id = true)
    (outermost : traffic.world.depth thread id = 0) {error : TransactionError} {refused : World}
    (opened : traffic.world.openScope thread id nesting = (.error error, refused))
    (body : Handle → Program χ α) (rest : χ) :
    let call := (transaction id nesting body).run thread ⟨traffic.world, rest⟩
    (traffic.world.manager id).config.implicit ≠ .ignore ∧
      call.1 = .failed (.transaction error) ∧ call.2.rest = rest ∧
      World.Makes (traffic.world.manager id).resource traffic.world call.2.world
        ((traffic.world.manager id).config.implicit.calls false) := by
  have closed : (traffic.world.openScope thread id nesting).1.isOk =
      (traffic.world.closeImplicit id).1.isOk := World.openScope_native native outermost
  have opening : World.Makes _ _ (traffic.world.openScope thread id nesting).2 _ :=
    makes_opening native outermost
  rw [opened] at opening closed
  simp only [run_transaction, opened]
  refine ⟨?_, trivial, trivial, opening.then_none (World.makes_leave _ _)⟩
  intro ignoring
  simp [World.closeImplicit, ignoring, Except.isOk, Except.toBool] at closed

theorem makes_granted (sound : traffic.Sound) (native : traffic.world.isNative id = true)
    (outermost : traffic.world.depth thread id = 0) {handle : Handle} {started : World}
    (opened : traffic.world.openScope thread id nesting = (.ok handle, started))
    (body : Handle → Program χ α) (rest : χ) :
    let called : Traffic := ⟨started, handle :: traffic.running, handle :: traffic.issued⟩
    let events := (body handle).events thread ⟨started, rest⟩
    let call := (transaction id nesting body).run thread ⟨traffic.world, rest⟩
    called.Within handle events →
    ∃ ending, Ending ((body handle).run thread ⟨started, rest⟩).1 call.1 ending ∧
      World.Makes (traffic.world.manager id).resource traffic.world call.2.world
        ((traffic.world.manager id).config.implicit.calls true ++
          called.requested handle events ++ ending) := by
  intro called events call within
  have bound := World.bound_openScope opened
  have base : handle.strategy = .base :=
    (World.select_base_iff bound.strategy).mpr ⟨native, outermost⟩
  have nests : called.Nests handle := sound.nests_started bound base
  have resource : (traffic.world.manager id).resource = handle.key.resource := by
    rw [bound.key]
    rfl
  have opening : World.Makes _ _ (traffic.world.openScope thread id nesting).2 _ :=
    makes_opening native outermost
  have records := opening.records (World.records_of_isNative native)
  rw [opened] at opening records
  rw [resource] at opening records ⊢
  obtain ⟨made, live⟩ :=
    makes_run nests (sound.started bound) records thread (body handle) rest within
  simp only [call, run_transaction, opened]
  generalize (body handle).run thread ⟨started, rest⟩ = left at made live ⊢
  obtain ⟨ending, ends, concluded⟩ :=
    World.ending_conclude (made.records records) live nests.reaches left.1
  exact ⟨ending, ends, ((opening.trans made).trans concluded).then_none (World.makes_leave _ _)⟩

end Call

/-- An outermost call on a resource that takes part in transactions.  If the call of the policy
fails, there is no other call, and the body does not run.  Otherwise the calls are in order that of
the policy, those that the body asks for through the handle of the call or without a handle, and
those of the ending: one commit if the body succeeded, with one abort after it if it failed, and
one abort if the body failed or panicked. -/
theorem outermost_calls {start : World}
    (unused : ∀ registry key, start.contextAt? registry key = none) {past : List Event}
    (lawful : (Traffic.begin start).Lawful past) (thread : ThreadId) (id : ManagerId)
    (nesting : Bool) (body : Handle → Program χ α) (rest : χ) :
    let reached := (Traffic.begin start).run past
    let resource := (reached.world.manager id).resource
    let policy := (reached.world.manager id).config.implicit
    let call := (transaction id nesting body).run thread ⟨reached.world, rest⟩
    let calls := reached.world.boundaryCalls resource
    reached.world.isNative id = true → reached.world.depth thread id = 0 →
      (∀ error refused,
        reached.world.openScope thread id nesting = (.error error, refused) →
        policy ≠ .ignore ∧ call.1 = .failed (.transaction error) ∧ call.2.rest = rest ∧
          call.2.world.boundaryCalls resource = calls ++ policy.calls false) ∧
      (∀ handle started,
        reached.world.openScope thread id nesting = (.ok handle, started) →
        let called := reached.step (.call thread id nesting)
        let events := (body handle).events thread ⟨started, rest⟩
        called.Within handle events →
        ∃ ending, Ending ((body handle).run thread ⟨started, rest⟩).1 call.1 ending ∧
          call.2.world.boundaryCalls resource =
            calls ++ policy.calls true ++ called.requested handle events ++ ending) := by
  intro reached resource policy call calls native outermost
  have sound : reached.Sound := Traffic.sound_run unused lawful
  refine ⟨?_, ?_⟩
  · intro error refused opened
    obtain ⟨closing, failed, untouched, made⟩ := makes_refused native outermost opened body rest
    exact ⟨closing, failed, untouched, made.calls⟩
  · intro handle started opened called events within
    have calledEq : called = ⟨started, handle :: reached.running, handle :: reached.issued⟩ := by
      simp only [called, Traffic.step, Traffic.call, opened]
    rw [calledEq] at within ⊢
    obtain ⟨ending, ends, made⟩ := makes_granted sound native outermost opened body rest within
    refine ⟨ending, ends, ?_⟩
    rw [made.calls]
    simp only [List.append_assoc, calls, policy, resource, events]

/-- A resource whose third commit fails, with a manager that commits what is pending. -/
def frailWorld : World :=
  (World.empty.addStandalone (.inl ⟨true, [2], [], []⟩) none TransactionConfig.standard).2

/-- Commit, and make a call on the same resource that fails in vain. -/
def frailBody (handle : Handle) : Program Unit (Outcome Unit) :=
  (request (.commit handle)).andThen fun _ =>
    caught (transaction (.standalone 1) true fun _ => aside (Task.fail .noGraph))

/-- The handle of the first scope on the resource. -/
def frailHandle : Handle := ⟨.base, ⟨1⟩, ⟨1⟩, 1, ⟨⟨0⟩, .external 1⟩, .standalone 1⟩

/-- What the body leads to once the outermost scope has been opened. -/
def frailLeft : Outcome (Outcome Unit) × Scene Unit :=
  (frailBody frailHandle).run ⟨0⟩ ⟨(frailWorld.openScope ⟨0⟩ (.standalone 1) false).2, ()⟩

/-- An outermost call in a world in which nothing has happened yet. -/
def frailCall : Outcome (Outcome Unit) × Scene Unit :=
  (transaction (.standalone 1) false frailBody).run ⟨0⟩ ⟨frailWorld, ()⟩

/-- The policy commits, the body commits once, and the commit at the end fails and is followed by
an abort.  The call within the body asks for nothing, although it fails. -/
theorem frail_calls :
    frailCall.2.world.boundaryCalls (.external 1) =
        [⟨true, true⟩, ⟨true, true⟩, ⟨true, false⟩, ⟨false, true⟩] ∧
      ∃ ending, Ending frailLeft.1 frailCall.1 ending ∧
        frailCall.2.world.boundaryCalls (.external 1) =
          [⟨true, true⟩] ++ [⟨true, true⟩] ++ ending := by
  have unused : ∀ registry key, frailWorld.contextAt? registry key = none :=
    World.unused_addStandalone World.unused_empty _ none TransactionConfig.standard
  have lawful : (Traffic.begin frailWorld).Lawful [] := trivial
  obtain ⟨-, granted⟩ :=
    outermost_calls unused lawful ⟨0⟩ (.standalone 1) false frailBody () rfl rfl
  refine ⟨by decide +kernel, ?_⟩
  obtain ⟨ending, ends, calls⟩ := granted frailHandle
    (frailWorld.openScope ⟨0⟩ (.standalone 1) false).2 rfl
    ⟨⟨.head _, fun _ _ => ⟨rfl, rfl⟩⟩, fun _ => ⟨rfl, rfl⟩,
      ⟨⟨fun _ _ => rfl, Nat.le_refl _⟩, World.Makes.refl _⟩, rfl, trivial⟩
  have asked : Traffic.requested frailHandle
      ((Traffic.begin frailWorld).step (.call ⟨0⟩ (.standalone 1) false))
      ((frailBody frailHandle).events ⟨0⟩
        ⟨(frailWorld.openScope ⟨0⟩ (.standalone 1) false).2, ()⟩) = [⟨true, true⟩] := rfl
  have same : ((Traffic.begin frailWorld).run []).world = frailWorld := rfl
  have resource : (frailWorld.manager (.standalone 1)).resource = .external 1 := rfl
  have closing : frailWorld.boundaryCalls (.external 1) ++
      (frailWorld.manager (.standalone 1)).config.implicit.calls true = [⟨true, true⟩] := rfl
  rw [same] at ends calls
  rw [show (Traffic.begin frailWorld).run [] = Traffic.begin frailWorld from rfl, asked, resource,
    closing] at calls
  unfold frailLeft frailCall
  exact ⟨ending, ends, calls⟩

end Program

end RoutedGraph
