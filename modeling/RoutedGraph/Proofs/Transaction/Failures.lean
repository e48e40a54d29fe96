import RoutedGraph.Proofs.Transaction.BoundaryCalls
import RoutedGraph.Proofs.Transaction.Liveness
import RoutedGraph.Proofs.Transaction.Programs

/-!
# Failures of transaction calls

A transaction call neither hides a failure nor puts another one in its place.
It fails to start for the reason for which its scope is refused, fails as its
body failed, and fails as the commit at its end failed if the body succeeded.
The rollback on the way out only leaves a warning if it fails as well, and
outside the base strategy it does not fail, because the scope is still open
then.  So whatever fails within any number of calls fails all of them alike,
up to where it is caught.
-/

namespace RoutedGraph

/-- The warnings about a rollback while unwinding: one if it failed. -/
def Handle.warningsOf (handle : Handle) : Except TransactionError Unit → List LogEvent
  | .ok () => []
  | .error error => [.unwindingFailed handle.token error]

namespace World

/-- The warnings in the log, newest first. -/
def warnings (world : World) : List LogEvent := world.log.filter fun event => event.level = .warn

variable (world : World)

theorem warnings_emit {event : LogEvent} (minor : event.level ≠ .warn) :
    (world.emit event).warnings = world.warnings := by
  simp [warnings, emit, withHub, Hub.emit, minor]

theorem warnings_unwindingFailed (token : Token) (error : TransactionError) :
    (world.emit (.unwindingFailed token error)).warnings =
      .unwindingFailed token error :: world.warnings := by
  simp [warnings, emit, withHub, Hub.emit, LogEvent.level]

theorem warnings_commitAll (resource : ResourceId) :
    (world.commitAll resource).2.warnings = world.warnings := by
  cases resource with
  | graph id => exact (world.setStore id _).warnings_emit (by simp [LogEvent.level])
  | external number => rfl

theorem warnings_abortAll (resource : ResourceId) :
    (world.abortAll resource).2.warnings = world.warnings := by
  cases resource with
  | graph id =>
      simp only [abortAll]
      split
      · exact (world.setStore id _).warnings_emit (by simp [LogEvent.level])
      · rfl
  | external number => rfl

theorem warnings_closeFor (id : ManagerId) (strategy : Strategy) :
    (world.closeFor id strategy).2.warnings = world.warnings := by
  unfold closeFor closeImplicit
  dsimp only
  split
  · split
    · exact world.warnings_commitAll _
    · exact world.warnings_abortAll _
    · rfl
  · rfl

theorem warnings_minted (thread : ThreadId) (id : ManagerId) :
    (world.minted thread id).2.warnings = world.warnings := by
  rw [warnings, (world.minted_same thread id).1, warnings]

theorem warnings_bindScope (registry : ManagerId) (key : ContextKey) (previous : Nat)
    (strategy : Strategy) (token : Token) :
    (world.bindScope registry key previous strategy token).2.warnings = world.warnings :=
  warnings_emit _ (by simp [LogEvent.level])

/-- A start warns of nothing. -/
theorem warnings_openScope (thread : ThreadId) (id : ManagerId) (nesting : Bool) :
    (world.openScope thread id nesting).2.warnings = world.warnings := by
  have closed := fun strategy =>
    ((world.minted thread id).2.warnings_closeFor id strategy).trans
      (world.warnings_minted thread id)
  rw [openScope_eq]
  split
  · rfl
  · next strategy selected =>
      dsimp only
      split
      · exact closed strategy
      · exact (warnings_bindScope _ _ _ _ _ _).trans (closed strategy)

theorem warnings_leave (registry : ManagerId) (key : ContextKey) :
    (world.leave registry key).warnings = world.warnings := rfl

theorem warnings_commit (handle : Handle) :
    (world.commit handle).2.warnings = world.warnings := by
  unfold commit
  split
  · have committed := world.warnings_commitAll handle.key.resource
    unfold commitLive
    split
    · generalize world.commitAll handle.key.resource = outcome at committed
      obtain ⟨result, later⟩ := outcome
      cases result with
      | ok value => exact (later.warnings_emit (by simp [LogEvent.level])).trans committed
      | error error => exact committed
    all_goals exact world.warnings_emit (by simp [LogEvent.level])
  · rfl

theorem warnings_finishRollback (handle : Handle) (message : Option String) (unwinding : Bool) :
    (world.finishRollback handle message unwinding).2.warnings = world.warnings := by
  have noted : (world.emit (.rolledBack handle.token handle.strategy message)).warnings =
      world.warnings := world.warnings_emit (by simp [LogEvent.level])
  unfold finishRollback
  split
  · simp only [rollbackLive]
    split
    · exact (warnings_abortAll _ _).trans noted
    · split <;> exact noted
  · rfl

/-- Unwinding warns of its rollback and of nothing else. -/
theorem warnings_unwind (handle : Handle) (message : String) :
    (world.unwind handle message).warnings =
      handle.warningsOf (world.finishRollback handle (some message) true).1 ++
        world.warnings := by
  have rolledBack := world.warnings_finishRollback handle (some message) true
  unfold unwind
  generalize world.finishRollback handle (some message) true = outcome at rolledBack ⊢
  obtain ⟨result, later⟩ := outcome
  cases result with
  | ok value => exact rolledBack
  | error error => exact (later.warnings_unwindingFailed _ _).trans (congrArg _ rolledBack)

end World

namespace World

variable {world : World} {thread : ThreadId} {id : ManagerId} {nesting : Bool}

/-- The strategy of the scope that a call opens, or why the call does not start: no strategy is
granted, or closing what is pending fails. -/
def admission (world : World) (thread : ThreadId) (id : ManagerId) (nesting : Bool) :
    Except TransactionError Strategy :=
  match Strategy.select (world.isNative id) (world.depth thread id) nesting with
  | .error error => .error error
  | .ok strategy =>
      match (world.closeFor id strategy).1 with
      | .error error => .error error
      | .ok () => .ok strategy

/-- A call starts exactly if it is admitted, with the strategy that it is admitted with. -/
theorem openScope_admission (world : World) (thread : ThreadId) (id : ManagerId)
    (nesting : Bool) :
    (world.openScope thread id nesting).1.map Handle.strategy =
      world.admission thread id nesting := by
  have closing : ∀ strategy,
      ((world.minted thread id).2.closeFor id strategy).1 = (world.closeFor id strategy).1 := by
    intro strategy
    unfold closeFor
    split
    · exact world.minted_closing thread id
    · rfl
  rw [openScope_eq]
  unfold admission
  cases Strategy.select (world.isNative id) (world.depth thread id) nesting with
  | error error => rfl
  | ok strategy =>
      simp only [closing]
      cases (world.closeFor id strategy).1 <;> rfl

theorem openScope_of_refused {error : TransactionError}
    (refused : world.admission thread id nesting = .error error) :
    ∃ later, world.openScope thread id nesting = (.error error, later) := by
  have admission := world.openScope_admission thread id nesting
  rw [refused] at admission
  generalize world.openScope thread id nesting = opening at admission ⊢
  obtain ⟨result, later⟩ := opening
  cases result with
  | ok handle => cases admission
  | error cause => exact ⟨later, by rw [Except.error.inj admission]⟩

theorem openScope_of_admitted {strategy : Strategy}
    (admitted : world.admission thread id nesting = .ok strategy) :
    ∃ handle started, world.openScope thread id nesting = (.ok handle, started) ∧
      handle.strategy = strategy := by
  have admission := world.openScope_admission thread id nesting
  rw [admitted] at admission
  generalize world.openScope thread id nesting = opening at admission ⊢
  obtain ⟨result, started⟩ := opening
  cases result with
  | ok handle => exact ⟨handle, started, rfl, Except.ok.inj admission⟩
  | error cause => cases admission

end World

variable {χ α β γ : Type}

/-- A transaction call opens a scope, runs its body, ends the scope as the body ended, and leaves
the scope. -/
theorem transact_eq (thread : ThreadId) (id : ManagerId) (nesting : Bool)
    (body : Handle → Task (Scene χ) α) (scene : Scene χ) :
    transact thread id nesting body scene =
      match scene.world.openScope thread id nesting with
      | (.error error, refused) =>
          (.failed (.transaction error),
            { scene with
              world := refused.leave (scene.world.registryId id) (scene.world.key thread id) })
      | (.ok handle, started) =>
          let (outcome, after) := body handle { scene with world := started }
          let (result, concluded) := after.world.conclude handle outcome
          (result,
            { after with
              world := concluded.leave (scene.world.registryId id)
                (scene.world.key thread id) }) := rfl

/-- The body of a call that is refused does not run. -/
theorem transact_of_refused {thread : ThreadId} {id : ManagerId} {nesting : Bool}
    {scene : Scene χ} {error : TransactionError} {refused : World}
    (opened : scene.world.openScope thread id nesting = (.error error, refused))
    (body : Handle → Task (Scene χ) α) :
    transact thread id nesting body scene =
      (.failed (.transaction error),
        ⟨refused.leave (scene.world.registryId id) (scene.world.key thread id), scene.rest⟩) := by
  rw [transact_eq, opened]

/-- Through a live handle, a rollback while unwinding reaches the resource with the base strategy,
and does nothing that could fail otherwise. -/
theorem World.finishRollback_unwinding {world : World} {handle : Handle}
    (live : world.isLive handle = true) (message : String) :
    (world.finishRollback handle (some message) true).1 =
      if handle.strategy = .base then (world.abortAll handle.key.resource).1 else .ok () := by
  have unlogged : ∀ event, ((world.emit event).abortAll handle.key.resource).1 =
      (world.abortAll handle.key.resource).1 := by
    intro event
    have stores : (world.emit event).stores = world.stores := rfl
    exact (boundary_of_same stores rfl _).2
  simp only [finishRollback, live, if_true, rollbackLive]
  cases strategy : handle.strategy with
  | base => simp [Strategy.rollbackRequest?, unlogged]
  | _ => simp [Strategy.rollbackRequest?]

/-- Through a live handle, a commit fails exactly as the resource does with the base strategy. -/
theorem World.commit_live_result {world : World} {handle : Handle}
    (live : world.isLive handle = true) :
    (world.commit handle).1 =
      if handle.strategy = .base then (world.commitAll handle.key.resource).1 else .ok () := by
  simp only [commit, live, if_true, commitLive]
  cases handle.strategy with
  | base =>
      rcases world.commitAll handle.key.resource with ⟨_ | _, _⟩ <;> rfl
  | _ => rfl

/-- How the rollback ends that a scope makes while unwinding, if it makes one: because its body
failed or panicked, or because its commit failed. -/
def World.unwound? (world : World) (handle : Handle) :
    Outcome α → Option (Except TransactionError Unit)
  | .done _ =>
      match world.commit handle with
      | (.ok (), _) => none
      | (.error error, refused) =>
          some (refused.finishRollback handle (some error.message) true).1
  | .failed error => some (world.finishRollback handle (some error.message) true).1
  | .panicked _ => some (world.finishRollback handle (some "panicked") true).1

/-- A scope warns of its own rollback while unwinding, exactly if it fails, and of nothing else. -/
theorem World.warnings_conclude (world : World) (handle : Handle) (outcome : Outcome α) :
    (world.conclude handle outcome).2.warnings =
      (world.unwound? handle outcome).elim [] handle.warningsOf ++ world.warnings := by
  cases outcome with
  | done value =>
      have committed := world.warnings_commit handle
      simp only [conclude, unwound?]
      generalize world.commit handle = ended at committed ⊢
      obtain ⟨result, later⟩ := ended
      cases result with
      | ok value => exact committed
      | error error => exact (later.warnings_unwind handle _).trans (congrArg _ committed)
  | failed error => exact world.warnings_unwind handle error.message
  | panicked message => exact world.warnings_unwind handle "panicked"

/-- How a call ends whose body has left an outcome and a scene. -/
structure Handle.Surfaces (handle : Handle) (left call : Outcome α × Scene χ) : Prop where
  /-- The body's own failure, in the world that the rollback has left, whether it failed or not. -/
  failed : ∀ error, left.1 = .failed error → call.1 = .failed error ∧
    call.2.world = (left.2.world.unwind handle error.message).leave handle.registry handle.key
  /-- The body's panic, in the world that the rollback has left. -/
  panicked : ∀ message, left.1 = .panicked message → call.1 = .panicked message ∧
    call.2.world = (left.2.world.unwind handle "panicked").leave handle.registry handle.key
  /-- The failure of the commit, whatever becomes of the rollback. -/
  uncommitted : ∀ value error, left.1 = .done value →
    (left.2.world.commit handle).1 = .error error → call.1 = .failed (.transaction error)
  done : ∀ value, left.1 = .done value → (left.2.world.commit handle).1 = .ok () →
    call.1 = .done value
  /-- A commit and a rollback while unwinding end as those of the resource if the scope is a base
  scope, and do not fail otherwise. -/
  boundaries : (left.2.world.commit handle).1 =
      (if handle.strategy = .base then (left.2.world.commitAll handle.key.resource).1 else .ok ()) ∧
    ∀ message, (left.2.world.finishRollback handle (some message) true).1 =
      (if handle.strategy = .base then (left.2.world.abortAll handle.key.resource).1 else .ok ())
  /-- A warning is added exactly if the rollback while unwinding failed. -/
  warned : call.2.world.warnings =
    (left.2.world.unwound? handle left.1).elim [] handle.warningsOf ++ left.2.world.warnings
  /-- No rollback while unwinding fails outside the base strategy. -/
  silent : handle.strategy ≠ .base → ∀ result,
    left.2.world.unwound? handle left.1 = some result → result = .ok ()

/-- A live scope does not fail while unwinding, unless it is a base scope whose resource does. -/
theorem World.unwound?_of_live {world : World} {handle : Handle}
    (live : world.isLive handle = true) (inner : handle.strategy ≠ .base) (outcome : Outcome α)
    (result : Except TransactionError Unit)
    (unwound : world.unwound? handle outcome = some result) : result = .ok () := by
  have rolledBack := fun message => finishRollback_unwinding live message
  have committed := commit_live_result live
  simp only [inner, if_false] at rolledBack committed
  cases outcome with
  | done value =>
      simp only [unwound?] at unwound
      generalize world.commit handle = ended at committed unwound
      obtain ⟨ending, later⟩ := ended
      obtain rfl : ending = .ok () := committed
      cases unwound
  | failed error => exact (Option.some.inj unwound).symm.trans (rolledBack error.message)
  | panicked message => exact (Option.some.inj unwound).symm.trans (rolledBack "panicked")

/-- A call whose scope was granted surfaces what its body has left, if the scope is still open
then. -/
theorem surfaces_transact {thread : ThreadId} {id : ManagerId} {nesting : Bool} {scene : Scene χ}
    {handle : Handle} {started : World}
    (opened : scene.world.openScope thread id nesting = (.ok handle, started))
    (body : Handle → Task (Scene χ) α)
    (live : (body handle ⟨started, scene.rest⟩).2.world.isLive handle = true) :
    handle.Surfaces (body handle ⟨started, scene.rest⟩)
      (transact thread id nesting body scene) := by
  have bound := World.bound_openScope opened
  rw [transact_eq, opened, ← bound.registry, ← bound.key]
  dsimp only
  generalize body handle ⟨started, scene.rest⟩ = left at live ⊢
  obtain ⟨outcome, after⟩ := left
  refine ⟨?_, ?_, ?_, ?_, ?_, ?_, ?_⟩
  · rintro error rfl
    exact ⟨rfl, rfl⟩
  · rintro message rfl
    exact ⟨rfl, rfl⟩
  · rintro value error rfl refused
    simp only [World.conclude]
    split
    · next ended => rw [ended] at refused; cases refused
    · next other _ ended => rw [ended] at refused; rw [Except.error.inj refused]
  · rintro value rfl committed
    simp only [World.conclude]
    split
    · rfl
    · next ended => rw [ended] at committed; cases committed
  · exact ⟨World.commit_live_result live, World.finishRollback_unwinding live⟩
  · exact after.world.warnings_conclude handle outcome
  · exact fun inner => World.unwound?_of_live live inner outcome

/-- What happens while a body runs: the body and other threads do lawful things, and the body has
finished all the calls that it has made when it ends. -/
def Traffic.Hosts (traffic : Traffic) (handle : Handle) (after : World) : Prop :=
  ∃ events, traffic.Lawful events ∧
    (traffic.run events).innermost? handle.key.thread = some handle ∧
    (traffic.run events).world = after

theorem Traffic.Hosts.isLive {traffic : Traffic} {handle : Handle} {after : World}
    (hosts : traffic.Hosts handle after) (sound : traffic.Sound) : after.isLive handle = true := by
  obtain ⟨events, lawful, innermost, rfl⟩ := hosts
  have ended := sound.run lawful
  have running := List.mem_of_find?_eq_some innermost
  exact (ended.isLive_iff (ended.handedOut.subset running)).mpr running

/-- The body of a call may be any program. -/
theorem Program.hosts {traffic : Traffic} {handle : Handle} {thread : ThreadId}
    (own : handle.key.thread = thread) (program : Program χ α) (rest : χ)
    (innermost : traffic.innermost? thread = some handle)
    (lawful : traffic.Lawful (program.events thread ⟨traffic.world, rest⟩)) :
    traffic.Hosts handle (program.run thread ⟨traffic.world, rest⟩).2.world := by
  obtain ⟨world, running⟩ := program.run_events thread ⟨traffic.world, rest⟩ traffic rfl
  refine ⟨_, lawful, ?_, world⟩
  rw [own, Traffic.innermost?, running]
  exact innermost

/-- A task does another one at some point, in sequence or in the bodies of transaction calls, and
catches nothing around it. -/
inductive Encloses (inner : Task (Scene χ) α) (within : Scene χ) :
    {β : Type} → Task (Scene χ) β → Scene χ → Prop where
  | here : Encloses inner within inner within
  | first {β γ : Type} {task : Task (Scene χ) β} {scene : Scene χ}
      (next : β → Task (Scene χ) γ) (encloses : Encloses inner within task scene) :
      Encloses inner within (task.andThen next) scene
  | next {β γ : Type} {task : Task (Scene χ) β} {next : β → Task (Scene χ) γ}
      {scene later : Scene χ} {value : β} (done : task scene = (.done value, later))
      (encloses : Encloses inner within (next value) later) :
      Encloses inner within (task.andThen next) scene
  | body {β : Type} {thread : ThreadId} {id : ManagerId} {nesting : Bool}
      {body : Handle → Task (Scene χ) β} {scene : Scene χ} {handle : Handle} {started : World}
      (opened : scene.world.openScope thread id nesting = (.ok handle, started))
      (encloses : Encloses inner within (body handle) ⟨started, scene.rest⟩) :
      Encloses inner within (transact thread id nesting body) scene

/-- What does not succeed ends everything around it in the same way. -/
theorem Encloses.ending {inner : Task (Scene χ) α} {within : Scene χ} {outer : Task (Scene χ) β}
    {around : Scene χ} (encloses : Encloses inner within outer around) {ending : Outcome Unit}
    (ended : (inner within).1.ending = ending) (unsuccessful : ending ≠ .done ()) :
    (outer around).1.ending = ending := by
  induction encloses with
  | here => exact ended
  | @first β γ task scene next encloses ih =>
      simp only [Task.andThen]
      generalize task scene = left at ih ⊢
      obtain ⟨outcome, later⟩ := left
      cases outcome with
      | done value => exact absurd ih.symm unsuccessful
      | failed error => exact ih
      | panicked message => exact ih
  | next done encloses ih =>
      simp only [Task.andThen, done]
      exact ih
  | @body β thread id nesting body scene handle started opened encloses ih =>
      rw [transact_eq, opened]
      dsimp only
      generalize body handle ⟨started, scene.rest⟩ = left at ih ⊢
      obtain ⟨outcome, after⟩ := left
      cases outcome with
      | done value => exact absurd ih.symm unsuccessful
      | failed error => exact ih
      | panicked message => exact ih

theorem Outcome.ending_eq_failed {outcome : Outcome α} {error : RouteError} :
    outcome.ending = .failed error ↔ outcome = .failed error := by
  cases outcome <;> simp [Outcome.ending]

theorem Outcome.ending_eq_panicked {outcome : Outcome α} {message : String} :
    outcome.ending = .panicked message ↔ outcome = .panicked message := by
  cases outcome <;> simp [Outcome.ending]

theorem Encloses.failed {inner : Task (Scene χ) α} {within : Scene χ} {outer : Task (Scene χ) β}
    {around : Scene χ} (encloses : Encloses inner within outer around) {error : RouteError}
    (raised : (inner within).1 = .failed error) : (outer around).1 = .failed error :=
  Outcome.ending_eq_failed.mp
    (encloses.ending (Outcome.ending_eq_failed.mpr raised) (by simp))

theorem Encloses.panicked {inner : Task (Scene χ) α} {within : Scene χ}
    {outer : Task (Scene χ) β} {around : Scene χ} (encloses : Encloses inner within outer around)
    {message : String} (raised : (inner within).1 = .panicked message) :
    (outer around).1 = .panicked message :=
  Outcome.ending_eq_panicked.mp
    (encloses.ending (Outcome.ending_eq_panicked.mpr raised) (by simp))

/-- Failures are neither hidden nor replaced.  Whatever has happened before, a call that is not
admitted fails with the reason, whatever its body is, and warns of nothing.  A call that is
admitted starts with the strategy it is admitted with, and surfaces what its body leaves: the
failure or the panic of the body, or else the failure of the commit, or else the value of the body.
What fails or panics within any calls ends all of them alike, up to where it is caught. -/
theorem failures_surface {start : World}
    (unused : ∀ registry key, start.contextAt? registry key = none) {past : List Event}
    (lawful : (Traffic.begin start).Lawful past) (thread : ThreadId) (id : ManagerId)
    (nesting : Bool) (rest : χ) :
    let reached := (Traffic.begin start).run past
    let scene : Scene χ := ⟨reached.world, rest⟩
    (∀ error, reached.world.admission thread id nesting = .error error →
      ∃ final : Scene χ, final.rest = rest ∧ final.world.warnings = reached.world.warnings ∧
        ∀ body : Handle → Task (Scene χ) α,
          transact thread id nesting body scene = (.failed (.transaction error), final)) ∧
    (∀ strategy, reached.world.admission thread id nesting = .ok strategy →
      ∃ handle started, reached.world.openScope thread id nesting = (.ok handle, started) ∧
        handle.strategy = strategy ∧ started.warnings = reached.world.warnings ∧
        ∀ body : Handle → Task (Scene χ) α,
          let left := body handle ⟨started, rest⟩
          (reached.step (.call thread id nesting)).Hosts handle left.2.world →
            handle.Surfaces left (transact thread id nesting body scene)) ∧
    (∀ (inner : Task (Scene χ) β) (within : Scene χ) (outer : Task (Scene χ) γ)
        (around : Scene χ), Encloses inner within outer around →
      (∀ error, (inner within).1 = .failed error →
        (outer around).1 = .failed error ∧ (outer.caught around).1 = .done (.failed error)) ∧
      ∀ message, (inner within).1 = .panicked message →
        (outer around).1 = .panicked message ∧
          (outer.caught around).1 = .done (.panicked message)) := by
  intro reached scene
  have sound : reached.Sound := Traffic.sound_run unused lawful
  refine ⟨?_, ?_, ?_⟩
  · intro error refused
    obtain ⟨later, opened⟩ := World.openScope_of_refused refused
    have silent := reached.world.warnings_openScope thread id nesting
    rw [opened] at silent
    exact ⟨⟨later.leave (reached.world.registryId id) (reached.world.key thread id), rest⟩, rfl,
      (later.warnings_leave _ _).trans silent, transact_of_refused opened⟩
  · intro strategy admitted
    obtain ⟨handle, started, opened, granted⟩ := World.openScope_of_admitted admitted
    have silent := reached.world.warnings_openScope thread id nesting
    rw [opened] at silent
    refine ⟨handle, started, opened, granted, silent, ?_⟩
    intro body left hosts
    have called : (reached.step (.call thread id nesting)).Sound := sound.call thread id nesting
    have live : left.2.world.isLive handle = true := hosts.isLive called
    have granted : scene.world.openScope thread id nesting = (.ok handle, started) := opened
    exact surfaces_transact granted body live
  · intro inner within outer around encloses
    refine ⟨fun error raised => ?_, fun message raised => ?_⟩
    · have failed := encloses.failed raised
      exact ⟨failed, congrArg Outcome.done failed⟩
    · have panicked := encloses.panicked raised
      exact ⟨panicked, congrArg Outcome.done panicked⟩

/-- A resource whose first abort fails, with a manager that commits what is pending. -/
def stuckWorld : World :=
  (World.empty.addStandalone (.inl ⟨true, [], [0], []⟩) none TransactionConfig.standard).2

/-- Ask for a rollback in an inner scope. -/
def askInside (_ : Handle) : Program Unit Unit :=
  .transaction (.standalone 1) true fun inner => .request (.rollback inner (some "stop"))

/-- The handle of the first scope on the resource. -/
def stuckHandle : Handle := ⟨.base, ⟨1⟩, ⟨1⟩, 1, ⟨⟨0⟩, .external 1⟩, .standalone 1⟩

/-- What is left when the request has reached the end of the outer body. -/
def stuckLeft : Outcome Unit × Scene Unit :=
  (askInside stuckHandle).run ⟨0⟩ ⟨(stuckWorld.openScope ⟨0⟩ (.standalone 1) false).2, ()⟩

def stuckCall : Outcome Unit × Scene Unit :=
  transact ⟨0⟩ (.standalone 1) false (fun handle => (askInside handle).run ⟨0⟩) ⟨stuckWorld, ()⟩

/-- The request of an inner scope ends the outermost call, although the rollback that the request
asks for fails; the inner scope warns of nothing, and the outer one of its rollback. -/
theorem request_outlives_stuck_abort :
    stuckCall.1 = .failed (.transaction (.nestedRollback "stop")) ∧
      stuckLeft.2.world.warnings = [] ∧
      stuckCall.2.world.warnings = [.unwindingFailed ⟨1⟩ (.resource "abort #0 failed")] := by
  have unused : ∀ registry key, stuckWorld.contextAt? registry key = none :=
    World.unused_addStandalone World.unused_empty _ none TransactionConfig.standard
  have lawful : (Traffic.begin stuckWorld).Lawful [] := trivial
  obtain ⟨-, admitted, -⟩ :=
    failures_surface (α := Unit) (β := Unit) (γ := Unit) unused lawful ⟨0⟩ (.standalone 1) false ()
  obtain ⟨handle, started, opened, -, -, surfaces⟩ := admitted .base rfl
  obtain ⟨granted, rfl⟩ := Prod.mk.inj (opened.symm.trans
    (rfl : _ = (Except.ok stuckHandle, (stuckWorld.openScope ⟨0⟩ (.standalone 1) false).2)))
  obtain rfl := Except.ok.inj granted
  have called : (Traffic.begin stuckWorld).step (.call ⟨0⟩ (.standalone 1) false) =
      ⟨(stuckWorld.openScope ⟨0⟩ (.standalone 1) false).2, [stuckHandle], [stuckHandle]⟩ := rfl
  rw [Traffic.run_nil, called] at surfaces
  have ends : stuckHandle.Surfaces stuckLeft stuckCall :=
    surfaces (fun handle => (askInside handle).run ⟨0⟩)
      (Program.hosts rfl (askInside stuckHandle) () rfl ⟨nofun, nofun, nofun, trivial⟩)
  have raised : stuckLeft.1 = .failed (.transaction (.nestedRollback "stop")) := rfl
  have unwarned : stuckLeft.2.world.warnings = [] :=
    List.isEmpty_iff.mp (by decide +kernel)
  have stuck : stuckLeft.2.world.unwound? stuckHandle stuckLeft.1 =
      some (.error (.resource "abort #0 failed")) := by decide +kernel
  refine ⟨(ends.failed _ raised).1, unwarned, ?_⟩
  rw [ends.warned, unwarned, stuck]
  rfl

end RoutedGraph
