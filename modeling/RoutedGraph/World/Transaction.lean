import RoutedGraph.Fault
import RoutedGraph.World.Basic

/-!
# Transactions

A task runs over a state and ends in one of three ways: with a value, with a
failure, or in a panic, which nothing but an explicit catch handles.  Whatever
way it ends, the state is what it made of it.

A transaction call opens a scope, runs its body with a handle on the scope, and
commits the scope if the body succeeds; if the body fails or panics, the scope
is rolled back and the failure or the panic goes on.  The registry counts the
scope from before it is known to start until after it has ended, whatever way
it ends.
-/

namespace RoutedGraph

/-- How a task ends. -/
inductive Outcome (α : Type) where
  | done (value : α)
  | failed (error : RouteError)
  | panicked (message : String)

namespace Outcome

variable {α β : Type}

def ofExcept : Except RouteError α → Outcome α
  | .ok value => done value
  | .error error => failed error

def map (change : α → β) : Outcome α → Outcome β
  | done value => done (change value)
  | failed error => failed error
  | panicked message => panicked message

end Outcome

/-- A computation over a state. -/
def Task (σ α : Type) : Type := σ → Outcome α × σ

namespace Task

variable {σ α β : Type}

def value (result : α) : Task σ α := fun state => (.done result, state)

/-- Go on with the value of a task; a failure or a panic ends both. -/
def andThen (task : Task σ α) (next : α → Task σ β) : Task σ β := fun state =>
  match task state with
  | (.done result, later) => next result later
  | (.failed error, later) => (.failed error, later)
  | (.panicked message, later) => (.panicked message, later)

instance : Monad (Task σ) where
  pure := value
  bind := andThen

def fail (error : RouteError) : Task σ α := fun state => (.failed error, state)

def panic (message : String) : Task σ α := fun state => (.panicked message, state)

def modify (change : σ → σ) : Task σ Unit := fun state => (.done (), change state)

/-- Turn the end of a task, whichever it is, into its value. -/
def caught (task : Task σ α) : Task σ (Outcome α) := fun state =>
  let (outcome, later) := task state
  (.done outcome, later)

end Task

/-- A handle on one transaction scope. -/
structure Handle where
  strategy : Strategy
  token : Token
  scope : ScopeId
  depth : Nat
  key : ContextKey
  registry : ManagerId
  deriving DecidableEq

/-- The shared state together with what else a task works on. -/
structure Scene (χ : Type) where
  world : World
  rest : χ

namespace Scene

variable {χ α : Type}

def withHub (scene : Scene χ) (hub : Hub Item) : Scene χ :=
  { scene with world := scene.world.withHub hub }

/-- Run a step of the shared state that may fail. -/
def attempt (run : World → Except RouteError α × World) : Task (Scene χ) α := fun scene =>
  let (result, later) := run scene.world
  (Outcome.ofExcept result, { scene with world := later })

def step (run : World → α × World) : Task (Scene χ) α := fun scene =>
  let (result, later) := run scene.world
  (.done result, { scene with world := later })

def modify (change : World → World) : Task (Scene χ) Unit := fun scene =>
  (.done (), { scene with world := change scene.world })

end Scene

namespace TransactionError

/-- A handle was used after its scope had ended. -/
def outsideBlock (action : String) : TransactionError :=
  .internal ("Can not " ++ action ++ " transaction outside its original block")

end TransactionError

namespace Strategy

/-- The request that a rollback makes where it cannot reach the resource. -/
def rollbackRequest? (strategy : Strategy) (message : Option String) : Option TransactionError :=
  match strategy with
  | base => none
  | nested => some (.nestedRollback (message.getD "Can not rollback a nested transaction"))
  | mockBase => some (.mockRollback (message.getD "Can not rollback a mock transaction"))
  | mockNested =>
      some (.nestedMockRollback (message.getD "Can not rollback a mock or nested transaction"))

end Strategy

namespace World

/-- Whether the scope of a handle is still open. -/
def isLive (world : World) (handle : Handle) : Bool :=
  match (world.registry handle.registry).snapshot? handle.key with
  | some context =>
      decide (context.token = some handle.token) && context.isOpen handle.scope handle.depth
  | none => false

/-- What a commit through a live handle does: only the base strategy reaches the resource. -/
def commitLive (world : World) (handle : Handle) : Except TransactionError Unit × World :=
  match handle.strategy with
  | .base =>
      match world.commitAll handle.key.resource with
      | (.ok (), committed) => (.ok (), committed.emit (.committed handle.token))
      | (.error error, refused) => (.error error, refused)
  | .mockBase => (.ok (), world.emit (.mockCommitted handle.token))
  | .nested => (.ok (), world.emit (.nestedCommitted handle.token handle.depth))
  | .mockNested => (.ok (), world.emit (.nestedCommitted handle.token handle.depth))

def commit (world : World) (handle : Handle) : Except TransactionError Unit × World :=
  if world.isLive handle then world.commitLive handle
  else (.error (.outsideBlock "commit"), world)

/-- What a rollback through a live handle does: only the base strategy reaches the resource, and
the others ask the enclosing scope, unless a failure is on its way there already. -/
def rollbackLive (world : World) (handle : Handle) (message : Option String) (unwinding : Bool) :
    Except TransactionError Unit × World :=
  let noted := world.emit (.rolledBack handle.token handle.strategy message)
  match handle.strategy.rollbackRequest? message with
  | none => noted.abortAll handle.key.resource
  | some request => if unwinding then (.ok (), noted) else (.error request, noted)

/-- Roll back, on request or while unwinding. -/
def finishRollback (world : World) (handle : Handle) (message : Option String)
    (unwinding : Bool) : Except TransactionError Unit × World :=
  if world.isLive handle then world.rollbackLive handle message unwinding
  else (.error (.outsideBlock "rollback"), world)

/-- Roll back the work done since the last commit. -/
def rollback (world : World) (handle : Handle) (message : Option String) :
    Except TransactionError Unit × World :=
  world.finishRollback handle message false

/-- Roll back because of a failure; a rollback that fails as well is only logged. -/
def unwind (world : World) (handle : Handle) (message : String) : World :=
  match world.finishRollback handle (some message) true with
  | (.ok (), unwound) => unwound
  | (.error error, stuck) => stuck.emit (.unwindingFailed handle.token error)

/-- Do with pending writes what the policy of a manager says. -/
def closeImplicit (world : World) (id : ManagerId) : Except TransactionError Unit × World :=
  let manager := world.manager id
  match manager.config.implicit with
  | .commit => world.commitAll manager.resource
  | .rollback => world.abortAll manager.resource
  | .ignore => (.ok (), world)

/-- The token of the enclosing scope, or a new one. -/
def takeToken (world : World) (registry : ManagerId) (key : ContextKey) (previous : Nat) :
    Token × World :=
  match previous, (world.registry registry).token? key with
  | _ + 1, some token => (token, world)
  | _, _ => (⟨world.nextToken⟩, { world with nextToken := world.nextToken + 1 })

/-- Bind a scope that has been entered, and hand out its handle. -/
def bindScope (world : World) (registry : ManagerId) (key : ContextKey) (previous : Nat)
    (strategy : Strategy) (token : Token) : Handle × World :=
  let scope : ScopeId := ⟨world.nextScope⟩
  let numbered : World := { world with nextScope := world.nextScope + 1 }
  let bound :=
    numbered.setRegistry registry ((numbered.registry registry).bind key token strategy scope)
  (⟨strategy, token, scope, previous + 1, key, registry⟩,
    bound.emit (.started token (previous + 1) strategy))

/-- Start a scope that has been entered at a depth. -/
def start (world : World) (thread : ThreadId) (id : ManagerId) (previous : Nat)
    (nesting : Bool) : Except TransactionError Handle × World :=
  let manager := world.manager id
  let key := world.key thread id
  let native := !manager.config.disabled && world.takesPart manager.resource
  match Strategy.select native previous nesting with
  | .error error => (.error error, world)
  | .ok strategy =>
      let (token, minted) := world.takeToken manager.registry key previous
      let (closed, ready) := if strategy.isReal then minted.closeImplicit id else (.ok (), minted)
      match closed with
      | .error error => (.error error, ready)
      | .ok () =>
          let (handle, bound) := ready.bindScope manager.registry key previous strategy token
          (.ok handle, bound)

/-- Count a scope in, and answer the depth before. -/
def enter (world : World) (registry : ManagerId) (key : ContextKey) : Nat × World :=
  let (previous, entered) := (world.registry registry).enter key
  (previous, world.setRegistry registry entered)

/-- Count a scope out. -/
def leave (world : World) (registry : ManagerId) (key : ContextKey) : World :=
  world.setRegistry registry ((world.registry registry).exit key)

/-- End a scope as its body ended: commit it, or unwind it and let the failure or the panic go
on.  A commit that fails counts as a failure. -/
def conclude (world : World) (handle : Handle) {α : Type} : Outcome α → Outcome α × World
  | .done value =>
      match world.commit handle with
      | (.ok (), committed) => (.done value, committed)
      | (.error error, refused) =>
          (.failed (.transaction error), refused.unwind handle error.message)
  | .failed error => (.failed error, world.unwind handle error.message)
  | .panicked message => (.panicked message, world.unwind handle "panicked")

end World

/-- Run a body inside a transaction scope. -/
def transact {χ α : Type} (thread : ThreadId) (id : ManagerId) (nesting : Bool)
    (body : Handle → Task (Scene χ) α) : Task (Scene χ) α := fun scene =>
  let registry := (scene.world.manager id).registry
  let key := scene.world.key thread id
  let (previous, entered) := scene.world.enter registry key
  match entered.start thread id previous nesting with
  | (.error error, refused) =>
      (.failed (.transaction error), { scene with world := refused.leave registry key })
  | (.ok handle, started) =>
      let (outcome, after) := body handle { scene with world := started }
      let (result, concluded) := after.world.conclude handle outcome
      (result, { after with world := concluded.leave registry key })

end RoutedGraph
