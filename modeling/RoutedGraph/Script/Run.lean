import RoutedGraph.Script.Call

/-!
# Running scripts

The steps of a script run one after the other.  Every step that does not panic
is written down when it ends; a failure ends the script only if the step is
required.
-/

namespace RoutedGraph

namespace Script

/-- Whether a call fails by intention, which always ends the script it is in. -/
def Call.isFail : Call → Bool
  | fail _ => true
  | _ => false

/-- Run a step and write its end down.  A failure goes on if the step is required, and a panic
goes on without a record. -/
def finish (thread : ThreadId) (name : String) (required : Bool) (task : Run Reply) : Run Unit :=
  fun scene =>
    match task scene with
    | (.done reply, later) =>
        writeSummarized thread (Record.finished name (.ok reply)) later
    | (.failed error, later) =>
        let (_, written) := writeSummarized thread (Record.finished name (.error error)) later
        (if required then .failed error else .done (), written)
    | (.panicked message, later) => (.panicked message, later)

/-- Note the handle of a scope whose body begins. -/
def begin (thread : ThreadId) (name : Option String) (handle : Handle) : Run Unit := do
  match name with
  | some label => nameHandle label handle
  | none => Task.value ()
  writeSummarized thread (Record.began handle)

/-- Write down the item that a job gets, and fail if it is the one that fails. -/
def beginJob (thread : ThreadId) (failure : Option (Nat × RouteError)) (number : Nat)
    (item : Item) : Run Unit := do
  writeSummarized thread (Record.job number item)
  match failure with
  | some (position, error) => if number = position then Task.fail error else Task.value ()
  | none => Task.value ()

/-- Run a task on a thread of its own, which sees no routes and no announcements. -/
def onThread {α : Type} (task : ThreadId → Run α) : Run α := fun scene =>
  let (thread, numbered) := scene.world.addThread
  let alone : Session := { scene.rest with routes := Dict.empty, events := Dict.empty }
  let (outcome, after) := task thread ⟨numbered, alone⟩
  (outcome,
    { after with
      rest := { after.rest with routes := scene.rest.routes, events := scene.rest.events } })

mutual

def runStep (thread : ThreadId) : Step → Run Unit
  | .call required call =>
      finish thread call.name (required || call.isFail) (runCall thread call)
  | .transaction required name label nesting body result =>
      finish thread "tx" required do
        let manager ← managerNamed name
        transact thread manager nesting fun handle => do
          begin thread label handle
          runSteps thread body
          return .value result
  | .bulk required name target size failure job =>
      finish thread "bulk" required do
        let graph ← graphNamed target
        let route ← takeRoute name
        let count ← Bulk.run thread route graph size fun number item => do
          beginJob thread failure number item
          runSteps thread job
        return .number count
  | .caught required body =>
      finish thread "catch" required do
        let outcome ← Task.caught (runSteps thread body)
        return .outcome outcome
  | .thread required body =>
      finish thread "thread" required do
        let outcome ← onThread fun other => Task.caught (runSteps other body)
        return .outcome outcome

/-- Run steps one after the other, up to a failure that is not held back. -/
def runSteps (thread : ThreadId) : List Step → Run Unit
  | [] => Task.value ()
  | step :: rest => do
      runStep thread step
      runSteps thread rest

end

structure Report where
  trace : List Record
  ending : Outcome Unit
  graphs : Dict String Dump
  log : List LogEvent

/-- Run a script from the start, on the first thread. -/
def run (script : List Step) : Report :=
  let (ending, last) := runSteps ⟨0⟩ script ⟨World.empty, Session.empty⟩
  let final := collectNotes last
  { trace := final.rest.trace.reverse
    ending := ending
    graphs := final.rest.graphs.mapValues fun id => Dump.ofStore id (final.world.store id)
    log := final.world.log.reverse }

end Script

end RoutedGraph
