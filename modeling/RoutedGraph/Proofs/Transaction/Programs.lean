import RoutedGraph.Proofs.Transaction.Body
import RoutedGraph.Proofs.Transaction.Nesting

/-!
# Programs

A program is what one thread does: it asks for boundaries, makes transaction
calls with further programs as their bodies, catches failures and panics, and
does other things aside.  What comes next may depend on the outcome of what
came before.  A program runs as a task, and its run is traffic: the events of
the program lead to the same world, and all the calls that it has made are
finished when it ends.
-/

namespace RoutedGraph

/-- What one thread does. -/
inductive Program (χ : Type) : Type → Type 1 where
  | aside {α : Type} (task : Task (Scene χ) α) : Program χ α
  | request (boundary : BoundaryRequest) : Program χ Unit
  | andThen {α β : Type} (first : Program χ α) (next : α → Program χ β) : Program χ β
  | caught {α : Type} (program : Program χ α) : Program χ (Outcome α)
  | transaction {α : Type} (id : ManagerId) (nesting : Bool) (body : Handle → Program χ α) :
      Program χ α

/-- The way in which a task ended, without its value. -/
def Outcome.ending {α : Type} : Outcome α → Outcome Unit
  | .done _ => .done ()
  | .failed error => .failed error
  | .panicked message => .panicked message

/-- A scope ends alike whatever the value of its body. -/
theorem World.conclude_ending (world : World) (handle : Handle) {α : Type} (outcome : Outcome α) :
    (world.conclude handle outcome.ending).2 = (world.conclude handle outcome).2 := by
  cases outcome with
  | done value =>
      simp only [Outcome.ending, conclude]
      rcases world.commit handle with ⟨_ | _, _⟩ <;> rfl
  | failed error => rfl
  | panicked message => rfl

namespace Program

variable {χ α : Type}

def run (thread : ThreadId) : {α : Type} → Program χ α → Task (Scene χ) α
  | _, aside task => task
  | _, request boundary => Scene.attempt fun world => World.transactional (boundary.perform world)
  | _, andThen first next => (first.run thread).andThen fun value => (next value).run thread
  | _, caught program => Task.caught (program.run thread)
  | _, transaction id nesting body =>
      transact thread id nesting fun handle => (body handle).run thread

/-- What happens in the run of a program. -/
def events (thread : ThreadId) : {α : Type} → Program χ α → Scene χ → List Event
  | _, aside task, scene => [.aside (task scene).2.world]
  | _, request boundary, _ => [.request boundary]
  | _, andThen first next, scene =>
      match first.run thread scene with
      | (.done value, later) => first.events thread scene ++ (next value).events thread later
      | _ => first.events thread scene
  | _, caught program, scene => program.events thread scene
  | _, transaction id nesting body, scene =>
      match scene.world.openScope thread id nesting with
      | (.error _, _) => [.call thread id nesting]
      | (.ok handle, started) =>
          let opened : Scene χ := { scene with world := started }
          .call thread id nesting ::
            ((body handle).events thread opened ++
              [.finish thread ((body handle).run thread opened).1.ending])

/-- A transaction call opens a scope, runs its body, ends the scope as the body ended, and leaves
the scope. -/
theorem run_transaction (thread : ThreadId) (id : ManagerId) (nesting : Bool)
    (body : Handle → Program χ α) (scene : Scene χ) :
    (transaction id nesting body).run thread scene =
      match scene.world.openScope thread id nesting with
      | (.error error, refused) =>
          (.failed (.transaction error),
            { scene with
              world := refused.leave (scene.world.registryId id) (scene.world.key thread id) })
      | (.ok handle, started) =>
          let (outcome, after) := (body handle).run thread { scene with world := started }
          let (result, concluded) := after.world.conclude handle outcome
          (result,
            { after with
              world := concluded.leave (scene.world.registryId id) (scene.world.key thread id) }) :=
  rfl

/-- The run of a program is traffic that leaves the running calls as they were. -/
theorem run_events (thread : ThreadId) (program : Program χ α) (scene : Scene χ)
    (traffic : Traffic) (here : traffic.world = scene.world) :
    (traffic.run (program.events thread scene)).world = (program.run thread scene).2.world ∧
      (traffic.run (program.events thread scene)).running = traffic.running := by
  induction program generalizing scene traffic with
  | aside task => exact ⟨rfl, rfl⟩
  | request boundary =>
      refine ⟨?_, rfl⟩
      simp only [events, Traffic.run_cons, Traffic.run_nil, Traffic.step, here]
      rfl
  | andThen first next firstHolds nextHolds =>
      obtain ⟨world, running⟩ := firstHolds scene traffic here
      simp only [events, run, Task.andThen]
      generalize first.run thread scene = ended at world ⊢
      obtain ⟨outcome, later⟩ := ended
      cases outcome with
      | done value =>
          obtain ⟨nextWorld, nextRunning⟩ := nextHolds value later _ world
          rw [Traffic.run_append]
          exact ⟨nextWorld, nextRunning.trans running⟩
      | failed error => exact ⟨world, running⟩
      | panicked message => exact ⟨world, running⟩
  | caught program holds => exact holds scene traffic here
  | transaction id nesting body holds =>
      rw [run_transaction]
      simp only [events]
      generalize opened : scene.world.openScope thread id nesting = opening
      obtain ⟨result, started⟩ := opening
      cases result with
      | error error =>
          simp only [Traffic.run_cons, Traffic.run_nil, Traffic.step, Traffic.call, here, opened]
          exact ⟨rfl, rfl⟩
      | ok handle =>
          have bound := World.bound_openScope opened
          obtain ⟨world, running⟩ := holds handle { scene with world := started }
            ⟨started, handle :: traffic.running, handle :: traffic.issued⟩ rfl
          simp only [Traffic.run_cons, Traffic.run_append, Traffic.run_nil, Traffic.step,
            Traffic.call, here, opened]
          generalize (body handle).run thread { scene with world := started } = ended at world ⊢
          generalize Traffic.run ⟨started, handle :: traffic.running, handle :: traffic.issued⟩
            ((body handle).events thread { scene with world := started }) = left at world running ⊢
          -- The handle of the call is the first of its thread among the running ones.
          have innermost : left.innermost? thread = some handle := by
            have own : handle.key.thread = thread := by rw [bound.key]; rfl
            simp [Traffic.innermost?, running, own]
          simp only [Traffic.finish, innermost, running, List.erase_cons_head, world,
            World.conclude_ending, bound.registry, bound.key, and_self]

/-- A program ends with all contexts as they were when it started. -/
theorem contextAt?_run {traffic : Traffic} (sound : traffic.Sound) (thread : ThreadId)
    (program : Program χ α) (rest : χ)
    (lawful : traffic.Lawful (program.events thread ⟨traffic.world, rest⟩))
    (registry : ManagerId) (key : ContextKey) :
    (program.run thread ⟨traffic.world, rest⟩).2.world.contextAt? registry key =
      traffic.world.contextAt? registry key := by
  obtain ⟨world, running⟩ := program.run_events thread ⟨traffic.world, rest⟩ traffic rfl
  rw [← world, (sound.run lawful).contexts, sound.contexts, Traffic.scopesOf, running]
  rfl

end Program

end RoutedGraph
