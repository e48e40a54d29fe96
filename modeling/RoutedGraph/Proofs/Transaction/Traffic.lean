import RoutedGraph.Proofs.Transaction.Opening

/-!
# Traffic

Many threads make transaction calls on one world, and each call runs a body
that may make further calls.  A call that starts hands out a handle and is
running until it finishes; what it does in between, and what other threads do
meanwhile, are events of their own.  Handles are values: they can be kept and
used by anyone at any time, also after the call that handed them out.  Traffic
keeps track of the handles of the running calls and of all handles ever handed
out.
-/

namespace RoutedGraph

/-- What a body asks of a resource, through a handle or without one. -/
inductive BoundaryRequest where
  | commit (handle : Handle)
  | rollback (handle : Handle) (message : Option String)
  | commitImplicit (id : ManagerId)
  | rollbackImplicit (id : ManagerId)
  | closeImplicit (id : ManagerId)

def BoundaryRequest.perform (world : World) :
    BoundaryRequest → Except TransactionError Unit × World
  | commit handle => world.commit handle
  | rollback handle message => world.rollback handle message
  | commitImplicit id => world.commitAll (world.manager id).resource
  | rollbackImplicit id => world.abortAll (world.manager id).resource
  | closeImplicit id => world.closeImplicit id

/-- One thing that happens.  A thread finishes the innermost call that it has running, and
whatever is not about transactions happens aside. -/
inductive Event where
  | call (thread : ThreadId) (id : ManagerId) (nesting : Bool)
  | finish (thread : ThreadId) (ending : Outcome Unit)
  | request (request : BoundaryRequest)
  | aside (after : World)

/-- A world with the handles of the running calls and of all calls that ever started, newest
first. -/
structure Traffic where
  world : World
  running : List Handle
  issued : List Handle

namespace Traffic

/-- No call has started yet. -/
def begin (start : World) : Traffic := ⟨start, [], []⟩

/-- The handle of the innermost call that a thread has running. -/
def innermost? (traffic : Traffic) (thread : ThreadId) : Option Handle :=
  traffic.running.find? fun handle => decide (handle.key.thread = thread)

/-- The handles of the scopes that are open under a key of a registry, innermost first. -/
def scopesOf (traffic : Traffic) (registry : ManagerId) (key : ContextKey) : List Handle :=
  traffic.running.filter fun handle => decide (handle.registry = registry ∧ handle.key = key)

def withWorld (traffic : Traffic) (world : World) : Traffic := { traffic with world := world }

/-- A call that is refused leaves at once, and one that starts is running. -/
def call (traffic : Traffic) (thread : ThreadId) (id : ManagerId) (nesting : Bool) : Traffic :=
  match traffic.world.openScope thread id nesting with
  | (.error _, refused) =>
      traffic.withWorld
        (refused.leave (traffic.world.registryId id) (traffic.world.key thread id))
  | (.ok handle, started) => ⟨started, handle :: traffic.running, handle :: traffic.issued⟩

/-- A call ends as its body ended, and leaves its scope. -/
def finish (traffic : Traffic) (thread : ThreadId) (ending : Outcome Unit) : Traffic :=
  match traffic.innermost? thread with
  | none => traffic
  | some handle =>
      { traffic with
        world := (traffic.world.conclude handle ending).2.leave handle.registry handle.key
        running := traffic.running.erase handle }

def step (traffic : Traffic) : Event → Traffic
  | .call thread id nesting => traffic.call thread id nesting
  | .finish thread ending => traffic.finish thread ending
  | .request request => traffic.withWorld (request.perform traffic.world).2
  | .aside after => traffic.withWorld after

def run (traffic : Traffic) (events : List Event) : Traffic := events.foldl step traffic

@[simp]
theorem run_nil (traffic : Traffic) : traffic.run [] = traffic := rfl

@[simp]
theorem run_cons (traffic : Traffic) (event : Event) (rest : List Event) :
    traffic.run (event :: rest) = (traffic.step event).run rest := rfl

theorem run_append (traffic : Traffic) (first second : List Event) :
    traffic.run (first ++ second) = (traffic.run first).run second :=
  List.foldl_append

/-- A call that starts is the newest one running. -/
theorem step_call_of_opened {traffic : Traffic} {thread : ThreadId} {id : ManagerId}
    {nesting : Bool} {handle : Handle} {started : World}
    (opened : traffic.world.openScope thread id nesting = (.ok handle, started)) :
    traffic.step (.call thread id nesting) =
      ⟨started, handle :: traffic.running, handle :: traffic.issued⟩ := by
  simp only [step, call, opened]

end Traffic

/-- What happens aside changes no context and takes no number of a scope back.  It may change
everything else: graphs, resources, configurations, and which managers there are. -/
structure World.Quiet (before after : World) : Prop where
  contexts : ∀ registry key, after.contextAt? registry key = before.contextAt? registry key
  nextScope : before.nextScope ≤ after.nextScope

namespace Traffic

/-- Contexts are changed by transaction calls only. -/
def Lawful (traffic : Traffic) : List Event → Prop
  | [] => True
  | event :: rest =>
      (∀ after, event = .aside after → traffic.world.Quiet after) ∧ (traffic.step event).Lawful rest

theorem lawful_append {traffic : Traffic} {first second : List Event} :
    traffic.Lawful (first ++ second) ↔
      traffic.Lawful first ∧ (traffic.run first).Lawful second := by
  induction first generalizing traffic with
  | nil => simp [Lawful]
  | cons event rest ih => simp [Lawful, ih, and_assoc]

end Traffic

/-- Requests change no context. -/
theorem World.sameScopes_perform (world : World) (request : BoundaryRequest) :
    World.SameScopes world (request.perform world).2 := by
  cases request with
  | commit handle => exact world.sameScopes_commit handle
  | rollback handle message => exact world.sameScopes_finishRollback handle message false
  | commitImplicit id => exact world.sameScopes_commitAll _
  | rollbackImplicit id => exact world.sameScopes_abortAll _
  | closeImplicit id => exact world.sameScopes_closeImplicit id

end RoutedGraph
