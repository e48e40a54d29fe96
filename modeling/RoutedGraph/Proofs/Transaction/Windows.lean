import RoutedGraph.Proofs.Pipe.Steps
import RoutedGraph.Proofs.Transaction.Opening
import RoutedGraph.Proofs.World.GraphStep

/-!
# Windows and transactions

Windows belong to routes.  What is done to graphs and what is done with scopes
is written to the log, and it changes no window and nobody's listening.
-/

namespace RoutedGraph

theorem Hub.Agree.symm {α : Type} {windows : List WindowId} {first second : Hub α}
    (agree : Agree windows first second) : Agree windows second first :=
  ⟨fun id member => (agree.hears id member).symm, fun id member => (agree.window id member).symm⟩

namespace World

/-- No window is changed, and the same listen to the same announcements. -/
structure SameWindows (before after : World) : Prop where
  subscribers : after.subscribers = before.subscribers
  windows : after.windows = before.windows

namespace SameWindows

variable {before middle after : World}

theorem refl (world : World) : SameWindows world world := ⟨rfl, rfl⟩

theorem trans (first : SameWindows before middle) (second : SameWindows middle after) :
    SameWindows before after :=
  ⟨second.subscribers.trans first.subscribers, second.windows.trans first.windows⟩

theorem emit (same : SameWindows before after) (event : LogEvent) :
    SameWindows before (after.emit event) := ⟨same.subscribers, same.windows⟩

theorem agree (same : SameWindows before after) (ids : List WindowId) :
    Hub.Agree ids before.toHub after.toHub where
  hears id _ := by
    funext events
    unfold Hub.hears Hub.listeners
    rw [same.subscribers]
  window id _ := by
    unfold Hub.window
    rw [same.windows]

end SameWindows

variable (world : World)

theorem sameWindows_write (graph : GraphId) (write : GraphWrite) :
    SameWindows world (world.write graph write).2 := ⟨rfl, rfl⟩

theorem sameWindows_cloneVertex (target source : GraphId) (vertex : Vertex) :
    SameWindows world (world.cloneVertex target source vertex).2 := by
  simp only [cloneVertex, emitAll_eq]
  split <;> exact ⟨rfl, rfl⟩

theorem sameWindows_cloneEdge (target source : GraphId) (edge : Edge) (options : CloneOptions) :
    SameWindows world (world.cloneEdge target source edge options).2 := by
  simp only [cloneEdge, emitAll_eq]
  split <;> exact ⟨rfl, rfl⟩

theorem sameWindows_commitAll (resource : ResourceId) :
    SameWindows world (world.commitAll resource).2 := by
  cases resource <;> exact ⟨rfl, rfl⟩

theorem sameWindows_abortAll (resource : ResourceId) :
    SameWindows world (world.abortAll resource).2 := by
  cases resource with
  | graph id =>
      unfold abortAll
      dsimp only
      split <;> exact ⟨rfl, rfl⟩
  | external number => exact ⟨rfl, rfl⟩

theorem sameWindows_frame : BoundaryFrame SameWindows where
  refl := SameWindows.refl
  trans := SameWindows.trans
  emit world event := (SameWindows.refl world).emit event
  commitAll := sameWindows_commitAll
  abortAll := sameWindows_abortAll

theorem sameWindows_commit (handle : Handle) : SameWindows world (world.commit handle).2 :=
  sameWindows_frame.commit world handle

theorem sameWindows_closeFor (id : ManagerId) (strategy : Strategy) :
    SameWindows world (world.closeFor id strategy).2 :=
  sameWindows_frame.closeFor world id strategy

theorem sameWindows_openScope (thread : ThreadId) (id : ManagerId) (nesting : Bool) :
    SameWindows world (world.openScope thread id nesting).2 := by
  have counted : SameWindows world (world.minted thread id).2 := by
    unfold minted takeToken
    split <;> exact ⟨rfl, rfl⟩
  rw [openScope_eq]
  split
  · exact ⟨rfl, rfl⟩
  · next strategy selected =>
      have closed := counted.trans (sameWindows_closeFor _ id strategy)
      dsimp only
      split
      · exact closed
      · exact ⟨closed.subscribers, closed.windows⟩

end World

end RoutedGraph
