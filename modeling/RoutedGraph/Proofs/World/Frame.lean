import RoutedGraph.World.Clone

/-!
# What a step of the world leaves alone

The stores, managers and registries of a world are read by identity.  Writing
one of them changes that one and leaves all others as they were, and writing
the log changes none of them.
-/

namespace RoutedGraph

namespace World

variable (world : World)

@[simp]
theorem store_setStore_self (id : GraphId) (store : Store) :
    (world.setStore id store).store id = store := by
  simp [World.store, setStore, Dict.getD]

theorem store_setStore_of_ne {id other : GraphId} (different : id ≠ other) (store : Store) :
    (world.setStore id store).store other = world.store other := by
  simp [World.store, setStore, Dict.getD, Dict.get?_insert_of_ne, different]

@[simp]
theorem store_emit (event : LogEvent) (id : GraphId) :
    (world.emit event).store id = world.store id := rfl

@[simp]
theorem store_setRegistry (manager : ManagerId) (registry : Registry) (id : GraphId) :
    (world.setRegistry manager registry).store id = world.store id := rfl

@[simp]
theorem registry_setRegistry_self (id : ManagerId) (registry : Registry) :
    (world.setRegistry id registry).registry id = registry := by
  simp [World.registry, setRegistry, Dict.getD]

theorem registry_setRegistry_of_ne {id other : ManagerId} (different : id ≠ other)
    (registry : Registry) :
    (world.setRegistry id registry).registry other = world.registry other := by
  simp [World.registry, setRegistry, Dict.getD, Dict.get?_insert_of_ne, different]

/-- Logging events in order only changes the log. -/
theorem emitAll_eq (events : List LogEvent) :
    world.emitAll events =
      { world with log := events.reverse ++ world.log } := by
  induction events generalizing world with
  | nil => rfl
  | cons event rest ih =>
      rw [show world.emitAll (event :: rest) = (world.emit event).emitAll rest from rfl, ih]
      simp [emit, withHub, Hub.emit]

@[simp]
theorem store_emitAll (events : List LogEvent) (id : GraphId) :
    (world.emitAll events).store id = world.store id := by
  rw [emitAll_eq]
  rfl

/-- Cloning a vertex changes the store of the target as cloning within the store does. -/
theorem store_cloneVertex {target source : GraphId} (foreign : source ≠ target)
    (vertex : Vertex) :
    (world.cloneVertex target source vertex).2.store target =
      ((world.store target).cloneVertex source vertex).2.1 := by
  simp [cloneVertex, foreign]

theorem store_cloneVertex_of_ne {target other : GraphId} (different : target ≠ other)
    (source : GraphId) (vertex : Vertex) :
    (world.cloneVertex target source vertex).2.store other = world.store other := by
  unfold cloneVertex
  split
  · rfl
  · simp [store_setStore_of_ne, different]

theorem store_cloneEdge {target source : GraphId} (foreign : source ≠ target) (edge : Edge)
    (options : CloneOptions) :
    (world.cloneEdge target source edge options).2.store target =
      ((world.store target).cloneEdge source (world.store source) edge options).2.1 := by
  simp [cloneEdge, foreign]

theorem store_cloneEdge_of_ne {target other : GraphId} (different : target ≠ other)
    (source : GraphId) (edge : Edge) (options : CloneOptions) :
    (world.cloneEdge target source edge options).2.store other = world.store other := by
  unfold cloneEdge
  split
  · rfl
  · simp [store_setStore_of_ne, different]

@[simp]
theorem store_commitAll (id : GraphId) :
    (world.commitAll (.graph id)).2.store id = (world.store id).commit := by
  simp [commitAll]

theorem store_commitAll_of_ne {id other : GraphId} (different : id ≠ other) :
    (world.commitAll (.graph id)).2.store other = world.store other := by
  simp [commitAll, store_setStore_of_ne, different]

/-- A graph that takes no part in transactions refuses to abort, which its store would ignore. -/
@[simp]
theorem store_abortAll (id : GraphId) :
    (world.abortAll (.graph id)).2.store id = (world.store id).abort := by
  cases logged : (world.store id).undo with
  | none => simp [abortAll, Store.isTransactional, Store.abort, logged]
  | some log => simp [abortAll, Store.isTransactional, logged]

theorem store_abortAll_of_ne {id other : GraphId} (different : id ≠ other) :
    (world.abortAll (.graph id)).2.store other = world.store other := by
  unfold abortAll
  dsimp only
  split
  · simp [store_setStore_of_ne, different]
  · rfl

end World

end RoutedGraph
