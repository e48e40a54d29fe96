import Mathlib.Data.List.Nodup
import RoutedGraph.Proofs.Store.CloneRecords

/-!
# What removing a vertex takes along

Removing a vertex removes the edges at it first, one by one, and none of them
is missing when its turn comes.  So the removal succeeds, and all that can be
asked of the store afterwards is what it was before, less the vertex and its
edges.  The undo log notes every removed element once, and an abort brings them
all back, together with the clones they were.
-/

namespace RoutedGraph

namespace Dict

section Removed

variable {κ β : Type} [DecidableEq κ] {before after : Dict κ β} {gone : κ → Bool}
  (removed : ∀ key, after.get? key = if gone key then none else before.get? key)

include removed

/-- Where some keys are gone, the others are listed in the same order. -/
theorem keys_eq_filter [Ord κ] [Std.TransOrd κ] (ordered : before.Ordered)
    (remainingOrdered : after.Ordered) : after.keys = before.keys.filter fun key => !gone key := by
  refine eq_of_ascending remainingOrdered.keys (ordered.keys.filter _) ?_
  intro key
  rw [List.mem_filter, mem_keys_iff, mem_keys_iff]
  by_cases vanished : gone key = true <;> simp [contains, removed, vanished]

/-- Where some keys are gone, a look-up of those that are stored finds the others. -/
theorem filter_contains_eq_filter (looked : Option κ) :
    looked.filter after.contains = (looked.filter before.contains).filter fun key => !gone key := by
  cases looked with
  | none => rfl
  | some key =>
      by_cases vanished : gone key = true <;> by_cases stored : before.contains key = true <;>
        simp_all [Option.filter, contains]

end Removed

end Dict

namespace Store

/-- Whether an edge is stored and has a vertex as an endpoint. -/
def touches (store : Store) (id : VertexId) (edge : EdgeId) : Bool :=
  (store.edge? edge).any fun stored => decide (id ∈ stored.endpoints)

/-- A store without a vertex and the edges at it, as far as it can be asked. -/
structure Cascade (store : Store) (id : VertexId) (after : Store) : Prop where
  vertex? : ∀ other, after.vertex? other = if other = id then none else store.vertex? other
  edge? : ∀ edge, after.edge? edge = if store.touches id edge then none else store.edge? edge
  vertexIds : after.vertexIds = store.vertexIds.filter fun other => decide (other ≠ id)
  edgeIds : after.edgeIds = store.edgeIds.filter fun edge => !store.touches id edge
  edgesOut : ∀ other,
    after.edgesOut other = (store.edgesOut other).filter fun edge => !store.touches id edge
  edgesIn : ∀ other,
    after.edgesIn other = (store.edgesIn other).filter fun edge => !store.touches id edge
  edgesAt : ∀ other,
    after.edgesAt other = (store.edgesAt other).filter fun edge => !store.touches id edge
  edgesByLabel : ∀ label,
    after.edgesByLabel label =
      (store.edgesByLabel label).filter fun edge => !store.touches id edge
  vertexClone? : ∀ origin,
    after.vertexClone? origin = (store.vertexClone? origin).filter fun clone => decide (clone ≠ id)
  edgeClone? : ∀ origin,
    after.edgeClone? origin =
      (store.edgeClone? origin).filter fun clone => !store.touches id clone

section Edges

variable {store : Store}

theorem clones_removeEdges (store : Store) (ids : List EdgeId) :
    (store.removeEdges ids).2.vertexClones = store.vertexClones ∧
      (store.removeEdges ids).2.edgeClones = store.edgeClones := by
  induction ids generalizing store with
  | nil => exact ⟨rfl, rfl⟩
  | cons id rest ih =>
      cases found : store.edges.get? id with
      | none => simp [removeEdges, removeEdge, found]
      | some edge =>
          simp only [removeEdges, removeEdge_eq found]
          exact ih _

/-- Every edge that is removed is noted, the last one first. -/
theorem undo_removeEdges {ids : List EdgeId} (distinct : ids.Nodup)
    (stored : ∀ id ∈ ids, store.edges.contains id = true) :
    (store.removeEdges ids).2.undo = store.undo.map fun log =>
      ⟨((ids.filterMap store.edge?).map Change.removedEdge).reverse ++ log.changes⟩ := by
  induction ids generalizing store with
  | nil => cases logged : store.undo <;> simp [removeEdges, logged]
  | cons id rest ih =>
      obtain ⟨edge, found⟩ := (Dict.contains_iff_get? _ _).mp (stored id List.mem_cons_self)
      obtain ⟨apart, restDistinct⟩ := List.nodup_cons.mp distinct
      have shrunk : ∀ other ∈ rest,
          (store.removeEdge id).2.edge? other = store.edge? other := by
        intro other member
        have different : id ≠ other := fun same => apart (same ▸ member)
        rw [removeEdge_eq found]
        exact Dict.get?_erase_of_ne _ different
      have restStored : ∀ other ∈ rest, (store.removeEdge id).2.edges.contains other = true := by
        intro other member
        have present := stored other (List.mem_cons_of_mem _ member)
        obtain ⟨kept, keptFound⟩ := (Dict.contains_iff_get? _ _).mp present
        exact (Dict.contains_iff_get? _ _).mpr ⟨kept, (shrunk other member).trans keptFound⟩
      rw [removeEdges_cons found, ih restDistinct restStored, List.filterMap_congr shrunk,
        List.filterMap_cons_some (f := store.edge?) found, removeEdge_eq found]
      cases logged : store.undo <;> simp [record, detach, logged, UndoLog.record]

/-- Where some edges are gone, an index by some aspect of the edges lists the others. -/
theorem ids_eq_filter {κ : Type} [DecidableEq κ] [Ord κ] {before after : Dict EdgeId Edge}
    {gone : EdgeId → Bool}
    (removed : ∀ id, after.get? id = if gone id then none else before.get? id)
    {index remaining : Index κ EdgeId} (sound : index.Sound) (remainingSound : remaining.Sound)
    {aspect : Edge → κ}
    (follows : ∀ key id, id ∈ index.ids key ↔
      ∃ edge, before.get? id = some edge ∧ aspect edge = key)
    (remainingFollows : ∀ key id, id ∈ remaining.ids key ↔
      ∃ edge, after.get? id = some edge ∧ aspect edge = key) (key : κ) :
    remaining.ids key = (index.ids key).filter fun id => !gone id := by
  refine Dict.eq_of_ascending (remainingSound.ordered_bucket key).keys
    ((sound.ordered_bucket key).keys.filter _) ?_
  intro id
  rw [remainingFollows, removed, List.mem_filter, follows]
  by_cases vanished : gone id <;> simp [vanished]

/-- Where the edges out of and into a vertex are filtered, so are the edges at it. -/
theorem edgesAt_eq_filter {after : Store} {id : VertexId} {keep : EdgeId → Bool}
    (edgesOut : after.edgesOut id = (store.edgesOut id).filter keep)
    (edgesIn : after.edgesIn id = (store.edgesIn id).filter keep) :
    after.edgesAt id = (store.edgesAt id).filter keep := by
  rw [edgesAt, edgesOut, edgesIn, edgesAt, List.filter_append, List.filter_filter,
    List.filter_filter]
  congr 1
  refine List.filter_congr fun edge _ => ?_
  have holds : after.outgoing.holds id edge = (store.outgoing.holds id edge && keep edge) := by
    rw [Bool.eq_iff_iff, Bool.and_eq_true, Index.holds_iff_mem, Index.holds_iff_mem]
    change edge ∈ after.edgesOut id ↔ edge ∈ store.edgesOut id ∧ _
    rw [edgesOut, List.mem_filter]
  cases kept : keep edge <;> simp [holds, kept]

end Edges

section Vertex

variable {store : Store} {id : VertexId} {vertex : Vertex}

theorem touches_eq_true_iff {edge : EdgeId} : store.touches id edge = true ↔
    ∃ stored, store.edge? edge = some stored ∧ id ∈ stored.endpoints := by
  simp [touches, Option.any_eq_true]

theorem Consistent.mem_edgesAt_iff_touches (consistent : store.Consistent) (edge : EdgeId) :
    edge ∈ store.edgesAt id ↔ store.touches id edge = true := by
  rw [consistent.mem_edgesAt, touches_eq_true_iff]
  simp only [Edge.endpoints, List.mem_cons, List.not_mem_nil, or_false, eq_comm]
  rfl

/-- The edges at a vertex. -/
def incident (store : Store) (id : VertexId) : List Edge :=
  (store.edgesAt id).filterMap store.edge?

theorem Consistent.mem_incident (consistent : store.Consistent) (edge : Edge) :
    edge ∈ store.incident id ↔ store.edge? edge.id = some edge ∧ id ∈ edge.endpoints := by
  simp only [incident, List.mem_filterMap, consistent.mem_edgesAt_iff_touches, touches_eq_true_iff]
  constructor
  · rintro ⟨edgeId, ⟨stored, found, touches⟩, same⟩
    obtain rfl : edge = stored := Option.some.inj (same.symm.trans found)
    obtain rfl := consistent.content.edge_id found
    exact ⟨same, touches⟩
  · rintro ⟨found, touches⟩
    exact ⟨edge.id, ⟨edge, found, touches⟩, found⟩

theorem Consistent.nodup_incident (consistent : store.Consistent) (id : VertexId) :
    (store.incident id).Nodup := by
  refine (consistent.nodup_edgesAt id).filterMap ?_
  intro first second edge firstFound secondFound
  exact (consistent.content.edge_id firstFound).symm.trans
    (consistent.content.edge_id secondFound)

/-- The vertex and the edges at it are gone, and all answers follow. -/
theorem cascade_dropVertex {bare : Store} (consistent : store.Consistent)
    (removed : EdgesRemoved store (store.edgesAt id) bare)
    (droppedConsistent : (bare.dropVertex id vertex).Consistent)
    (vertexClones : bare.vertexClones = store.vertexClones)
    (edgeClones : bare.edgeClones = store.edgeClones) :
    Cascade store id (bare.dropVertex id vertex) := by
  have edges : ∀ edge, bare.edges.get? edge =
      if store.touches id edge then none else store.edges.get? edge := by
    intro edge
    rw [removed.edges]
    by_cases touches : store.touches id edge = true
    · rw [if_pos ((consistent.mem_edgesAt_iff_touches edge).mpr touches), if_pos touches]
    · rw [if_neg (mt (consistent.mem_edgesAt_iff_touches edge).mp touches), if_neg touches]
  have vertices : ∀ other, (bare.vertices.erase id).get? other =
      if decide (other = id) then none else store.vertices.get? other := by
    intro other
    rw [Dict.get?_erase, removed.vertices]
    by_cases same : id = other
    · simp [same]
    · simp [same, Ne.symm same]
  have before := consistent.content
  have after := droppedConsistent.content
  have edgesOut := ids_eq_filter edges before.outgoing_sound after.outgoing_sound
    before.mem_outgoing after.mem_outgoing
  have edgesIn := ids_eq_filter edges before.incoming_sound after.incoming_sound
    before.mem_incoming after.mem_incoming
  refine
    { vertex? := fun other => (vertices other).trans (by simp only [decide_eq_true_eq]; rfl)
      edge? := edges
      vertexIds := ?_
      edgeIds := Dict.keys_eq_filter edges before.edges_ordered after.edges_ordered
      edgesOut := edgesOut
      edgesIn := edgesIn
      edgesAt := fun other => edgesAt_eq_filter (edgesOut other) (edgesIn other)
      edgesByLabel := ids_eq_filter edges before.labels_sound after.labels_sound
        before.mem_labels after.mem_labels
      vertexClone? := fun origin => ?_
      edgeClone? := fun origin => ?_ }
  · refine (Dict.keys_eq_filter vertices before.vertices_ordered after.vertices_ordered).trans ?_
    simp only [decide_not]
    rfl
  · have kept := Dict.filter_contains_eq_filter vertices (store.vertexClones.get? origin)
    simpa [Store.vertexClone?, dropVertex, record, vertexClones] using kept
  · have kept := Dict.filter_contains_eq_filter edges (store.edgeClones.get? origin)
    simpa [Store.edgeClone?, dropVertex, record, edgeClones] using kept

end Vertex

section Abort

variable {store after : Store} {changes : List Change}

theorem Consistent.settled (consistent : store.Consistent)
    (transactional : store.isTransactional = true)
    (nothingPending : store.hasPendingChanges = false) : store.Settled where
  consistent := consistent
  undo := by
    obtain ⟨⟨noted⟩, logged⟩ := Option.isSome_iff_exists.mp transactional
    cases noted with
    | nil => exact logged
    | cons change rest => simp [hasPendingChanges, logged, UndoLog.isEmpty] at nothingPending

/-- An abort takes writes that record no clone back as if they had not been made. -/
theorem abort_restores (settled : store.Settled) (writes : Writes store changes after)
    (noVertexClone : ∀ origin, Change.vertexCloned origin ∉ changes)
    (noEdgeClone : ∀ origin, Change.edgeCloned origin ∉ changes) :
    after.abort.content = store.content ∧
      (∀ origin, after.abort.vertexClone? origin = store.vertexClone? origin) ∧
      ∀ origin, after.abort.edgeClone? origin = store.edgeClone? origin := by
  have rolledBack := rolledBack_abort settled writes
  exact ⟨rolledBack.content,
    fun origin => rolledBack.vertexClone?_of_unrecorded (noVertexClone origin),
    fun origin => rolledBack.edgeClone?_of_unrecorded (noEdgeClone origin)⟩

end Abort

/-- In every state that a run can reach, removing a vertex that is stored succeeds and takes along
just the edges at it, each once; without other pending changes, an abort brings everything back. -/
theorem removeVertex_cascades (transactional : Bool) (history : List Op) (id : VertexId)
    (vertex : Vertex) (found : ((empty transactional).run history).vertex? id = some vertex) :
    let store := (empty transactional).run history
    (store.removeEdges (store.edgesAt id)).1 = .ok () ∧
    ∃ after, store.removeVertex id = (.ok (), after) ∧ Cascade store id after ∧
      (∃ gone : List Edge, gone.Nodup ∧
        (∀ edge, edge ∈ gone ↔ store.edge? edge.id = some edge ∧ id ∈ edge.endpoints) ∧
        after.undo = store.undo.map fun log =>
          ⟨.removedVertex vertex :: (gone.map Change.removedEdge).reverse ++ log.changes⟩) ∧
      (store.isTransactional = true → store.hasPendingChanges = false →
        after.abort.content = store.content ∧
        (∀ origin, after.abort.vertexClone? origin = store.vertexClone? origin) ∧
        ∀ origin, after.abort.edgeClone? origin = store.edgeClone? origin) := by
  intro store
  have consistent : store.Consistent := consistent_run transactional history
  obtain ⟨bare, emptied, succeeded, removed, changes, writes, kinds⟩ :=
    removeVertex_spec consistent found
  have clones := store.clones_removeEdges (store.edgesAt id)
  rw [emptied] at clones
  refine ⟨congrArg Prod.fst emptied, bare.dropVertex id vertex, succeeded,
    cascade_dropVertex consistent removed writes.consistent clones.1 clones.2,
    ⟨store.incident id, consistent.nodup_incident id, consistent.mem_incident, ?_⟩, ?_⟩
  · have noted := undo_removeEdges (consistent.nodup_edgesAt id) fun edge member => by
      obtain ⟨stored, present, -⟩ := (consistent.mem_edgesAt id edge).mp member
      exact (Dict.contains_iff_get? _ _).mpr ⟨stored, present⟩
    rw [emptied] at noted
    change bare.undo.map (fun log => log.record _) = _
    rw [show bare.undo = _ from noted, Option.map_map]
    rfl
  · intro isTransactional nothingPending
    refine abort_restores (consistent.settled isTransactional nothingPending) writes ?_ ?_
    all_goals
      intro origin member
      rcases List.mem_cons.mp member with same | cascaded
      · cases same
      · obtain ⟨edge, same⟩ := kinds _ cascaded
        cases same

/-- Two vertices with two edges of one label between them and a self-loop, brought back by an
abort. -/
def restoredLoop : List Op :=
  [.addVertex Dict.empty, .addVertex Dict.empty, .addEdge "knows" ⟨1⟩ ⟨2⟩ Dict.empty,
    .addEdge "knows" ⟨1⟩ ⟨2⟩ Dict.empty, .addEdge "is" ⟨1⟩ ⟨1⟩ Dict.empty,
    .addEdge "is" ⟨2⟩ ⟨2⟩ Dict.empty, .recordEdgeClone ⟨⟨7⟩, ⟨5⟩⟩ ⟨3⟩, .commit,
    .removeVertex ⟨1⟩, .abort]

theorem removeVertex_cascades_restoredLoop :
    let store := (empty true).run restoredLoop
    store.vertex? ⟨1⟩ = some ⟨⟨1⟩, Dict.empty, none⟩ ∧
      ∃ after, store.removeVertex ⟨1⟩ = (.ok (), after) ∧
        after.edgeIds = [⟨4⟩] ∧ after.edgesIn ⟨2⟩ = [⟨4⟩] ∧ after.edgesByLabel "knows" = [] ∧
        store.edgeClone? ⟨⟨7⟩, ⟨5⟩⟩ = some ⟨3⟩ ∧ after.edgeClone? ⟨⟨7⟩, ⟨5⟩⟩ = none ∧
        after.abort.edgeClone? ⟨⟨7⟩, ⟨5⟩⟩ = some ⟨3⟩ := by
  intro store
  have found : store.vertex? ⟨1⟩ = some ⟨⟨1⟩, Dict.empty, none⟩ := rfl
  obtain ⟨-, after, succeeded, cascade, -, restored⟩ :=
    removeVertex_cascades true restoredLoop ⟨1⟩ _ found
  obtain ⟨-, -, edgeClones⟩ := restored rfl rfl
  refine ⟨found, after, succeeded, ?_, ?_, ?_, rfl, ?_, ?_⟩
  · rw [cascade.edgeIds]
    decide
  · rw [cascade.edgesIn]
    decide
  · rw [cascade.edgesByLabel]
    decide
  · rw [cascade.edgeClone?]
    decide
  · rw [edgeClones]
    rfl

end Store

end RoutedGraph
