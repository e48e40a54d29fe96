import RoutedGraph.Proofs.Store.Writes

/-!
# Rolling back

A boundary leaves an empty undo log.  However many writes follow it, an abort
leads back to the content that the boundary left, so that whatever a run does,
the store it leaves is consistent.  Counters of identifiers are never turned
back, and of the clones an abort forgets those that were recorded since.
-/

namespace RoutedGraph

namespace Store

theorem next_foldl_revert (changes : List Change) (store : Store) :
    (changes.foldl revert store).nextVertex = store.nextVertex ∧
      (changes.foldl revert store).nextEdge = store.nextEdge := by
  induction changes generalizing store with
  | nil => exact ⟨rfl, rfl⟩
  | cons change rest ih =>
      rw [List.foldl_cons]
      have later := ih (store.revert change)
      rw [revert_eq] at later
      rw [revert_eq]
      exact later

open Classical in
theorem vertexClones_foldl_revert (changes : List Change) (store : Store)
    (origin : Foreign VertexId) :
    (changes.foldl revert store).vertexClones.get? origin =
      if Change.vertexCloned origin ∈ changes then none
      else store.vertexClones.get? origin := by
  induction changes generalizing store with
  | nil => simp
  | cons change rest ih =>
      rw [List.foldl_cons, ih, revert_eq]
      by_cases later : Change.vertexCloned origin ∈ rest
      · simp [later]
      · cases change with
        | vertexCloned other =>
            by_cases same : other = origin
            · simp [same]
            · simp [later, Dict.get?_erase, same, Ne.symm same]
        | _ => simp [later]

open Classical in
theorem edgeClones_foldl_revert (changes : List Change) (store : Store)
    (origin : Foreign EdgeId) :
    (changes.foldl revert store).edgeClones.get? origin =
      if Change.edgeCloned origin ∈ changes then none
      else store.edgeClones.get? origin := by
  induction changes generalizing store with
  | nil => simp
  | cons change rest ih =>
      rw [List.foldl_cons, ih, revert_eq]
      by_cases later : Change.edgeCloned origin ∈ rest
      · simp [later]
      · cases change with
        | edgeCloned other =>
            by_cases same : other = origin
            · simp [same]
            · simp [later, Dict.get?_erase, same, Ne.symm same]
        | _ => simp [later]

/-- A transactional store that is consistent and in which no write is pending. -/
structure Settled (store : Store) : Prop where
  consistent : store.Consistent
  undo : store.undo = some UndoLog.empty

theorem settled_empty : (empty true).Settled where
  consistent := consistent_empty true
  undo := rfl

theorem Settled.not_pending {store : Store} (settled : store.Settled) :
    ¬ store.hasPendingChanges = true := by
  simp [hasPendingChanges, settled.undo, UndoLog.isEmpty, UndoLog.empty]

/-- A commit leaves nothing pending. -/
theorem hasPendingChanges_commit (store : Store) : store.commit.hasPendingChanges = false := by
  cases logged : store.undo <;>
    simp [commit, hasPendingChanges, logged, UndoLog.isEmpty, UndoLog.empty]

/-- With nothing pending, an abort changes nothing. -/
theorem abort_eq_self {store : Store} (settled : store.hasPendingChanges = false) :
    store.abort = store := by
  obtain ⟨vertices, edges, nextVertex, nextEdge, outgoing, incoming, labels, vertexClones,
    edgeClones, undo⟩ := store
  cases undo with
  | none => rfl
  | some log =>
      obtain ⟨changes⟩ := log
      cases changes with
      | nil => rfl
      | cons change rest => simp [hasPendingChanges, UndoLog.isEmpty] at settled

theorem Consistent.commit {store : Store} (consistent : store.Consistent) :
    store.commit.Consistent :=
  ⟨consistent.content, consistent.vertex_lt, consistent.edge_lt⟩

theorem settled_commit {store : Store} (consistent : store.Consistent)
    (transactional : store.isTransactional = true) : store.commit.Settled where
  consistent := consistent.commit
  undo := by
    obtain ⟨log, present⟩ := Option.isSome_iff_exists.mp transactional
    simp [commit, present]

/-- What an abort leaves of a store that comes from a settled one by writes. -/
structure RolledBack (base : Store) (changes : List Change) (store after : Store) : Prop where
  settled : after.Settled
  content : after.content = base.content
  nextVertex : after.nextVertex = store.nextVertex
  nextEdge : after.nextEdge = store.nextEdge
  vertexClones_forgotten : ∀ origin, Change.vertexCloned origin ∈ changes →
    after.vertexClones.get? origin = none
  vertexClones_kept : ∀ origin, Change.vertexCloned origin ∉ changes →
    after.vertexClones.get? origin = base.vertexClones.get? origin
  edgeClones_forgotten : ∀ origin, Change.edgeCloned origin ∈ changes →
    after.edgeClones.get? origin = none
  edgeClones_kept : ∀ origin, Change.edgeCloned origin ∉ changes →
    after.edgeClones.get? origin = base.edgeClones.get? origin

theorem rolledBack_abort {base store : Store} {changes : List Change} (settled : base.Settled)
    (writes : Writes base changes store) : RolledBack base changes store store.abort := by
  -- The log of a settled store is empty, so that it holds exactly the changes made since.
  have logged : store.undo = some ⟨changes⟩ := by
    rw [writes.undo, settled.undo]
    simp [UndoLog.empty]
  have aborted : store.abort =
      { changes.foldl revert { store with undo := none } with undo := some UndoLog.empty } := by
    simp only [abort, logged]
  have sameContent : store.abort.content = base.content := by
    rw [aborted, ← writes.rewind]
    exact content_foldl_revert changes { store with undo := none }
  have sameVertices : store.abort.vertices = base.vertices := congrArg Content.vertices sameContent
  have sameEdges : store.abort.edges = base.edges := congrArg Content.edges sameContent
  have sameNextVertex : store.abort.nextVertex = store.nextVertex := by
    rw [aborted]
    exact (next_foldl_revert changes { store with undo := none }).1
  have sameNextEdge : store.abort.nextEdge = store.nextEdge := by
    rw [aborted]
    exact (next_foldl_revert changes { store with undo := none }).2
  have vertexClones := vertexClones_foldl_revert changes { store with undo := none }
  have edgeClones := edgeClones_foldl_revert changes { store with undo := none }
  refine ⟨⟨⟨?_, ?_, ?_⟩, ?_⟩, sameContent, sameNextVertex, sameNextEdge, ?_, ?_, ?_, ?_⟩
  · rw [sameContent]
    exact settled.consistent.content
  · intro id vertex found
    rw [sameVertices] at found
    rw [sameNextVertex]
    exact Nat.lt_of_lt_of_le (settled.consistent.vertex_lt found) writes.nextVertex_le
  · intro id edge found
    rw [sameEdges] at found
    rw [sameNextEdge]
    exact Nat.lt_of_lt_of_le (settled.consistent.edge_lt found) writes.nextEdge_le
  · rw [aborted]
  · intro origin recorded
    rw [aborted]
    simpa [recorded] using vertexClones origin
  · intro origin unrecorded
    rw [aborted, ← writes.vertexClones origin unrecorded]
    simpa [unrecorded] using vertexClones origin
  · intro origin recorded
    rw [aborted]
    simpa [recorded] using edgeClones origin
  · intro origin unrecorded
    rw [aborted, ← writes.edgeClones origin unrecorded]
    simpa [unrecorded] using edgeClones origin

/-- What holds at the start and is kept by every operation holds after every run. -/
theorem run_induction {motive : Store → Prop} {store : Store} (start : motive store)
    (step : ∀ {current : Store} (op : Op), motive current → motive (current.apply op).2)
    (history : List Op) : motive (store.run history) := by
  induction history generalizing store with
  | nil => exact start
  | cons op rest ih => exact ih (step op start)

/-- A transactional store that comes from a settled one by writes that can be taken back. -/
def Recoverable (store : Store) : Prop :=
  ∃ base changes, base.Settled ∧ Writes base changes store

theorem Settled.recoverable {store : Store} (settled : store.Settled) : store.Recoverable :=
  ⟨store, [], settled, Writes.refl settled.consistent⟩

theorem Recoverable.consistent {store : Store} (recoverable : store.Recoverable) :
    store.Consistent := by
  obtain ⟨base, changes, -, writes⟩ := recoverable
  exact writes.consistent

theorem Recoverable.isTransactional {store : Store} (recoverable : store.Recoverable) :
    store.isTransactional = true := by
  obtain ⟨base, changes, settled, writes⟩ := recoverable
  simp [Store.isTransactional, writes.undo, settled.undo]

theorem Recoverable.settled {store : Store} (recoverable : store.Recoverable) {op : Op}
    (boundary : op.isBoundary = true) : (store.apply op).2.Settled := by
  cases op with
  | commit => exact settled_commit recoverable.consistent recoverable.isTransactional
  | abort =>
      obtain ⟨base, changes, settled, writes⟩ := recoverable
      exact (rolledBack_abort settled writes).settled
  | _ => simp [Op.isBoundary] at boundary

/-- Commit and abort settle a store, and all other operations can be taken back. -/
theorem Recoverable.apply {store : Store} (recoverable : store.Recoverable) (op : Op) :
    (store.apply op).2.Recoverable := by
  by_cases boundary : op.isBoundary = true
  · exact (recoverable.settled boundary).recoverable
  · obtain ⟨changes, later, -⟩ := writes_apply recoverable.consistent (by simpa using boundary)
    obtain ⟨base, earlier, settled, writes⟩ := recoverable
    exact ⟨base, changes ++ earlier, settled, writes.trans later⟩

theorem recoverable_run (history : List Op) : ((empty true).run history).Recoverable :=
  run_induction settled_empty.recoverable (fun op reached => reached.apply op) history

/-- Without an undo log, commit and abort do nothing, and writes keep a store consistent. -/
theorem consistent_apply_of_undo_eq_none {store : Store} (consistent : store.Consistent)
    (logless : store.undo = none) (op : Op) :
    (store.apply op).2.Consistent ∧ (store.apply op).2.undo = none := by
  by_cases boundary : op.isBoundary = true
  · cases op with
    | commit => exact ⟨consistent.commit,
        by simp [Store.apply, commit, logless]⟩
    | abort => simpa [Store.apply, abort, logless] using consistent
    | _ => simp [Op.isBoundary] at boundary
  · obtain ⟨changes, writes, -⟩ := writes_apply consistent (by simpa using boundary)
    exact ⟨writes.consistent, by simp [writes.undo, logless]⟩

theorem consistent_run (transactional : Bool) (history : List Op) :
    ((empty transactional).run history).Consistent := by
  cases transactional with
  | true => exact (recoverable_run history).consistent
  | false =>
      have kept : ((empty false).run history).Consistent ∧
          ((empty false).run history).undo = none :=
        run_induction (motive := fun store => store.Consistent ∧ store.undo = none)
          ⟨consistent_empty false, rfl⟩
          (fun op reached => consistent_apply_of_undo_eq_none reached.1 reached.2 op) history
      exact kept.1

/-- Whatever a run does, elements are stored under their own identifiers, which have all been
handed out, edges lie between stored vertices, and the indexes list exactly the stored edges and
keep no empty set. -/
theorem run_represents (transactional : Bool) (history : List Op) :
    let store := (empty transactional).run history
    (∀ id vertex, store.vertex? id = some vertex →
      vertex.id = id ∧ id.raw < store.nextVertex) ∧
    (∀ id edge, store.edge? id = some edge →
      edge.id = id ∧ id.raw < store.nextEdge ∧
        (∃ vertex, store.vertex? edge.outVertex = some vertex) ∧
        ∃ vertex, store.vertex? edge.inVertex = some vertex) ∧
    (∀ vertex id, id ∈ store.edgesOut vertex ↔
      ∃ edge, store.edge? id = some edge ∧ edge.outVertex = vertex) ∧
    (∀ vertex id, id ∈ store.edgesIn vertex ↔
      ∃ edge, store.edge? id = some edge ∧ edge.inVertex = vertex) ∧
    (∀ label id, id ∈ store.edgesByLabel label ↔
      ∃ edge, store.edge? id = some edge ∧ edge.label = label) ∧
    (∀ vertex, (store.edgesOut vertex).Nodup ∧ (store.edgesIn vertex).Nodup) ∧
    (∀ label, (store.edgesByLabel label).Nodup) ∧
    (∀ vertex bucket, store.outgoing.buckets.get? vertex = some bucket → bucket.keys ≠ []) ∧
    (∀ vertex bucket, store.incoming.buckets.get? vertex = some bucket → bucket.keys ≠ []) ∧
    (∀ label bucket, store.labels.buckets.get? label = some bucket → bucket.keys ≠ []) := by
  intro store
  have consistent : store.Consistent := consistent_run transactional history
  have content := consistent.content
  have nonempty : ∀ {bucket : Dict EdgeId Unit}, bucket.isEmpty = false → bucket.keys ≠ [] := by
    intro bucket inhabited emptied
    simp [Dict.isEmpty, List.map_eq_nil_iff.mp emptied] at inhabited
  refine ⟨?_, ?_, content.mem_outgoing, content.mem_incoming, content.mem_labels, ?_, ?_, ?_, ?_,
    ?_⟩
  · intro id vertex found
    exact ⟨content.vertex_id found, consistent.vertex_lt found⟩
  · intro id edge found
    exact ⟨content.edge_id found, consistent.edge_lt found,
      (Dict.contains_iff_get? _ _).mp (content.outVertex_stored found),
      (Dict.contains_iff_get? _ _).mp (content.inVertex_stored found)⟩
  · intro vertex
    exact ⟨content.outgoing_sound.nodup_ids vertex, content.incoming_sound.nodup_ids vertex⟩
  · intro label
    exact content.labels_sound.nodup_ids label
  · intro vertex bucket found
    exact nonempty (content.outgoing_sound.bucket_inhabited found)
  · intro vertex bucket found
    exact nonempty (content.incoming_sound.bucket_inhabited found)
  · intro label bucket found
    exact nonempty (content.labels_sound.bucket_inhabited found)

end Store

end RoutedGraph
