import RoutedGraph.Proofs.Store.Rollback

/-!
# Rolling back to a saved copy

A copying store is the plain way to roll back: it saves a full copy of its
elements at every commit and puts the copy back at every abort.  It has no undo
log and no index; it finds the edges of a vertex or a label by going through all
edges.  The store with an undo log gives the same answers and shows the same
content after every run.
-/

namespace RoutedGraph

/-- Vertices and edges, without any index. -/
structure Elements where
  vertices : Dict VertexId Vertex
  edges : Dict EdgeId Edge

/-- All that can be observed of the content of a store. -/
structure Observation where
  vertices : Dict VertexId Vertex
  edges : Dict EdgeId Edge
  edgesOut : VertexId → List EdgeId
  edgesIn : VertexId → List EdgeId
  edgesByLabel : String → List EdgeId

namespace Elements

def empty : Elements := ⟨Dict.empty, Dict.empty⟩

/-- The edges that pass a test, in ascending order. -/
def edgesWith (elements : Elements) (test : Edge → Bool) : List EdgeId :=
  (elements.edges.entries.filter fun entry => test entry.2).map Prod.fst

def observe (elements : Elements) : Observation where
  vertices := elements.vertices
  edges := elements.edges
  edgesOut id := elements.edgesWith fun edge => decide (edge.outVertex = id)
  edgesIn id := elements.edgesWith fun edge => decide (edge.inVertex = id)
  edgesByLabel label := elements.edgesWith fun edge => decide (edge.label = label)

/-- The elements without a vertex and without the edges at it. -/
def withoutVertex (elements : Elements) (id : VertexId) : Elements where
  vertices := elements.vertices.erase id
  edges :=
    ⟨elements.edges.entries.filter fun entry =>
      decide (entry.2.outVertex ≠ id ∧ entry.2.inVertex ≠ id)⟩

end Elements

/-- A store that saves a copy of its elements at every commit. -/
structure CopyStore where
  current : Elements
  saved : Elements
  nextVertex : Nat
  nextEdge : Nat

namespace CopyStore

def empty : CopyStore := ⟨Elements.empty, Elements.empty, 1, 1⟩

def apply (copy : CopyStore) : Store.Op → Except GraphError Store.Answer × CopyStore
  | .addVertex properties =>
      let id : VertexId := ⟨copy.nextVertex⟩
      (.ok (.vertex id),
        { copy with
          current := { copy.current with
            vertices := copy.current.vertices.insert id ⟨id, properties, none⟩ }
          nextVertex := copy.nextVertex + 1 })
  | .addEdge label outVertex inVertex properties =>
      if !copy.current.vertices.contains outVertex then (.error (.vertexNotFound outVertex), copy)
      else if !copy.current.vertices.contains inVertex then
        (.error (.vertexNotFound inVertex), copy)
      else
        let id : EdgeId := ⟨copy.nextEdge⟩
        (.ok (.edge id),
          { copy with
            current := { copy.current with
              edges := copy.current.edges.insert id
                ⟨id, label, outVertex, inVertex, properties, none⟩ }
            nextEdge := copy.nextEdge + 1 })
  | .setProperty id name value =>
      match copy.current.vertices.get? id with
      | none => (.error (.vertexNotFound id), copy)
      | some vertex =>
          let changed : Vertex := { vertex with properties := vertex.properties.insert name value }
          (.ok .done,
            { copy with current := { copy.current with
              vertices := copy.current.vertices.insert id changed } })
  | .removeVertex id =>
      if copy.current.vertices.contains id then
        (.ok .done, { copy with current := copy.current.withoutVertex id })
      else (.error (.vertexNotFound id), copy)
  | .removeEdge id =>
      if copy.current.edges.contains id then
        (.ok .done,
          { copy with current := { copy.current with edges := copy.current.edges.erase id } })
      else (.error (.edgeNotFound id), copy)
  | .recordVertexClone _ _ => (.ok .done, copy)
  | .recordEdgeClone _ _ => (.ok .done, copy)
  | .commit => (.ok .done, { copy with saved := copy.current })
  | .abort => (.ok .done, { copy with current := copy.saved })

/-- The copying store after a history. -/
def run (copy : CopyStore) (history : List Store.Op) : CopyStore :=
  history.foldl (fun current op => (current.apply op).2) copy

end CopyStore

namespace Store

def elements (store : Store) : Elements := ⟨store.vertices, store.edges⟩

def observe (store : Store) : Observation where
  vertices := store.vertices
  edges := store.edges
  edgesOut := store.edgesOut
  edgesIn := store.edgesIn
  edgesByLabel := store.edgesByLabel

theorem mem_edgesWith {elements : Elements} (ordered : elements.edges.Ordered)
    (test : Edge → Bool) (id : EdgeId) :
    id ∈ elements.edgesWith test ↔
      ∃ edge, elements.edges.get? id = some edge ∧ test edge = true := by
  have listed := Dict.mem_keys_iff
    (Dict.mk (elements.edges.entries.filter fun entry => test entry.2)) id
  simp only [Dict.contains_iff_get?, ordered.get?_filter, Option.filter_eq_some_iff] at listed
  exact listed

theorem ids_eq_edgesWith {κ : Type} [DecidableEq κ] [Ord κ] (elements : Elements)
    (ordered : elements.edges.Ordered) {index : Index κ EdgeId} (sound : index.Sound)
    {aspect : Edge → κ}
    (follows : ∀ key id, id ∈ index.ids key ↔
      ∃ edge, elements.edges.get? id = some edge ∧ aspect edge = key) (key : κ) :
    index.ids key = elements.edgesWith fun edge => decide (aspect edge = key) := by
  have indexAscends := (sound.ordered_bucket key).keys
  have searchAscends :=
    (ordered.filter fun entry => decide (aspect entry.2 = key)).keys
  refine Dict.eq_of_ascending indexAscends searchAscends ?_
  intro id
  have searched := mem_edgesWith ordered (fun edge => decide (aspect edge = key)) id
  simp only [decide_eq_true_eq] at searched
  exact (follows key id).trans searched.symm

theorem observe_eq {store : Store} (consistent : store.Consistent) :
    store.observe = store.elements.observe := by
  have content := consistent.content
  have out := ids_eq_edgesWith store.elements content.edges_ordered content.outgoing_sound
    content.mem_outgoing
  have inside := ids_eq_edgesWith store.elements content.edges_ordered content.incoming_sound
    content.mem_incoming
  have labelled := ids_eq_edgesWith store.elements content.edges_ordered content.labels_sound
    content.mem_labels
  simp only [observe, Elements.observe, Observation.mk.injEq]
  exact ⟨rfl, rfl, funext out, funext inside, funext labelled⟩

/-- A copying store in step with a store, with some elements saved. -/
def copying (store : Store) (saved : Elements) : CopyStore :=
  ⟨store.elements, saved, store.nextVertex, store.nextEdge⟩

/-- Removing a vertex with its edges one by one amounts to leaving them all out at once. -/
theorem removeVertex_copying {store : Store} (consistent : store.Consistent) (saved : Elements)
    {id : VertexId} {vertex : Vertex} (found : store.vertices.get? id = some vertex) :
    ∃ after, store.removeVertex id = (.ok (), after) ∧
      after.copying saved =
        { store.copying saved with current := store.elements.withoutVertex id } := by
  obtain ⟨bare, -, succeeded, removed, changes, writes, -⟩ := removeVertex_spec consistent found
  have edgesSame : bare.edges = (store.elements.withoutVertex id).edges := by
    refine writes.consistent.content.edges_ordered.eq_of_get?_eq
      (consistent.content.edges_ordered.filter _) ?_
    intro edgeId
    refine (removed.edges edgeId).trans ?_
    refine Eq.trans ?_ (consistent.content.edges_ordered.get?_filter _ edgeId).symm
    cases present : store.edges.get? edgeId with
    | none => simp [content, present]
    | some edge =>
        by_cases touches : edge.outVertex = id ∨ edge.inVertex = id
        · have listed := (consistent.mem_edgesAt id edgeId).mpr ⟨edge, present, touches⟩
          simp only [content, present, if_pos listed]
          rcases touches with same | same <;> simp [Option.filter, same]
        · have unlisted : edgeId ∉ store.edgesAt id := by
            intro member
            obtain ⟨other, otherPresent, otherTouches⟩ :=
              (consistent.mem_edgesAt id edgeId).mp member
            rw [present] at otherPresent
            obtain rfl := Option.some.inj otherPresent
            exact touches otherTouches
          simp only [content, present, if_neg unlisted]
          rw [not_or] at touches
          simp [Option.filter, touches]
  refine ⟨_, succeeded, ?_⟩
  simp only [copying, elements, dropVertex, record, edgesSame, removed.vertices,
    removed.nextVertex, removed.nextEdge]
  rfl

/-- Writes of both stores answer alike and keep them in step. -/
theorem apply_copying {store : Store} (consistent : store.Consistent) (saved : Elements)
    {op : Op} (isWrite : op.isBoundary = false) :
    (store.copying saved).apply op =
      ((store.apply op).1, (store.apply op).2.copying saved) := by
  cases op with
  | addVertex properties => rfl
  | addEdge label outVertex inVertex properties =>
      by_cases outStored : store.vertices.contains outVertex = true <;>
        by_cases inStored : store.vertices.contains inVertex = true <;>
        simp [CopyStore.apply, Store.apply, addEdge, copying, elements, outStored, inStored,
          Except.map, attach, record]
  | setProperty id name value =>
      cases found : store.vertices.get? id <;>
        simp [CopyStore.apply, Store.apply, setProperty, copying, elements, found, Except.map,
          record]
  | removeVertex id =>
      cases found : store.vertices.get? id with
      | none =>
          simp [CopyStore.apply, Store.apply, removeVertex, copying, elements, found,
            Dict.contains, Except.map]
      | some vertex =>
          obtain ⟨after, succeeded, inStep⟩ := removeVertex_copying consistent saved found
          have present : (store.copying saved).current.vertices.contains id = true :=
            (Dict.contains_iff_get? _ _).mpr ⟨vertex, found⟩
          simp only [CopyStore.apply, if_pos present, Store.apply, succeeded, inStep]
          rfl
  | removeEdge id =>
      cases found : store.edges.get? id <;>
        simp [CopyStore.apply, Store.apply, removeEdge, copying, elements, found, Dict.contains,
          Except.map, record, detach]
  | recordVertexClone origin clone => rfl
  | recordEdgeClone origin clone => rfl
  | commit => simp [Op.isBoundary] at isWrite
  | abort => simp [Op.isBoundary] at isWrite

/-- The copying store shows the elements of the store, and has saved those of the settled store
that the pending writes of the store have started from. -/
structure Follows (copy : CopyStore) (store : Store) : Prop where
  current : copy = store.copying copy.saved
  saved : ∃ base changes, base.Settled ∧ Writes base changes store ∧ base.elements = copy.saved

theorem follows_empty : Follows CopyStore.empty (empty true) where
  current := rfl
  saved := ⟨empty true, [], settled_empty, Writes.refl (consistent_empty true), rfl⟩

theorem Follows.apply {copy : CopyStore} {store : Store} (follows : Follows copy store) (op : Op) :
    (copy.apply op).1 = (store.apply op).1 ∧ Follows (copy.apply op).2 (store.apply op).2 := by
  obtain ⟨current, base, changes, settled, writes, saved⟩ := follows
  by_cases boundary : op.isBoundary = true
  · cases op with
    | commit =>
        refine ⟨rfl, ?_, store.commit, [], ?_, ?_, ?_⟩
        · rw [current]
          rfl
        · refine settled_commit writes.consistent ?_
          exact Recoverable.isTransactional ⟨base, changes, settled, writes⟩
        · exact Writes.refl ⟨writes.consistent.content, writes.consistent.vertex_lt,
            writes.consistent.edge_lt⟩
        · rw [current]
          rfl
    | abort =>
        have rolledBack := rolledBack_abort settled writes
        have elementsSame : store.abort.elements = copy.saved := by
          rw [← saved]
          exact congrArg (fun content => Elements.mk content.vertices content.edges)
            rolledBack.content
        refine ⟨rfl, ?_, store.abort, [], rolledBack.settled,
          Writes.refl rolledBack.settled.consistent, elementsSame⟩
        simp only [CopyStore.apply, Store.apply, copying, elementsSame, rolledBack.nextVertex,
          rolledBack.nextEdge]
        rw [current]
        rfl
    | _ => simp [Op.isBoundary] at boundary
  · have isWrite : op.isBoundary = false := by simpa using boundary
    obtain ⟨later, more, -⟩ := writes_apply writes.consistent isWrite
    have inStep := apply_copying writes.consistent copy.saved isWrite
    rw [← current] at inStep
    rw [inStep]
    exact ⟨rfl, rfl, base, later ++ changes, settled, writes.trans more, saved⟩

theorem follows_run (history : List Op) :
    Follows (CopyStore.empty.run history) ((empty true).run history) := by
  suffices general : ∀ (copy : CopyStore) (store : Store), Follows copy store →
      Follows (copy.run history) (store.run history) from general _ _ follows_empty
  induction history with
  | nil => exact fun _ _ follows => follows
  | cons op rest ih => exact fun _ _ follows => ih _ _ (follows.apply op).2

/-- An operation writes something to a store: it is no boundary, and it succeeds. -/
def Op.Records (op : Op) (store : Store) : Prop :=
  op.isBoundary = false ∧ ∃ answer, (store.apply op).1 = .ok answer

theorem pending_apply {store : Store} (recoverable : store.Recoverable) (op : Op) :
    (store.apply op).2.hasPendingChanges = true ↔
      op.isBoundary = false ∧ (store.hasPendingChanges = true ∨ op.Records store) := by
  by_cases boundary : op.isBoundary = true
  · simp [boundary, (recoverable.settled boundary).not_pending]
  · have isWrite : op.isBoundary = false := by simpa using boundary
    obtain ⟨base, changes, settled, writes⟩ := recoverable
    obtain ⟨later, more, noted⟩ := writes_apply writes.consistent isWrite
    have logged : store.undo = some ⟨changes⟩ := by
      rw [writes.undo, settled.undo]
      simp [UndoLog.empty]
    have loggedAfter : (store.apply op).2.undo = some ⟨later ++ changes⟩ := by
      rw [more.undo, logged]
      rfl
    have records : op.Records store ↔ later ≠ [] := by
      rw [Op.Records, ne_eq, noted.failed]
      cases (store.apply op).1 <;> simp [isWrite]
    rw [records]
    simp only [hasPendingChanges, logged, loggedAfter, UndoLog.isEmpty, isWrite, true_and]
    cases later <;> simp

theorem pending_run {store : Store} (recoverable : store.Recoverable) (history : List Op) :
    (store.run history).hasPendingChanges = true ↔
      (store.hasPendingChanges = true ∧ ∀ op ∈ history, op.isBoundary = false) ∨
        ∃ past op recent, history = past ++ op :: recent ∧
          (∀ later ∈ recent, later.isBoundary = false) ∧ op.Records (store.run past) := by
  -- Either the first operation is the write that stays pending, or the rest decides.
  induction history generalizing store with
  | nil => simp [run]
  | cons first rest ih =>
      have stepped := pending_apply recoverable first
      rw [show store.run (first :: rest) = (store.apply first).2.run rest from rfl,
        ih (recoverable.apply first), stepped]
      constructor
      · rintro (⟨⟨isWrite, pending | records⟩, restWrites⟩ | ⟨past, op, recent, split, quiet,
          records⟩)
        · exact Or.inl ⟨pending, by simpa [isWrite] using restWrites⟩
        · exact Or.inr ⟨[], first, rest, rfl, restWrites, records⟩
        · exact Or.inr ⟨first :: past, op, recent, by simp [split], quiet, records⟩
      · rintro (⟨pending, writesOnly⟩ | ⟨past, op, recent, split, quiet, records⟩)
        · simp only [List.mem_cons, forall_eq_or_imp] at writesOnly
          exact Or.inl ⟨⟨writesOnly.1, Or.inl pending⟩, writesOnly.2⟩
        · cases past with
          | nil =>
              obtain ⟨rfl, rfl⟩ := List.cons.inj split
              exact Or.inl ⟨⟨records.1, Or.inr records⟩, quiet⟩
          | cons head past =>
              obtain ⟨rfl, rfl⟩ := List.cons.inj split
              exact Or.inr ⟨past, op, recent, rfl, quiet, records⟩

/-- Rolling back is exact: after every run the store shows what a store shows that saves a full
copy at every commit and puts it back at every abort, and it answers every operation alike.
Changes are pending exactly if something was written after the last boundary. -/
theorem run_rollback_exact (history : List Op) :
    let store := (empty true).run history
    let copy := CopyStore.empty.run history
    store.observe = copy.current.observe ∧
    (∀ op, (store.apply op).1 = (copy.apply op).1) ∧
    (store.hasPendingChanges = true ↔
      ∃ past op recent, history = past ++ op :: recent ∧
        (∀ later ∈ recent, later.isBoundary = false) ∧ op.Records ((empty true).run past)) := by
  intro store copy
  have follows : Follows copy store := follows_run history
  have current : store.elements = copy.current := by
    rw [follows.current]
    rfl
  refine ⟨?_, ?_, ?_⟩
  · rw [← current]
    exact observe_eq (recoverable_run history).consistent
  · intro op
    exact (follows.apply op).1.symm
  · have start : ¬ (empty true).hasPendingChanges = true := settled_empty.not_pending
    refine (pending_run settled_empty.recoverable history).trans ?_
    simp [start]

end Store

end RoutedGraph
