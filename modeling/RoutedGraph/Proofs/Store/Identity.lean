import RoutedGraph.Proofs.Store.CloneRecords
import RoutedGraph.Route.Basic

/-!
# Identity of stored elements

Identifiers are handed out in ascending order and never again, and an abort
does not turn their counters back.  What an abort brings back is an edge that
was removed, as the undo log has kept it.  A store therefore never has two
edges in mind under one identifier, and whoever keeps an identifier finds under
it the edge that it was taken from, or none.
-/

namespace RoutedGraph

namespace Store

/-- An edge that is stored, or that the undo log can bring back. -/
def Mentions (store : Store) (edge : Edge) : Prop :=
  (∃ id, store.edges.get? id = some edge) ∨
    ∃ log, store.undo = some log ∧ Change.removedEdge edge ∈ log.changes

/-- The edge that an operation adds, if it adds one. -/
def addedEdge? (store : Store) : Op → Option Edge
  | .addEdge label outVertex inVertex properties =>
      if store.vertices.contains outVertex && store.vertices.contains inVertex then
        some ⟨⟨store.nextEdge⟩, label, outVertex, inVertex, properties, none⟩
      else none
  | _ => none

theorem id_of_addedEdge? {store : Store} {op : Op} {edge : Edge}
    (added : store.addedEdge? op = some edge) : edge.id = ⟨store.nextEdge⟩ := by
  cases op with
  | addEdge label outVertex inVertex properties =>
      simp only [addedEdge?, Option.ite_none_right_eq_some, Option.some.injEq] at added
      rw [← added.2]
  | _ => simp [addedEdge?] at added

section Mentioned

variable {store : Store} {edge : Edge}

/-- A write that notes no removal of an edge has in mind what is stored after it, and what the
undo log had kept before. -/
theorem mentions_record {change : Change} (noted : change ≠ .removedEdge edge)
    (mentioned : (store.record change).Mentions edge) : store.Mentions edge := by
  rcases mentioned with stored | ⟨log, logged, member⟩
  · exact Or.inl stored
  · simp only [record, Option.map_eq_some_iff] at logged
    obtain ⟨former, present, rfl⟩ := logged
    rcases List.mem_cons.mp member with same | kept
    · exact absurd same.symm noted
    · exact Or.inr ⟨former, present, kept⟩

theorem mentions_removeEdge {id : EdgeId} (mentioned : (store.removeEdge id).2.Mentions edge) :
    store.Mentions edge := by
  cases found : store.edges.get? id with
  | none => simpa [removeEdge, found] using mentioned
  | some removed =>
      rw [removeEdge_eq found] at mentioned
      rcases mentioned with ⟨other, stored⟩ | ⟨log, logged, member⟩
      · exact Or.inl ⟨other, store.content.stored_of_detach removed id stored⟩
      · simp only [record, detach, Option.map_eq_some_iff] at logged
        obtain ⟨former, present, rfl⟩ := logged
        rcases List.mem_cons.mp member with same | kept
        · obtain rfl := Change.removedEdge.inj same
          exact Or.inl ⟨id, found⟩
        · exact Or.inr ⟨former, present, kept⟩

theorem mentions_removeEdges {ids : List EdgeId}
    (mentioned : (store.removeEdges ids).2.Mentions edge) : store.Mentions edge := by
  induction ids generalizing store with
  | nil => exact mentioned
  | cons id rest ih =>
      suffices earlier : (store.removeEdge id).2.Mentions edge from mentions_removeEdge earlier
      unfold removeEdges at mentioned
      split at mentioned
      · next stopped outcome =>
          rw [outcome]
          exact mentioned
      · next shrunk outcome =>
          rw [outcome]
          exact ih mentioned

theorem mentions_removeVertex {id : VertexId}
    (mentioned : (store.removeVertex id).2.Mentions edge) :
    store.Mentions edge := by
  unfold removeVertex at mentioned
  split at mentioned
  · exact mentioned
  · suffices cascade : (store.removeEdges (store.edgesAt id)).2.Mentions edge from
      mentions_removeEdges cascade
    split at mentioned
    · next stopped outcome =>
        rw [outcome]
        exact mentioned
    · next bare outcome =>
        rw [outcome]
        exact mentions_record (by simp) mentioned

/-- What is stored after changes are taken back was stored before, or had been removed. -/
theorem stored_foldl_revert {changes : List Change} {id : EdgeId}
    (stored : (changes.foldl revert store).edges.get? id = some edge) :
    (∃ other, store.edges.get? other = some edge) ∨ Change.removedEdge edge ∈ changes := by
  induction changes generalizing store with
  | nil => exact Or.inl ⟨id, stored⟩
  | cons change rest ih =>
      rcases ih stored with ⟨other, earlier⟩ | later
      · cases change with
        | createdEdge gone =>
            simp only [revert] at earlier
            split at earlier
            · next edge _ => exact Or.inl ⟨other, store.content.stored_of_detach edge gone earlier⟩
            · exact Or.inl ⟨other, earlier⟩
        | removedEdge removed =>
            simp only [revert, attach, Dict.get?_insert] at earlier
            split at earlier
            · exact Or.inr (by simp [Option.some.inj earlier])
            · exact Or.inl ⟨other, earlier⟩
        | propertySet vertex name former =>
            simp only [revert] at earlier
            split at earlier <;> exact Or.inl ⟨other, earlier⟩
        | _ => exact Or.inl ⟨other, earlier⟩
      · exact Or.inr (List.mem_cons_of_mem _ later)

theorem mentions_abort (mentioned : store.abort.Mentions edge) : store.Mentions edge := by
  cases logged : store.undo with
  | none => simpa only [abort, logged] using mentioned
  | some log =>
      simp only [abort, logged] at mentioned
      rcases mentioned with ⟨id, stored⟩ | ⟨emptied, same, member⟩
      · rcases stored_foldl_revert stored with kept | removed
        · exact Or.inl kept
        · exact Or.inr ⟨log, logged, removed⟩
      · obtain rfl := Option.some.inj same
        simp [UndoLog.empty] at member

theorem mentions_commit (mentioned : store.commit.Mentions edge) : store.Mentions edge := by
  rcases mentioned with stored | ⟨emptied, same, member⟩
  · exact Or.inl stored
  · simp only [commit, Option.map_eq_some_iff] at same
    obtain ⟨-, -, rfl⟩ := same
    simp [UndoLog.empty] at member

/-- After an operation a store has in mind what it had in mind before, and what was added. -/
theorem mentions_apply {op : Op} (mentioned : (store.apply op).2.Mentions edge) :
    store.Mentions edge ∨ store.addedEdge? op = some edge := by
  cases op with
  | addVertex properties => exact Or.inl (mentions_record (by simp) mentioned)
  | addEdge label outVertex inVertex properties =>
      cases stored : store.vertices.contains outVertex && store.vertices.contains inVertex with
      | false =>
          refine Or.inl ?_
          rcases Bool.and_eq_false_iff.mp stored with missing | missing
          · simpa [apply, addEdge, missing] using mentioned
          · by_cases outStored : store.vertices.contains outVertex = true
            · simpa [apply, addEdge, outStored, missing] using mentioned
            · simpa [apply, addEdge, outStored] using mentioned
      | true =>
          obtain ⟨outStored, inStored⟩ := Bool.and_eq_true_iff.mp stored
          simp only [apply, addEdge_eq outStored inStored] at mentioned
          rcases mentions_record (by simp) mentioned with ⟨id, found⟩ | kept
          · simp only [attach, Dict.get?_insert] at found
            split at found
            · exact Or.inr (by simpa [addedEdge?, stored] using found)
            · exact Or.inl (Or.inl ⟨id, found⟩)
          · exact Or.inl (Or.inr kept)
  | setProperty id name value =>
      refine Or.inl ?_
      simp only [apply, setProperty] at mentioned
      split at mentioned
      · exact mentioned
      · exact mentions_record (by simp) mentioned
  | removeVertex id => exact Or.inl (mentions_removeVertex mentioned)
  | removeEdge id => exact Or.inl (mentions_removeEdge mentioned)
  | recordVertexClone origin clone => exact Or.inl (mentions_record (by simp) mentioned)
  | recordEdgeClone origin clone => exact Or.inl (mentions_record (by simp) mentioned)
  | commit => exact Or.inl (mentions_commit mentioned)
  | abort => exact Or.inl (mentions_abort mentioned)

end Mentioned

theorem next_removeEdges (store : Store) (ids : List EdgeId) :
    (store.removeEdges ids).2.nextVertex = store.nextVertex ∧
      (store.removeEdges ids).2.nextEdge = store.nextEdge := by
  induction ids generalizing store with
  | nil => exact ⟨rfl, rfl⟩
  | cons id rest ih =>
      cases found : store.edges.get? id with
      | none => simp [removeEdges, removeEdge, found]
      | some edge =>
          simp only [removeEdges, removeEdge_eq found]
          exact ih _

theorem next_removeVertex (store : Store) (id : VertexId) :
    (store.removeVertex id).2.nextVertex = store.nextVertex ∧
      (store.removeVertex id).2.nextEdge = store.nextEdge := by
  have cascade := store.next_removeEdges (store.edgesAt id)
  unfold removeVertex
  split
  · exact ⟨rfl, rfl⟩
  · split <;> next outcome => rw [outcome] at cascade; exact cascade

/-- No operation turns a counter back. -/
theorem next_le_apply (store : Store) (op : Op) :
    store.nextVertex ≤ (store.apply op).2.nextVertex ∧
      store.nextEdge ≤ (store.apply op).2.nextEdge := by
  cases op with
  | addVertex properties => exact ⟨Nat.le_succ _, Nat.le_refl _⟩
  | addEdge label outVertex inVertex properties =>
      simp only [apply, addEdge]
      split
      · exact ⟨Nat.le_refl _, Nat.le_refl _⟩
      · split
        · exact ⟨Nat.le_refl _, Nat.le_refl _⟩
        · exact ⟨Nat.le_refl _, Nat.le_succ _⟩
  | setProperty id name value =>
      simp only [apply, setProperty]
      split <;> exact ⟨Nat.le_refl _, Nat.le_refl _⟩
  | removeVertex id =>
      obtain ⟨sameVertex, sameEdge⟩ := store.next_removeVertex id
      exact ⟨Nat.le_of_eq sameVertex.symm, Nat.le_of_eq sameEdge.symm⟩
  | removeEdge id =>
      simp only [apply, removeEdge]
      split <;> exact ⟨Nat.le_refl _, Nat.le_refl _⟩
  | recordVertexClone origin clone => exact ⟨Nat.le_refl _, Nat.le_refl _⟩
  | recordEdgeClone origin clone => exact ⟨Nat.le_refl _, Nat.le_refl _⟩
  | commit => exact ⟨Nat.le_refl _, Nat.le_refl _⟩
  | abort =>
      simp only [apply, abort]
      split
      · exact ⟨Nat.le_refl _, Nat.le_refl _⟩
      · next log _ =>
          obtain ⟨sameVertex, sameEdge⟩ :=
            next_foldl_revert log.changes { store with undo := none }
          exact ⟨Nat.le_of_eq sameVertex.symm, Nat.le_of_eq sameEdge.symm⟩

/-- An edge that is added uses up its identifier. -/
theorem next_of_addedEdge? {store : Store} {op : Op} {edge : Edge}
    (added : store.addedEdge? op = some edge) :
    (store.apply op).2.nextEdge = store.nextEdge + 1 := by
  cases op with
  | addEdge label outVertex inVertex properties =>
      simp only [addedEdge?, Option.ite_none_right_eq_some, Bool.and_eq_true] at added
      simp only [apply, addEdge_eq added.1.1 added.1.2]
      rfl
  | _ => simp [addedEdge?] at added

/-- What the operations of a run answer, in order. -/
def answers (store : Store) : List Op → List (Except GraphError Answer)
  | [] => []
  | op :: rest => (store.apply op).1 :: (store.apply op).2.answers rest

def issuedVertex? : Except GraphError Answer → Option VertexId
  | .ok (.vertex id) => some id
  | _ => none

def issuedEdge? : Except GraphError Answer → Option EdgeId
  | .ok (.edge id) => some id
  | _ => none

/-- The identifiers of the vertices that a run adds, in order. -/
def issuedVertices (store : Store) (history : List Op) : List VertexId :=
  (store.answers history).filterMap issuedVertex?

/-- The identifiers of the edges that a run adds, in order. -/
def issuedEdges (store : Store) (history : List Op) : List EdgeId :=
  (store.answers history).filterMap issuedEdge?

/-- Numbers that are taken from a counter at each step ascend over a run. -/
theorem ascending_answers {ι : Type} {issued? : Except GraphError Answer → Option ι}
    {raw : ι → Nat} {next : Store → Nat}
    (grows : ∀ store op, next store ≤ next (store.apply op).2)
    (taken : ∀ {store op id}, issued? (store.apply op).1 = some id →
      raw id = next store ∧ next store < next (store.apply op).2)
    (store : Store) (history : List Op) :
    ((store.answers history).filterMap issued?).Pairwise
        (fun first second => raw first < raw second) ∧
      ∀ id ∈ (store.answers history).filterMap issued?, next store ≤ raw id := by
  induction history generalizing store with
  | nil => simp [answers]
  | cons op rest ih =>
      obtain ⟨ascending, later⟩ := ih (store.apply op).2
      have bounded : ∀ id ∈ ((store.apply op).2.answers rest).filterMap issued?,
          next store ≤ raw id := fun id member => Nat.le_trans (grows store op) (later id member)
      cases answered : issued? (store.apply op).1 with
      | none =>
          simp only [answers, List.filterMap_cons, answered]
          exact ⟨ascending, bounded⟩
      | some id =>
          obtain ⟨first, advanced⟩ := taken answered
          simp only [answers, List.filterMap_cons, answered]
          refine ⟨List.pairwise_cons.mpr ⟨?_, ascending⟩, ?_⟩
          · intro other member
            rw [first]
            exact Nat.lt_of_lt_of_le advanced (later other member)
          · intro other member
            rcases List.mem_cons.mp member with rfl | member
            · exact Nat.le_of_eq first.symm
            · exact bounded other member

theorem issuedVertex?_apply {store : Store} {op : Op} {id : VertexId}
    (issued : issuedVertex? (store.apply op).1 = some id) :
    id.raw = store.nextVertex ∧ store.nextVertex < (store.apply op).2.nextVertex := by
  cases op with
  | addVertex properties =>
      obtain rfl := Option.some.inj issued
      exact ⟨rfl, Nat.lt_succ_self _⟩
  | addEdge label outVertex inVertex properties =>
      cases outcome : (store.addEdge label outVertex inVertex properties).1 <;>
        simp [apply, outcome, Except.map, issuedVertex?] at issued
  | setProperty vertex name value =>
      cases outcome : (store.setProperty vertex name value).1 <;>
        simp [apply, outcome, Except.map, issuedVertex?] at issued
  | removeVertex vertex =>
      cases outcome : (store.removeVertex vertex).1 <;>
        simp [apply, outcome, Except.map, issuedVertex?] at issued
  | removeEdge edge =>
      cases outcome : (store.removeEdge edge).1 <;>
        simp [apply, outcome, Except.map, issuedVertex?] at issued
  | _ => simp [apply, issuedVertex?] at issued

theorem issuedEdge?_apply {store : Store} {op : Op} {id : EdgeId}
    (issued : issuedEdge? (store.apply op).1 = some id) :
    id.raw = store.nextEdge ∧ store.nextEdge < (store.apply op).2.nextEdge := by
  cases op with
  | addEdge label outVertex inVertex properties =>
      simp only [apply, addEdge] at issued ⊢
      split at issued
      · simp [Except.map, issuedEdge?] at issued
      · next outStored =>
          split at issued
          · simp [Except.map, issuedEdge?] at issued
          · next inStored =>
              obtain rfl := Option.some.inj issued
              rw [if_neg outStored, if_neg inStored]
              exact ⟨rfl, Nat.lt_succ_self _⟩
  | setProperty vertex name value =>
      cases outcome : (store.setProperty vertex name value).1 <;>
        simp [apply, outcome, Except.map, issuedEdge?] at issued
  | removeVertex vertex =>
      cases outcome : (store.removeVertex vertex).1 <;>
        simp [apply, outcome, Except.map, issuedEdge?] at issued
  | removeEdge edge =>
      cases outcome : (store.removeEdge edge).1 <;>
        simp [apply, outcome, Except.map, issuedEdge?] at issued
  | _ => simp [apply, issuedEdge?] at issued

/-- The identifier of an edge has been handed out, and the store has no other edge in mind under
it. -/
structure Identified (store : Store) (edge : Edge) : Prop where
  issued : edge.id.raw < store.nextEdge
  unique : ∀ {other : Edge}, store.Mentions other → other.id = edge.id → other = edge

/-- Every edge that the store has in mind is the only one under its identifier. -/
def Identities (store : Store) : Prop := ∀ edge, store.Mentions edge → store.Identified edge

theorem identities_empty (transactional : Bool) : (empty transactional).Identities := by
  intro edge mentioned
  rcases mentioned with ⟨id, stored⟩ | ⟨log, logged, member⟩
  · simp [empty] at stored
  · cases transactional
    · simp [empty] at logged
    · obtain rfl := Option.some.inj logged
      simp [UndoLog.empty] at member

section Steps

variable {store : Store} {edge : Edge}

/-- Whether it is stored, removed or brought back, an edge keeps its identifier to itself. -/
theorem Identified.apply (identified : store.Identified edge) (op : Op) :
    (store.apply op).2.Identified edge where
  issued := Nat.lt_of_lt_of_le identified.issued (store.next_le_apply op).2
  unique {other} mentioned same := by
    rcases mentions_apply mentioned with kept | added
    · exact identified.unique kept same
    · have fresh := id_of_addedEdge? added
      have old := identified.issued
      rw [← same, fresh] at old
      exact absurd old (Nat.lt_irrefl _)

theorem Identified.run (identified : store.Identified edge) (history : List Op) :
    (store.run history).Identified edge :=
  run_induction (motive := fun current => current.Identified edge) identified
    (fun op kept => kept.apply op) history

theorem Identities.apply (identities : store.Identities) (op : Op) :
    (store.apply op).2.Identities := by
  intro edge mentioned
  rcases mentions_apply mentioned with kept | added
  · exact (identities _ kept).apply op
  · have fresh := id_of_addedEdge? added
    refine ⟨?_, ?_⟩
    · rw [fresh, next_of_addedEdge? added]
      exact Nat.lt_succ_self _
    · intro other mentionedToo same
      rcases mentions_apply mentionedToo with kept | addedToo
      · have old := (identities _ kept).issued
        rw [same, fresh] at old
        exact absurd old (Nat.lt_irrefl _)
      · exact Option.some.inj (addedToo.symm.trans added)

theorem Identities.run (identities : store.Identities) (history : List Op) :
    (store.run history).Identities :=
  run_induction (motive := Identities) identities (fun op kept => kept.apply op) history

/-- An identifier under which an edge is found before a run and after it finds the same edge. -/
theorem Identities.edge_eq (identities : store.Identities) (consistent : store.Consistent)
    (history : List Op) (laterConsistent : (store.run history).Consistent) {id : EdgeId}
    {other : Edge} (found : store.edges.get? id = some edge)
    (foundLater : (store.run history).edges.get? id = some other) : other = edge := by
  have identified := (identities edge (Or.inl ⟨id, found⟩)).run history
  refine identified.unique (Or.inl ⟨id, foundLater⟩) ?_
  rw [laterConsistent.content.edge_id foundLater, consistent.content.edge_id found]

end Steps

/-- Identities are for life.  The identifiers of new vertices ascend over a whole run, and so do
those of new edges.  An identifier under which an edge is found at two times of a run finds the
same edge: an old copy of an edge, the record of its clone and an identifier that is looked up
later lead to that edge or to none. -/
theorem run_identities (transactional : Bool) (past recent : List Op) :
    let earlier := (empty transactional).run past
    let later := earlier.run recent
    ((empty transactional).issuedVertices (past ++ recent)).Pairwise
        (fun first second => first.raw < second.raw) ∧
    ((empty transactional).issuedEdges (past ++ recent)).Pairwise
        (fun first second => first.raw < second.raw) ∧
    (∀ id edge, earlier.edge? id = some edge →
      later.edge? edge.id = none ∨ later.edge? edge.id = some edge) ∧
    (∀ id edge other, earlier.edge? id = some edge → later.edge? id = some other →
      other = edge) ∧
    (∀ origin clone edge, earlier.edgeClone? origin = some clone →
      earlier.edge? clone = some edge → later.edgeClone? origin = some clone →
      later.edge? clone = some edge) ∧
    (∀ graph stores id edge, Dict.get? stores graph = some later →
      earlier.edge? id = some edge →
      Route.readEdge graph id stores = .ok (.edge edge) ∨
        Route.readEdge graph id stores = .error (.graph (.edgeNotFound id))) := by
  intro earlier later
  have laterRun : later = (empty transactional).run (past ++ recent) := by
    simp only [later, earlier, run, List.foldl_append]
  have consistent : earlier.Consistent := consistent_run transactional past
  have laterConsistent : later.Consistent := by
    rw [laterRun]
    exact consistent_run transactional (past ++ recent)
  have same : ∀ {id edge other}, earlier.edge? id = some edge → later.edge? id = some other →
      other = edge := fun found foundLater =>
    ((identities_empty transactional).run past).edge_eq consistent recent laterConsistent found
      foundLater
  refine ⟨?_, ?_, ?_, fun id edge other => same, ?_, ?_⟩
  · exact (ascending_answers (fun store op => (store.next_le_apply op).1) issuedVertex?_apply
      _ _).1
  · exact (ascending_answers (fun store op => (store.next_le_apply op).2) issuedEdge?_apply
      _ _).1
  · intro id edge found
    rw [consistent.content.edge_id found]
    cases foundLater : later.edge? id with
    | none => exact Or.inl rfl
    | some other => exact Or.inr (by rw [same found foundLater])
  · intro origin clone edge _ found clonedLater
    obtain ⟨other, foundLater⟩ :=
      (Dict.contains_iff_get? _ _).mp (edgeClone?_eq_some_iff.mp clonedLater).2
    rw [← same found foundLater]
    exact foundLater
  · intro graph stores id edge present found
    have read : stores.getD graph default = later := by simp [Dict.getD, present]
    unfold Route.readEdge
    rw [read]
    cases foundLater : later.edge? id with
    | none => exact Or.inr rfl
    | some other => exact Or.inl (by rw [same found foundLater])

end Store

end RoutedGraph
