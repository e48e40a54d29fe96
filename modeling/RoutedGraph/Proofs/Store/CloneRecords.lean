import RoutedGraph.Proofs.Store.Rollback

/-!
# Records of clones

A store records for each element of another graph which of its own elements is
the clone.  The record finds a clone as long as that element is stored.  Since
identifiers are never handed out twice, a look-up turns from nothing to
something only where a clone is recorded, and an abort forgets exactly the
records that were written since the last boundary.
-/

namespace RoutedGraph

namespace Store

/-- Recorded clones have identifiers that have been handed out. -/
structure ClonesKnown (store : Store) : Prop where
  vertex_lt : ∀ {origin : Foreign VertexId} {clone : VertexId},
    store.vertexClones.get? origin = some clone → clone.raw < store.nextVertex
  edge_lt : ∀ {origin : Foreign EdgeId} {clone : EdgeId},
    store.edgeClones.get? origin = some clone → clone.raw < store.nextEdge

theorem clonesKnown_empty (transactional : Bool) : (empty transactional).ClonesKnown where
  vertex_lt recorded := by simp [empty] at recorded
  edge_lt recorded := by simp [empty] at recorded

theorem vertexClone?_eq_some_iff {store : Store} {origin : Foreign VertexId} {clone : VertexId} :
    store.vertexClone? origin = some clone ↔
      store.vertexClones.get? origin = some clone ∧ store.vertices.contains clone = true :=
  Option.filter_eq_some_iff

theorem edgeClone?_eq_some_iff {store : Store} {origin : Foreign EdgeId} {clone : EdgeId} :
    store.edgeClone? origin = some clone ↔
      store.edgeClones.get? origin = some clone ∧ store.edges.contains clone = true :=
  Option.filter_eq_some_iff

section Writes

variable {before after : Store} {changes : List Change}

/-- A look-up that finds nothing goes on finding nothing unless a clone is recorded. -/
theorem Writes.vertexClone?_eq_none (writes : Writes before changes after)
    (known : before.ClonesKnown) {origin : Foreign VertexId}
    (unrecorded : Change.vertexCloned origin ∉ changes)
    (missing : before.vertexClone? origin = none) : after.vertexClone? origin = none := by
  cases found : after.vertexClone? origin with
  | none => rfl
  | some clone =>
      obtain ⟨recorded, stored⟩ := vertexClone?_eq_some_iff.mp found
      rw [writes.vertexClones origin unrecorded] at recorded
      rcases writes.vertex_old stored with old | fresh
      · rw [vertexClone?_eq_some_iff.mpr ⟨recorded, old⟩] at missing
        contradiction
      · have handedOut := known.vertex_lt recorded
        omega

theorem Writes.edgeClone?_eq_none (writes : Writes before changes after)
    (known : before.ClonesKnown) {origin : Foreign EdgeId}
    (unrecorded : Change.edgeCloned origin ∉ changes)
    (missing : before.edgeClone? origin = none) : after.edgeClone? origin = none := by
  cases found : after.edgeClone? origin with
  | none => rfl
  | some clone =>
      obtain ⟨recorded, stored⟩ := edgeClone?_eq_some_iff.mp found
      rw [writes.edgeClones origin unrecorded] at recorded
      rcases writes.edge_old stored with old | fresh
      · rw [edgeClone?_eq_some_iff.mpr ⟨recorded, old⟩] at missing
        contradiction
      · have handedOut := known.edge_lt recorded
        omega

/-- Writes that record no clone leave the recorded clones known. -/
theorem Writes.clonesKnown (writes : Writes before changes after) (known : before.ClonesKnown)
    (noVertex : ∀ origin, Change.vertexCloned origin ∉ changes)
    (noEdge : ∀ origin, Change.edgeCloned origin ∉ changes) : after.ClonesKnown where
  vertex_lt {origin clone} recorded := by
    rw [writes.vertexClones origin (noVertex origin)] at recorded
    exact Nat.lt_of_lt_of_le (known.vertex_lt recorded) writes.nextVertex_le
  edge_lt {origin clone} recorded := by
    rw [writes.edgeClones origin (noEdge origin)] at recorded
    exact Nat.lt_of_lt_of_le (known.edge_lt recorded) writes.nextEdge_le

end Writes

/-- Writes that record a clone exactly where they turn its look-up from nothing to something. -/
structure Advance (before : Store) (changes : List Change) (after : Store) : Prop where
  writes : Writes before changes after
  known : after.ClonesKnown
  vertexCloned : ∀ origin, Change.vertexCloned origin ∈ changes ↔
    before.vertexClone? origin = none ∧ after.vertexClone? origin ≠ none
  edgeCloned : ∀ origin, Change.edgeCloned origin ∈ changes ↔
    before.edgeClone? origin = none ∧ after.edgeClone? origin ≠ none

theorem Advance.refl {store : Store} (consistent : store.Consistent) (known : store.ClonesKnown) :
    Advance store [] store where
  writes := Writes.refl consistent
  known := known
  vertexCloned origin := by simp
  edgeCloned origin := by simp

section Aborts

variable {base store after : Store} {changes : List Change}

theorem RolledBack.vertexClone?_of_recorded (rolledBack : RolledBack base changes store after)
    {origin : Foreign VertexId} (recorded : Change.vertexCloned origin ∈ changes) :
    after.vertexClone? origin = none := by
  simp [vertexClone?, rolledBack.vertexClones_forgotten origin recorded]

theorem RolledBack.vertexClone?_of_unrecorded (rolledBack : RolledBack base changes store after)
    {origin : Foreign VertexId} (unrecorded : Change.vertexCloned origin ∉ changes) :
    after.vertexClone? origin = base.vertexClone? origin := by
  have sameVertices : after.vertices = base.vertices :=
    congrArg Content.vertices rolledBack.content
  rw [vertexClone?, rolledBack.vertexClones_kept origin unrecorded, sameVertices, vertexClone?]

theorem RolledBack.edgeClone?_of_recorded (rolledBack : RolledBack base changes store after)
    {origin : Foreign EdgeId} (recorded : Change.edgeCloned origin ∈ changes) :
    after.edgeClone? origin = none := by
  simp [edgeClone?, rolledBack.edgeClones_forgotten origin recorded]

theorem RolledBack.edgeClone?_of_unrecorded (rolledBack : RolledBack base changes store after)
    {origin : Foreign EdgeId} (unrecorded : Change.edgeCloned origin ∉ changes) :
    after.edgeClone? origin = base.edgeClone? origin := by
  have sameEdges : after.edges = base.edges := congrArg Content.edges rolledBack.content
  rw [edgeClone?, rolledBack.edgeClones_kept origin unrecorded, sameEdges, edgeClone?]

/-- What an abort leaves of the recorded clones was recorded at the boundary. -/
theorem RolledBack.clonesKnown (rolledBack : RolledBack base changes store after)
    (writes : Writes base changes store) (known : base.ClonesKnown) : after.ClonesKnown where
  vertex_lt {origin clone} entry := by
    by_cases recorded : Change.vertexCloned origin ∈ changes
    · rw [rolledBack.vertexClones_forgotten origin recorded] at entry
      contradiction
    · rw [rolledBack.vertexClones_kept origin recorded] at entry
      rw [rolledBack.nextVertex]
      exact Nat.lt_of_lt_of_le (known.vertex_lt entry) writes.nextVertex_le
  edge_lt {origin clone} entry := by
    by_cases recorded : Change.edgeCloned origin ∈ changes
    · rw [rolledBack.edgeClones_forgotten origin recorded] at entry
      contradiction
    · rw [rolledBack.edgeClones_kept origin recorded] at entry
      rw [rolledBack.nextEdge]
      exact Nat.lt_of_lt_of_le (known.edge_lt entry) writes.nextEdge_le

end Aborts

theorem ClonesKnown.commit {store : Store} (known : store.ClonesKnown) : store.commit.ClonesKnown :=
  ⟨known.vertex_lt, known.edge_lt⟩

/-- A settled store that knows the clones it has recorded. -/
structure AtBoundary (store : Store) : Prop where
  settled : store.Settled
  known : store.ClonesKnown

theorem atBoundary_empty : (empty true).AtBoundary := ⟨settled_empty, clonesKnown_empty true⟩

/-- A store that comes by writes from a boundary at which it had a content. -/
structure RollsBackTo (store : Store) (content : Content) : Prop where
  known : store.ClonesKnown
  reached : ∃ base changes, base.AtBoundary ∧ base.content = content ∧ Writes base changes store

theorem AtBoundary.rollsBackTo {store : Store} (boundary : store.AtBoundary) :
    store.RollsBackTo store.content :=
  ⟨boundary.known, store, [], boundary, rfl, Writes.refl boundary.settled.consistent⟩

namespace RollsBackTo

variable {store after : Store} {content : Content} {changes : List Change}

theorem consistent (reached : store.RollsBackTo content) : store.Consistent := by
  obtain ⟨base, changes, -, -, writes⟩ := reached.reached
  exact writes.consistent

theorem isTransactional (reached : store.RollsBackTo content) : store.isTransactional = true := by
  obtain ⟨base, changes, boundary, -, writes⟩ := reached.reached
  exact Recoverable.isTransactional ⟨base, changes, boundary.settled, writes⟩

theorem advance (reached : store.RollsBackTo content) (later : Advance store changes after) :
    after.RollsBackTo content := by
  obtain ⟨base, earlier, boundary, same, writes⟩ := reached.reached
  exact ⟨later.known, base, changes ++ earlier, boundary, same, writes.trans later.writes⟩

theorem atBoundary_commit (reached : store.RollsBackTo content) : store.commit.AtBoundary where
  settled := settled_commit reached.consistent reached.isTransactional
  known := reached.known.commit

theorem atBoundary_abort (reached : store.RollsBackTo content) : store.abort.AtBoundary := by
  obtain ⟨base, changes, boundary, -, writes⟩ := reached.reached
  have rolledBack := rolledBack_abort boundary.settled writes
  exact ⟨rolledBack.settled, rolledBack.clonesKnown writes boundary.known⟩

theorem content_abort (reached : store.RollsBackTo content) : store.abort.content = content := by
  obtain ⟨base, changes, boundary, rfl, writes⟩ := reached.reached
  exact (rolledBack_abort boundary.settled writes).content

theorem commit (reached : store.RollsBackTo content) : store.commit.RollsBackTo store.content :=
  reached.atBoundary_commit.rollsBackTo

theorem abort (reached : store.RollsBackTo content) : store.abort.RollsBackTo content := by
  have settled := reached.atBoundary_abort.rollsBackTo
  rwa [reached.content_abort] at settled

end RollsBackTo

end Store

end RoutedGraph
