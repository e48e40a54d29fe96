import RoutedGraph.Proofs.Route.Copying
import RoutedGraph.Proofs.Store.Identity
import RoutedGraph.Proofs.World.Reached

/-!
# Histories of the world

A history of the world is a list of steps, each of which makes a graph or is
taken on one.  What it does to the store of one graph is a run of operations of
that store, so that an edge of any graph keeps its identifier to itself for the
rest of the history.
-/

namespace RoutedGraph

/-- A graph is made, or a step is taken on one. -/
inductive WorldStep where
  | make (transactional : Bool) (config : TransactionConfig)
  | on (graph : GraphId) (step : GraphStep)

namespace Store

/-- One store comes from another by a run of operations. -/
def RunsTo (before after : Store) : Prop := ∃ history, before.run history = after

namespace RunsTo

variable {before middle after : Store}

theorem refl (store : Store) : RunsTo store store := ⟨[], rfl⟩

theorem apply (store : Store) (op : Op) : RunsTo store (store.apply op).2 := ⟨[op], rfl⟩

theorem trans (first : RunsTo before middle) (second : RunsTo middle after) :
    RunsTo before after := by
  obtain ⟨earlier, rfl⟩ := first
  obtain ⟨later, rfl⟩ := second
  exact ⟨earlier ++ later, by simp [run]⟩

theorem identified (runs : RunsTo before after) {edge : Edge}
    (identified : before.Identified edge) : after.Identified edge := by
  obtain ⟨history, rfl⟩ := runs
  exact identified.run history

theorem identities (runs : RunsTo before after) (identities : before.Identities) :
    after.Identities := by
  obtain ⟨history, rfl⟩ := runs
  exact identities.run history

end RunsTo

section Cloning

variable (store : Store) (source : GraphId)

theorem runsTo_cloneVertex (vertex : Vertex) :
    RunsTo store (store.cloneVertex source vertex).2.1 := by
  cases found : store.vertexClone? ⟨source, vertex.id⟩ with
  | some clone =>
      rw [cloneVertex_of_found found]
      exact .refl store
  | none =>
      rw [cloneVertex_of_missing found]
      exact (RunsTo.apply store (.addVertex vertex.properties)).trans
        (.apply _ (.recordVertexClone ⟨source, vertex.id⟩ ⟨store.nextVertex⟩))

theorem runsTo_cloneEndpoints (origin : Store) (endpoints : List VertexId) :
    RunsTo store (store.cloneEndpoints source origin endpoints).2.1 := by
  induction endpoints generalizing store with
  | nil => exact .refl store
  | cons endpoint rest ih =>
      unfold cloneEndpoints
      split
      · exact .refl store
      · next vertex _ => exact (store.runsTo_cloneVertex source vertex).trans (ih _)

theorem runsTo_attachClone (edge : Edge) (options : CloneOptions) :
    RunsTo store (store.attachClone source edge options).2.1 := by
  rcases store.attachClone_cases source edge options with ⟨outVertex, inVertex, outFound, inFound⟩ |
    ⟨unchanged, -⟩
  · rw [attachClone_of_found outFound inFound]
    exact (RunsTo.apply store (.addEdge edge.label outVertex inVertex edge.properties)).trans
      (.apply _ (.recordEdgeClone ⟨source, edge.id⟩ ⟨store.nextEdge⟩))
  · rw [unchanged]
    exact .refl store

theorem runsTo_cloneEdge (origin : Store) (edge : Edge) (options : CloneOptions) :
    RunsTo store (store.cloneEdge source origin edge options).2.1 := by
  have prepared := store.runsTo_cloneEndpoints source origin edge.endpoints
  unfold cloneEdge
  split
  · exact .refl store
  · cases creates : options.createVertices with
    | false => exact store.runsTo_attachClone source edge options
    | true =>
        simp only [if_true]
        generalize store.cloneEndpoints source origin edge.endpoints = outcome at prepared
        obtain ⟨result, grown, events⟩ := outcome
        cases result with
        | error error => exact prepared
        | ok value => exact prepared.trans (grown.runsTo_attachClone source edge options)

end Cloning

end Store

namespace World

theorem runsTo_perform (world : World) (graph : GraphId) (step : GraphStep) :
    Store.RunsTo (world.store graph) ((world.perform graph step).store graph) := by
  cases step with
  | write write =>
      rw [perform, store_write]
      exact .apply _ write.op
  | cloneVertex source vertex =>
      by_cases own : source = graph
      · simp only [perform, cloneVertex, if_pos own]
        exact .refl _
      · rw [perform, world.store_cloneVertex own]
        exact (world.store graph).runsTo_cloneVertex source vertex
  | cloneEdge source edge options =>
      by_cases own : source = graph
      · simp only [perform, cloneEdge, if_pos own]
        exact .refl _
      · rw [perform, world.store_cloneEdge own]
        exact (world.store graph).runsTo_cloneEdge source _ edge options
  | commit =>
      rw [perform, store_commitAll]
      exact .apply _ .commit
  | abort =>
      rw [perform, store_abortAll]
      exact .apply _ .abort

theorem nextGraph_perform (world : World) (graph : GraphId) (step : GraphStep) :
    (world.perform graph step).nextGraph = world.nextGraph := by
  cases step with
  | write write => rfl
  | cloneVertex source vertex =>
      simp only [perform, cloneVertex, emitAll_eq]
      split <;> rfl
  | cloneEdge source edge options =>
      simp only [perform, cloneEdge, emitAll_eq]
      split <;> rfl
  | commit => rfl
  | abort =>
      simp only [perform, abortAll]
      split <;> rfl

def take (world : World) : WorldStep → World
  | .make transactional config => (world.addGraph transactional config).2
  | .on graph step => world.perform graph step

/-- Take steps one after the other. -/
def takeAll (world : World) (history : List WorldStep) : World := history.foldl take world

theorem takeAll_append (world : World) (past recent : List WorldStep) :
    world.takeAll (past ++ recent) = (world.takeAll past).takeAll recent :=
  List.foldl_append

theorem nextGraph_make (world : World) (transactional : Bool) (config : TransactionConfig) :
    (world.addGraph transactional config).2.nextGraph = world.nextGraph + 1 := by
  simp [addGraph, addManager, setRegistry, setStore]

/-- A graph has been made, and an edge keeps its identifier in it to itself. -/
structure Keeps (world : World) (graph : GraphId) (edge : Edge) : Prop where
  made : graph.raw < world.nextGraph
  identified : (world.store graph).Identified edge

section Keeping

variable {world : World} {graph : GraphId} {edge : Edge}

theorem Keeps.take (keeps : world.Keeps graph edge) (step : WorldStep) :
    (world.take step).Keeps graph edge := by
  cases step with
  | make transactional config =>
      have different : (world.addGraph transactional config).1 ≠ graph := by
        rintro rfl
        exact Nat.lt_irrefl _ keeps.made
      refine ⟨?_, ?_⟩
      · rw [World.take, nextGraph_make]
        exact Nat.lt_succ_of_lt keeps.made
      · rw [World.take, store_addGraph_of_ne different]
        exact keeps.identified
  | on other step =>
      refine ⟨?_, ?_⟩
      · rw [World.take, nextGraph_perform]
        exact keeps.made
      · by_cases here : other = graph
        · subst here
          exact (world.runsTo_perform other step).identified keeps.identified
        · rw [World.take, world.store_perform_of_ne here]
          exact keeps.identified

theorem Keeps.takeAll (keeps : world.Keeps graph edge) (history : List WorldStep) :
    (world.takeAll history).Keeps graph edge := by
  induction history generalizing world with
  | nil => exact keeps
  | cons step rest ih => exact ih (keeps.take step)

end Keeping

/-- At some moment of a history a graph has held an edge, its payload aside. -/
def HasHeld (history : List WorldStep) (graph : GraphId) (edge : Edge) : Prop :=
  ∃ past recent, history = past ++ recent ∧ ((empty.takeAll past).store graph).HoldsEdge edge

theorem HasHeld.append {past : List WorldStep} {graph : GraphId} {edge : Edge}
    (held : HasHeld past graph edge) (recent : List WorldStep) :
    HasHeld (past ++ recent) graph edge := by
  obtain ⟨earlier, later, rfl, holds⟩ := held
  exact ⟨earlier, later ++ recent, List.append_assoc _ _ _, holds⟩

end World

/-- A step that may follow a history: graphs are made before they are used, a target graph is not
aborted, and an edge that is cloned into the target is one that its graph holds or has held, its
payload aside. -/
structure WorldStep.Allowed (target : GraphId) (past : List WorldStep) (step : WorldStep) :
    Prop where
  made : ∀ {graph action}, step = .on graph action →
    graph.raw < (World.empty.takeAll past).nextGraph
  noAbort : step ≠ .on target .abort
  snapshot : ∀ {source edge options}, step = .on target (.cloneEdge source edge options) →
    World.HasHeld past source edge

namespace World

/-- A history that starts before any graph has been made and in which every step is allowed. -/
inductive Lawful (target : GraphId) : List WorldStep → Prop where
  | start : Lawful target []
  | step {past : List WorldStep} {step : WorldStep} (lawful : Lawful target past)
      (allowed : step.Allowed target past) : Lawful target (past ++ [step])

/-- What lawful histories make of a world: reached stores, in which every edge has an identifier of
its own, and nothing in graphs that have not been made. -/
structure Grown (world : World) : Prop where
  reached : ∀ graph, (world.store graph).Reached
  identities : ∀ graph, (world.store graph).Identities
  unmade : ∀ {graph : GraphId}, world.nextGraph ≤ graph.raw → world.store graph = Store.empty false

theorem grown_empty : empty.Grown where
  reached _ := .empty false
  identities _ := Store.identities_empty false
  unmade _ := rfl

theorem Grown.take {world : World} (grown : world.Grown) {step : WorldStep}
    (made : ∀ {graph action}, step = .on graph action → graph.raw < world.nextGraph) :
    (world.take step).Grown := by
  cases step with
  | make transactional config =>
      refine ⟨reached_addGraph grown.reached transactional config, fun graph => ?_, ?_⟩
      · by_cases here : (world.addGraph transactional config).1 = graph
        · rw [← here, World.take, store_addGraph]
          exact Store.identities_empty transactional
        · rw [World.take, store_addGraph_of_ne here]
          exact grown.identities graph
      · intro graph unmade
        rw [World.take, nextGraph_make] at unmade
        have different : (world.addGraph transactional config).1 ≠ graph := by
          rintro rfl
          exact absurd unmade (Nat.not_le_of_lt (Nat.lt_succ_self _))
        rw [World.take, store_addGraph_of_ne different]
        exact grown.unmade (Nat.le_of_succ_le unmade)
  | on graph step =>
      refine ⟨fun other => ?_, fun other => ?_, ?_⟩
      · by_cases here : graph = other
        · subst here
          exact .step (grown.reached graph) step
        · rw [World.take, world.store_perform_of_ne here]
          exact grown.reached other
      · by_cases here : graph = other
        · subst here
          exact (world.runsTo_perform graph step).identities (grown.identities graph)
        · rw [World.take, world.store_perform_of_ne here]
          exact grown.identities other
      · intro other unmade
        rw [World.take, nextGraph_perform] at unmade
        have different : graph ≠ other := by
          rintro rfl
          exact absurd (made rfl) (Nat.not_lt_of_le unmade)
        rw [World.take, world.store_perform_of_ne different]
        exact grown.unmade unmade

section Lawful

variable {target : GraphId} {history past recent : List WorldStep}

theorem Lawful.grown (lawful : Lawful target history) : (empty.takeAll history).Grown := by
  induction lawful with
  | start => exact grown_empty
  | step lawful allowed ih =>
      rw [takeAll_append]
      exact ih.take allowed.made

/-- What comes before some step of a lawful history is lawful. -/
theorem Lawful.before (lawful : Lawful target (past ++ recent)) : Lawful target past := by
  generalize whole : past ++ recent = history at lawful
  induction lawful generalizing recent with
  | start =>
      rw [(List.append_eq_nil_iff.mp whole).1]
      exact .start
  | @step earlier last lawful allowed ih =>
      rcases List.eq_nil_or_concat recent with rfl | ⟨front, final, rfl⟩
      · rw [List.append_nil] at whole
        rw [whole]
        exact lawful.step allowed
      · rw [List.concat_eq_append, ← List.append_assoc] at whole
        exact ih (List.append_inj_left' whole rfl)

/-- A graph that has held an edge keeps its identifier for it during the rest of the history. -/
theorem HasHeld.keeps (lawful : Lawful target history) {graph : GraphId} {edge : Edge}
    (held : HasHeld history graph edge) :
    ∃ stored, stored.id = edge.id ∧ stored.bare = edge.bare ∧
      (empty.takeAll history).Keeps graph stored := by
  obtain ⟨past, recent, rfl, stored, found, same⟩ := held
  have grown := lawful.before.grown
  have made : graph.raw < (empty.takeAll past).nextGraph := by
    refine Nat.lt_of_not_le fun unmade => ?_
    rw [grown.unmade unmade] at found
    contradiction
  have keeps : (empty.takeAll past).Keeps graph stored :=
    ⟨made, grown.identities graph stored (Or.inl ⟨edge.id, found⟩)⟩
  refine ⟨stored, (grown.reached graph).consistent.content.edge_id found, same, ?_⟩
  rw [takeAll_append]
  exact keeps.takeAll recent

/-- What a graph holds under the identifier of an edge that it has held is that edge. -/
theorem HasHeld.bare_eq_of_holds (lawful : Lawful target history) {graph : GraphId}
    {edge other : Edge} (held : HasHeld history graph edge)
    (holds : ((empty.takeAll history).store graph).HoldsEdge other) (same : edge.id = other.id) :
    edge.bare = other.bare := by
  obtain ⟨stored, id, bare, keeps⟩ := held.keeps lawful
  obtain ⟨current, found, currentBare⟩ := holds
  have named := (lawful.grown.reached graph).consistent.content.edge_id found
  have unique : current = stored := by
    refine keeps.identified.unique (Or.inl ⟨other.id, found⟩) ?_
    rw [named, id, same]
  rw [← bare, ← currentBare, unique]

/-- Of two edges that a graph has held under one identifier, one looks like the other. -/
theorem HasHeld.bare_eq (lawful : Lawful target history) {graph : GraphId} {first second : Edge}
    (firstHeld : HasHeld history graph first) (secondHeld : HasHeld history graph second)
    (same : first.id = second.id) : first.bare = second.bare := by
  -- The one that was held earlier is still the only one under the identifier when the other is.
  obtain ⟨firstPast, firstRest, rfl, firstHolds⟩ := firstHeld
  obtain ⟨secondPast, secondRest, whole, secondHolds⟩ := secondHeld
  have secondLawful : Lawful target secondPast := (whole ▸ lawful).before
  rcases List.append_eq_append_iff.mp whole with ⟨between, rfl, -⟩ | ⟨between, rfl, -⟩
  · have held : HasHeld (firstPast ++ between) graph first :=
      ⟨firstPast, between, rfl, firstHolds⟩
    exact held.bare_eq_of_holds secondLawful secondHolds same
  · have held : HasHeld (secondPast ++ between) graph second :=
      ⟨secondPast, between, rfl, secondHolds⟩
    exact (held.bare_eq_of_holds lawful.before firstHolds same.symm).symm

end Lawful

end World

end RoutedGraph
