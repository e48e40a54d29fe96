import RoutedGraph.Proofs.Route.Deeds
import RoutedGraph.Proofs.Store.Embedding

/-!
# Clones in a world are an embedding

However graphs are written, cloned, committed and, but for the target, rolled
back: as long as every edge that is cloned into the target is one that its graph
has held, the clones in the target are an embedding of what they have been made
from.  Bulk jobs and subgraphs take the same steps.
-/

namespace RoutedGraph

namespace Store

/-- Different elements have different clones, and the clone of an edge that its graph has held has
its label and properties and lies between the clones of its endpoints. -/
structure ClonesEmbed (store : Store) (Held : GraphId → Edge → Prop) : Prop where
  vertex_injective : ∀ {first second : Foreign VertexId} {clone : VertexId},
    store.vertexClone? first = some clone → store.vertexClone? second = some clone →
    first = second
  edge_injective : ∀ {first second : Foreign EdgeId} {clone : EdgeId},
    store.edgeClone? first = some clone → store.edgeClone? second = some clone → first = second
  edge_mirrors : ∀ {source : GraphId} {edge : Edge} {clone : EdgeId}, Held source edge →
    store.edgeClone? ⟨source, edge.id⟩ = some clone →
    ∃ copy, store.edge? clone = some copy ∧ copy.label = edge.label ∧
      copy.properties = edge.properties ∧
      store.vertexClone? ⟨source, edge.outVertex⟩ = some copy.outVertex ∧
      store.vertexClone? ⟨source, edge.inVertex⟩ = some copy.inVertex

end Store

namespace World

variable {target : GraphId}

/-- Every step but an abort keeps clones an embedding, if what it clones is an original. -/
theorem embedding_perform {world : World} {IsOriginal : Foreign EdgeId → Edge → Prop}
    (embedding : (world.store target).Embedding IsOriginal) {step : GraphStep}
    (noAbort : step ≠ .abort)
    (original : ∀ {source edge options}, step = .cloneEdge source edge options →
      IsOriginal ⟨source, edge.id⟩ edge) :
    ((world.perform target step).store target).Embedding IsOriginal := by
  cases step with
  | write write =>
      rw [perform, store_write]
      exact embedding.write write
  | cloneVertex source vertex =>
      by_cases own : source = target
      · simpa only [perform, cloneVertex, if_pos own] using embedding
      · rw [perform, world.store_cloneVertex own]
        exact embedding.cloneVertex source vertex
  | cloneEdge source edge options =>
      by_cases own : source = target
      · simpa only [perform, cloneEdge, if_pos own] using embedding
      · rw [perform, world.store_cloneEdge own]
        exact embedding.cloneEdge (original rfl) (world.store source) options
  | commit =>
      rw [perform, store_commitAll]
      exact embedding.commit
  | abort => exact absurd rfl noAbort

/-- What a history may have cloned under an identifier. -/
def IsOriginal (history : List WorldStep) (origin : Foreign EdgeId) (edge : Edge) : Prop :=
  edge.id = origin.id ∧ HasHeld history origin.graph edge

theorem Lawful.embedding {history : List WorldStep} (lawful : Lawful target history) :
    ((empty.takeAll history).store target).Embedding (IsOriginal history) := by
  -- A step changes the store of the target or leaves it alone, and originals stay originals.
  induction lawful with
  | start => exact Store.embedding_empty _ false
  | @step past step lawful allowed ih =>
      have later : ∀ {origin edge}, IsOriginal past origin edge →
          IsOriginal (past ++ [step]) origin edge :=
        fun original => ⟨original.1, original.2.append [step]⟩
      rw [takeAll_append]
      change (((empty.takeAll past).take step).store target).Embedding _
      cases step with
      | make transactional config =>
          by_cases here : ((empty.takeAll past).addGraph transactional config).1 = target
          · subst here
            rw [take, store_addGraph]
            exact Store.embedding_empty _ transactional
          · rw [take, store_addGraph_of_ne here]
            exact ih.mono later
      | on graph action =>
          by_cases here : graph = target
          · subst here
            refine (embedding_perform ih ?_ ?_).mono later
            · rintro rfl
              exact allowed.noAbort rfl
            · rintro source edge options rfl
              exact ⟨rfl, allowed.snapshot rfl⟩
          · rw [take, store_perform_of_ne _ here]
            exact ih.mono later

/-- After a lawful history the clones in the target are an embedding. -/
theorem Lawful.clonesEmbed {history : List WorldStep} (lawful : Lawful target history) :
    ((empty.takeAll history).store target).ClonesEmbed (HasHeld history) where
  vertex_injective := lawful.embedding.vertexClone?_injective
  edge_injective := lawful.embedding.edgeClone?_injective
  edge_mirrors {source edge clone} held found := by
    obtain ⟨original, copy, ⟨id, originalHeld⟩, stored, label, properties, outVertex, inVertex⟩ :=
      lawful.embedding.edgeClone?_mirrors found
    -- Its graph has held one edge under the identifier, whichever state of it was cloned.
    have same := originalHeld.bare_eq lawful held id
    simp only [Edge.bare, Edge.mk.injEq] at same
    obtain ⟨-, sameLabel, sameOut, sameIn, sameProperties, -⟩ := same
    rw [sameLabel] at label
    rw [sameProperties] at properties
    rw [sameOut] at outVertex
    rw [sameIn] at inVertex
    exact ⟨copy, stored, label, properties, outVertex, inVertex⟩

/-- The clones in a graph are an embedding at every moment of a deed that does not abort the graph
and clones into it only edges that their graphs have held.  The steps of the deed lead to the stores
that its run leaves behind. -/
theorem clones_embed {χ α : Type} (deed : Deed χ α) (rest : χ)
    (lawful : Lawful target (deed.history ⟨empty, rest⟩)) :
    SameGraphs (empty.takeAll (deed.history ⟨empty, rest⟩)) (deed.run ⟨empty, rest⟩).2.world ∧
      ∀ {past recent}, deed.history ⟨empty, rest⟩ = past ++ recent →
        ((empty.takeAll past).store target).ClonesEmbed (HasHeld past) := by
  refine ⟨deed.sameGraphs_run ⟨empty, rest⟩, fun {past recent} whole => ?_⟩
  rw [whole] at lawful
  exact lawful.before.clonesEmbed

theorem Lawful.make {past : List WorldStep} (lawful : Lawful target past) (transactional : Bool)
    (config : TransactionConfig) : Lawful target (past ++ [.make transactional config]) :=
  lawful.step ⟨nofun, nofun, nofun⟩

theorem Lawful.write {past : List WorldStep} (lawful : Lawful target past) (graph : GraphId)
    (write : GraphWrite) (made : graph.raw < (empty.takeAll past).nextGraph) :
    Lawful target (past ++ [.on graph (.write write)]) :=
  lawful.step ⟨fun same => by cases same; exact made, nofun, nofun⟩

theorem Lawful.cloneEdge {past : List WorldStep} (lawful : Lawful target past) (graph : GraphId)
    {source : GraphId} {edge : Edge} (held : HasHeld past source edge) (options : CloneOptions)
    (made : graph.raw < (empty.takeAll past).nextGraph) :
    Lawful target (past ++ [.on graph (.cloneEdge source edge options)]) :=
  lawful.step ⟨fun same => by cases same; exact made, nofun,
    fun same => by cases same; exact held⟩

/-- The only edge of a graph, as it was read before it was removed. -/
def removedEdge : Edge := ⟨⟨1⟩, "next", ⟨1⟩, ⟨2⟩, Dict.empty, none⟩

/-- An edge is cloned, loses its clone together with that of the vertex that it leaves, is removed
from its own graph, and is cloned again as it was read before. -/
def cloneAgain : Deed Unit (Option EdgeId) :=
  (Deed.make true .standard).andThen fun source =>
    (Deed.make true .standard).andThen fun target =>
      (Deed.act source (.write (.addVertex Dict.empty))).andThen fun _ =>
        (Deed.act source (.write (.addVertex Dict.empty))).andThen fun _ =>
          (Deed.act source (.write (.addEdge "next" ⟨1⟩ ⟨2⟩ Dict.empty))).andThen fun _ =>
            (Deed.act target (.cloneEdge source removedEdge .creating)).andThen fun _ =>
              (Deed.act target (.write (.removeVertex ⟨1⟩))).andThen fun _ =>
                (Deed.act source (.write (.removeEdge ⟨1⟩))).andThen fun _ =>
                  .act target (.cloneEdge source removedEdge .creating)

/-- The second clone of the edge lies between the second clone of the one vertex and the first of
the other. -/
theorem clone_made_again :
    let store := (empty.takeAll (cloneAgain.history ⟨empty, ()⟩)).store ⟨2⟩
    store.edgeClone? ⟨⟨1⟩, ⟨1⟩⟩ = some ⟨2⟩ ∧
      ∃ copy, store.edge? ⟨2⟩ = some copy ∧ copy.label = "next" ∧
        copy.outVertex = ⟨3⟩ ∧ copy.inVertex = ⟨2⟩ := by
  intro store
  let built : List WorldStep :=
    [.make true .standard, .make true .standard, .on ⟨1⟩ (.write (.addVertex Dict.empty)),
      .on ⟨1⟩ (.write (.addVertex Dict.empty)),
      .on ⟨1⟩ (.write (.addEdge "next" ⟨1⟩ ⟨2⟩ Dict.empty))]
  have early : Lawful ⟨2⟩ built :=
    ((((Lawful.start.make true .standard).make true .standard).write ⟨1⟩ _ (by decide)).write
      ⟨1⟩ _ (by decide)).write ⟨1⟩ _ (by decide)
  have heldEarly : HasHeld built ⟨1⟩ removedEdge := ⟨built, [], rfl, removedEdge, rfl, rfl⟩
  have heldLater := ((heldEarly.append [.on ⟨2⟩ (.cloneEdge ⟨1⟩ removedEdge .creating)]).append
    [.on ⟨2⟩ (.write (.removeVertex ⟨1⟩))]).append [.on ⟨1⟩ (.write (.removeEdge ⟨1⟩))]
  have lawful : Lawful ⟨2⟩ (cloneAgain.history ⟨empty, ()⟩) :=
    (((early.cloneEdge ⟨2⟩ heldEarly _ (by decide)).write ⟨2⟩ _ (by decide)).write ⟨1⟩ _
      (by decide)).cloneEdge ⟨2⟩ heldLater .creating (by decide)
  have embed := (clones_embed cloneAgain () lawful).2 (List.append_nil _).symm
  have found : store.edgeClone? ⟨⟨1⟩, ⟨1⟩⟩ = some ⟨2⟩ := by decide
  have outFound : store.vertexClone? ⟨⟨1⟩, ⟨1⟩⟩ = some ⟨3⟩ := by decide
  have inFound : store.vertexClone? ⟨⟨1⟩, ⟨2⟩⟩ = some ⟨2⟩ := by decide
  obtain ⟨copy, stored, label, -, outVertex, inVertex⟩ :=
    embed.edge_mirrors (heldLater.append [.on ⟨2⟩ (.cloneEdge ⟨1⟩ removedEdge .creating)]) found
  exact ⟨found, copy, stored, label, Option.some.inj (outVertex.symm.trans outFound),
    Option.some.inj (inVertex.symm.trans inFound)⟩

end World

end RoutedGraph
