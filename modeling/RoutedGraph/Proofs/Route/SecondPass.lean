import RoutedGraph.Proofs.Route.FirstPass

/-!
# The second pass of a subgraph

The second pass tries the deferred edges once more, after all vertices on the
paths have been copied.  Whether an edge can be copied then depends on the
paths as a set and not on their order: it is stranded if it has an endpoint
that neither is on the paths nor had a clone before.  A stranded edge is copied
if its endpoints may be created, skipped if missing ones are ignored, and
otherwise refused.
-/

namespace RoutedGraph

namespace Subgraph

/-- Whether a vertex with an identifier is on the paths. -/
def OnPaths (paths : List Path) (id : VertexId) : Prop :=
  ∃ vertex ∈ pathVertices paths, vertex.id = id

section Sets

variable (source : GraphId) (base : Store) (paths : List Path)

/-- An edge on the paths that has no clone yet. -/
def Wanted (edge : Edge) : Prop :=
  edge ∈ pathEdges paths ∧ base.edgeClone? ⟨source, edge.id⟩ = none

/-- An edge with an endpoint that neither is on the paths nor has a clone. -/
def Stranded (edge : Edge) : Prop :=
  ∃ endpoint ∈ edge.endpoints, ¬ OnPaths paths endpoint ∧
    base.vertexClone? ⟨source, endpoint⟩ = none

/-- A vertex that is to have a clone: it is on the paths, or it is to be created. -/
def Needed (options : CloneOptions) (id : VertexId) : Prop :=
  OnPaths paths id ∨
    (options.createVertices = true ∧ ∃ edge, Wanted source base paths edge ∧ id ∈ edge.endpoints)

/-- A store into which the paths have been copied: the needed vertices and the wanted edges that
had no clones, and nothing else.  Stranded edges are there only if their endpoints were created. -/
structure Complete (origin : Store) (options : CloneOptions) (vertices : List VertexId)
    (edges : List EdgeId) (after : Store) : Prop where
  copied : Store.Copied source origin base vertices edges after
  mem_vertices : ∀ id, id ∈ vertices ↔
    Needed source base paths options id ∧ base.vertexClone? ⟨source, id⟩ = none
  mem_edges : ∀ id, id ∈ edges ↔ ∃ edge, Wanted source base paths edge ∧ edge.id = id ∧
    (options.createVertices = true ∨ ¬ Stranded source base paths edge)

end Sets

variable {source target : GraphId} {start world after : World} {paths : List Path}
  {options : CloneOptions} {deferred retried : List EdgeId}

/-- Edges that a store holds under one identifier have the same endpoints. -/
theorem endpoints_eq {origin : Store} {first second : Edge} (firstHeld : origin.HoldsEdge first)
    (secondHeld : origin.HoldsEdge second) (same : first.id = second.id) :
    first.endpoints = second.endpoints := by
  obtain ⟨stored, found, firstLook⟩ := firstHeld
  obtain ⟨other, otherFound, secondLook⟩ := secondHeld
  rw [← same, found] at otherFound
  obtain rfl := Option.some.inj otherFound
  have looks := firstLook.symm.trans secondLook
  simp only [Edge.bare, Edge.mk.injEq] at looks
  rw [Edge.endpoints, Edge.endpoints, looks.2.2.1, looks.2.2.2.1]

/-- What has become of the paths when some of the deferred edges have been tried once more. -/
structure Retried (source target : GraphId) (start : World) (paths : List Path)
    (options : CloneOptions) (deferred retried : List EdgeId) (world : World) : Prop where
  copying : ∃ vertices edges,
    (∀ id ∈ vertices, Needed source (start.store target) paths options id) ∧
    (∀ id ∈ edges, ∃ edge ∈ pathEdges paths, edge.id = id) ∧
    World.Copying source target start vertices edges world
  vertices_cloned : ∀ id, OnPaths paths id →
    ((world.store target).vertexClone? ⟨source, id⟩).isSome = true
  edges_cloned : ∀ edge ∈ pathEdges paths,
    ((world.store target).edgeClone? ⟨source, edge.id⟩).isSome = true ∨
      (edge.id ∈ deferred ∧ (edge.id ∈ retried → options.createVertices = false ∧
        options.ignoreMissing = true ∧ Stranded source (start.store target) paths edge))

namespace Retried

theorem of_collected
    (collected : Collected source target start ((pathVertices paths).map Vertex.id)
      ((pathEdges paths).map Edge.id) ⟨world, deferred⟩) :
    Retried source target start paths options deferred [] world := by
  obtain ⟨vertices, edges, ofVertices, ofEdges, copying⟩ := collected.copying
  refine ⟨⟨vertices, edges, fun id member => Or.inl (List.mem_map.mp (ofVertices member)),
    fun id member => List.mem_map.mp (ofEdges member), copying⟩, ?_, ?_⟩
  · intro id onPaths
    exact collected.vertices_cloned id (List.mem_map.mpr onPaths)
  · intro edge member
    exact (collected.edges_cloned edge.id (List.mem_map_of_mem member)).imp_right
      fun noted => ⟨noted, by simp⟩

theorem upToCommit (settled : Retried source target start paths options deferred retried world)
    (changed : World.UpToCommit target world after) :
    Retried source target start paths options deferred retried after := by
  obtain ⟨sameVertices, sameEdges⟩ := changed.clones
  obtain ⟨vertices, edges, ofVertices, ofEdges, copying⟩ := settled.copying
  exact
    { copying := ⟨vertices, edges, ofVertices, ofEdges, copying.upToCommit changed⟩
      vertices_cloned := by simpa only [sameVertices] using settled.vertices_cloned
      edges_cloned := by simpa only [sameEdges] using settled.edges_cloned }

/-- All that is on the paths has been copied, so that what lacks an endpoint now is stranded. -/
theorem stranded (settled : Retried source target start paths options deferred retried world)
    {stored edge : Edge} (lacks : Store.LacksEndpoint source (world.store target) stored options)
    (same : edge.endpoints = stored.endpoints) :
    Stranded source (start.store target) paths edge := by
  obtain ⟨vertices, edges, ofVertices, ofEdges, copying⟩ := settled.copying
  obtain ⟨endpoint, member, unknown⟩ := lacks.endpoint
  refine ⟨endpoint, same ▸ member, fun onPaths => ?_,
    copying.copied.ofVertices.clone?_eq_none unknown⟩
  exact absurd (settled.vertices_cloned endpoint onPaths) (by simp [unknown])

/-- An edge that is given a clone has been tried. -/
theorem given {vertices more : List VertexId} {edges moreEdges : List EdgeId} {stored edge : Edge}
    (settled : Retried source target start paths options deferred retried world)
    (wanted : Wanted source (start.store target) paths edge) (same : stored.id = edge.id)
    (endpoints : edge.endpoints = stored.endpoints)
    (ofVertices : ∀ id ∈ vertices, Needed source (start.store target) paths options id)
    (ofEdges : ∀ id ∈ edges, ∃ edge ∈ pathEdges paths, edge.id = id)
    (copying : World.Copying source target start vertices edges world)
    (given : Store.GivesClone source (start.store source) (start.store target) vertices edges
      stored options more moreEdges (after.store target))
    (others : ∀ graph, graph ≠ target → after.store graph = start.store graph) :
    Retried source target start paths options deferred (retried ++ [edge.id]) after := by
  refine ⟨⟨_, _, ?_, ?_, given.copied, others⟩, ?_, ?_⟩
  · intro id member
    rcases List.mem_append.mp member with new | earlier
    · obtain ⟨creates, endpoint⟩ := given.created id new
      exact Or.inr ⟨creates, edge, wanted, endpoints ▸ endpoint⟩
    · exact ofVertices id earlier
  · intro id member
    rcases List.mem_append.mp member with new | earlier
    · exact ⟨edge, wanted.1, by rw [List.mem_singleton.mp (given.own new), same]⟩
    · exact ofEdges id earlier
  · intro id onPaths
    exact copying.copied.vertexClone?_mono given.copied (List.subset_append_right _ _)
      (settled.vertices_cloned id onPaths)
  · intro other member
    rcases settled.edges_cloned other member with cloned | ⟨noted, reason⟩
    · exact Or.inl (copying.copied.edgeClone?_mono given.copied
        (List.subset_append_right _ _) cloned)
    · by_cases named : other.id = edge.id
      · rw [named, ← same]
        exact Or.inl given.cloned
      · refine Or.inr ⟨noted, fun tried => reason ?_⟩
        simpa [named] using tried

/-- An edge that is skipped has been tried. -/
theorem skipped {stored edge : Edge}
    (settled : Retried source target start paths options deferred retried world)
    (endpoints : ∀ other ∈ pathEdges paths, other.id = edge.id →
      other.endpoints = stored.endpoints)
    (lacks : Store.LacksEndpoint source (world.store target) stored options)
    (ignore : options.ignoreMissing = true)
    (kept : after.store target = world.store target)
    (others : ∀ graph, graph ≠ target → after.store graph = start.store graph) :
    Retried source target start paths options deferred (retried ++ [edge.id]) after := by
  obtain ⟨vertices, edges, ofVertices, ofEdges, copying⟩ := settled.copying
  refine ⟨⟨vertices, edges, ofVertices, ofEdges, kept ▸ copying.copied, others⟩, ?_, ?_⟩
  · rw [kept]
    exact settled.vertices_cloned
  · rw [kept]
    intro other onPaths
    refine (settled.edges_cloned other onPaths).imp_right fun ⟨noted, reason⟩ =>
      ⟨noted, fun tried => ?_⟩
    rcases List.mem_append.mp tried with earlier | new
    · exact reason earlier
    · have named := List.mem_singleton.mp new
      exact ⟨lacks.createVertices, ignore, settled.stranded lacks (endpoints other onPaths named)⟩

/-- A deferred edge is cloned, skipped or refused. -/
theorem edge (foreign : source ≠ target) (consistent : (start.store source).Consistent)
    (held : Held (start.store source) paths)
    (settled : Retried source target start paths options deferred retried world) {edge : Edge}
    (wanted : Wanted source (start.store target) paths edge) {stored : Edge}
    (same : stored.id = edge.id) (storedHeld : (start.store source).HoldsEdge stored) :
    ((∃ found, (world.cloneEdge target source stored options).1 = .ok found) ∧
      Retried source target start paths options deferred (retried ++ [edge.id])
        (world.cloneEdge target source stored options).2) ∨
    (options.createVertices = false ∧ options.ignoreMissing = false ∧
      Stranded source (start.store target) paths edge ∧
      (world.cloneEdge target source stored options).1 =
        .error (.missingEndpoints edge.id edge.outVertex edge.inVertex)) := by
  obtain ⟨vertices, edges, ofVertices, ofEdges, copying⟩ := settled.copying
  have endpoints : ∀ other ∈ pathEdges paths, other.id = edge.id →
      other.endpoints = stored.endpoints := fun other member named =>
    endpoints_eq (held.edge member) storedHeld (named.trans same.symm)
  obtain ⟨others, ⟨clone, more, moreEdges, result, gives⟩ | ⟨lacks, kept, result⟩⟩ :=
    copying.cloneEdge foreign consistent storedHeld options
  · exact Or.inl ⟨⟨_, result⟩,
      settled.given wanted same (endpoints edge wanted.1 rfl) ofVertices ofEdges copying gives
        others⟩
  · cases ignore : options.ignoreMissing with
    | true =>
        rw [ignore, if_pos rfl] at result
        exact Or.inl ⟨⟨_, result⟩, settled.skipped endpoints lacks ignore kept others⟩
    | false =>
        simp only [ignore, Bool.false_eq_true, if_false] at result
        have ends := endpoints edge wanted.1 rfl
        refine Or.inr ⟨lacks.createVertices, rfl, settled.stranded lacks ends, ?_⟩
        simp only [Edge.endpoints, List.cons.injEq, and_true] at ends
        rw [result, same, ends.1, ends.2]

section Complete

variable {vertices : List VertexId} {edges : List EdgeId}
  (copying : World.Copying source target start vertices edges world)
  (consistent : (start.store source).Consistent) (held : Held (start.store source) paths)

include copying consistent held

/-- The endpoints of an edge on the paths that has been copied have clones. -/
theorem endpoint_cloned {edge : Edge} (member : edge ∈ pathEdges paths) (copied : edge.id ∈ edges)
    {endpoint : VertexId} (ends : endpoint ∈ edge.endpoints) :
    ((world.store target).vertexClone? ⟨source, endpoint⟩).isSome = true := by
  obtain ⟨stored, found, cloned⟩ := copying.copied.endpoints_cloned copied
  obtain ⟨named, storedHeld⟩ := consistent.holdsEdge found
  rw [← endpoints_eq storedHeld (held.edge member) named] at ends
  exact cloned endpoint ends

/-- Where no endpoints are created, no stranded edge is copied. -/
theorem not_stranded {edge : Edge} (member : edge ∈ pathEdges paths) (copied : edge.id ∈ edges)
    (keeps : options.createVertices = false)
    (ofVertices : ∀ id ∈ vertices, Needed source (start.store target) paths options id) :
    ¬ Stranded source (start.store target) paths edge := by
  rintro ⟨endpoint, ends, offPaths, unknown⟩
  have cloned := endpoint_cloned copying consistent held member copied ends
  rcases (copying.copied.vertexClone?_isSome_iff endpoint).mp cloned with old | new
  · simp [unknown] at old
  · rcases ofVertices endpoint new with onPaths | ⟨creates, -⟩
    · exact offPaths onPaths
    · simp [keeps] at creates

end Complete

/-- When all deferred edges have been tried once more, the paths have been copied, and no stranded
edge has been left out unless it could be ignored. -/
theorem complete (consistent : (start.store source).Consistent)
    (held : Held (start.store source) paths)
    (settled : Retried source target start paths options deferred deferred world) :
    (∃ vertices edges, Complete source (start.store target) paths (start.store source) options
      vertices edges (world.store target)) ∧
    (∀ graph, graph ≠ target → world.store graph = start.store graph) ∧
    (options.createVertices = false → options.ignoreMissing = false →
      ∀ edge, Wanted source (start.store target) paths edge →
        ¬ Stranded source (start.store target) paths edge) := by
  obtain ⟨vertices, edges, ofVertices, ofEdges, copying⟩ := settled.copying
  have copied : ∀ {edge}, Wanted source (start.store target) paths edge →
      edge.id ∈ edges ∨ (options.createVertices = false ∧ options.ignoreMissing = true ∧
        Stranded source (start.store target) paths edge) := by
    rintro edge ⟨member, unknown⟩
    rcases settled.edges_cloned edge member with cloned | ⟨noted, reason⟩
    · rcases (copying.copied.edgeClone?_isSome_iff edge.id).mp cloned with old | new
      · simp [unknown] at old
      · exact Or.inl new
    · exact Or.inr (reason noted)
  refine ⟨⟨vertices, edges, copying.copied, fun id => ⟨fun member => ?_, ?_⟩, fun id => ⟨?_, ?_⟩⟩,
    copying.others, ?_⟩
  · exact ⟨ofVertices id member, (copying.copied.ofVertices.copy member).1⟩
  · rintro ⟨needed, unknown⟩
    have cloned : ((world.store target).vertexClone? ⟨source, id⟩).isSome = true := by
      rcases needed with onPaths | ⟨creates, edge, wanted, ends⟩
      · exact settled.vertices_cloned id onPaths
      · rcases copied wanted with member | ⟨keeps, -⟩
        · exact endpoint_cloned copying consistent held wanted.1 member ends
        · simp [creates] at keeps
    rcases (copying.copied.vertexClone?_isSome_iff id).mp cloned with old | new
    · simp [unknown] at old
    · exact new
  · intro member
    obtain ⟨edge, onPaths, rfl⟩ := ofEdges id member
    refine ⟨edge, ⟨onPaths, (copying.copied.ofEdges.copy member).1⟩, rfl, ?_⟩
    cases creates : options.createVertices with
    | true => exact Or.inl rfl
    | false =>
        exact Or.inr (not_stranded copying consistent held onPaths member creates ofVertices)
  · rintro ⟨edge, wanted, rfl, possible⟩
    rcases copied wanted with member | ⟨keeps, -, stranded⟩
    · exact member
    · rcases possible with creates | reachable
      · simp [keeps] at creates
      · exact absurd stranded reachable
  · intro keeps strict edge wanted
    rcases copied wanted with member | ⟨-, ignore, -⟩
    · exact not_stranded copying consistent held wanted.1 member keeps ofVertices
    · simp [strict] at ignore

end Retried

/-- An edge is wanted and stranded, and it must neither be created nor ignored: the subgraph fails
because of it. -/
structure Refused (source : GraphId) (base : Store) (paths : List Path) (options : CloneOptions)
    (error : RouteError) (edge : Edge) : Prop where
  createVertices : options.createVertices = false
  ignoreMissing : options.ignoreMissing = false
  wanted : Wanted source base paths edge
  stranded : Stranded source base paths edge
  error : error = .graph (.missingEndpoints edge.id edge.outVertex edge.inVertex)

/-- The second pass carries from edge to edge that the deferred edges so far have been cloned or
could be ignored. -/
theorem carries_copyItem {χ : Type} (foreign : source ≠ target)
    (consistent : (start.store source).Consistent) (held : Held (start.store source) paths)
    (noted : ∀ id ∈ deferred, ∃ edge,
      Wanted source (start.store target) paths edge ∧ edge.id = id) :
    Bulk.Carries target (fun _ item => copyItem target source options item)
      (Route.readEdge source) deferred
      (fun retried (scene : Scene χ) =>
        Retried source target start paths options deferred retried scene.world)
      (fun _ error => ∃ edge, Refused source (start.store target) paths options error edge) where
  step := by
    rintro retried id ⟨world, rest⟩ member settled count
    obtain ⟨edge, wanted, rfl⟩ := noted id member
    obtain ⟨stored, found, same⟩ := held.edge wanted.1
    obtain ⟨named, storedHeld⟩ := consistent.holdsEdge found
    obtain ⟨vertices, edges, -, -, copying⟩ := settled.copying
    have reading : Route.readEdge source edge.id world.stores = .ok (.edge stored) := by
      have present : (world.store source).edge? edge.id = some stored := by
        rw [copying.others source foreign, found]
      rw [World.store] at present
      simp only [Route.readEdge, present]
    refine ⟨.edge stored, reading, ?_⟩
    have unscoped := world.sameScopes_cloneEdge target source stored options
    have cloning := settled.edge foreign consistent held wanted named storedHeld
    simp only [copyItem, Scene.attempt]
    generalize world.cloneEdge target source stored options = cloned at unscoped cloning ⊢
    obtain ⟨result, later⟩ := cloned
    rcases cloning with ⟨⟨clone, rfl⟩, next⟩ | ⟨keeps, strict, stranded, rfl⟩
    · exact ⟨unscoped, Or.inl ⟨rfl, next⟩⟩
    · exact ⟨unscoped, Or.inr ⟨_, rfl, edge, keeps, strict, wanted, stranded, rfl⟩⟩
  kept settled changed := settled.upToCommit changed

end Subgraph

end RoutedGraph
