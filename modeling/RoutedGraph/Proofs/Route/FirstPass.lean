import RoutedGraph.Proofs.Route.BulkJob
import RoutedGraph.Proofs.Route.Copying

/-!
# The first pass of a subgraph

The first pass copies the paths one after the other.  After every path, what is
on the paths so far has been copied where it had no clone, and nothing else
has; only edges that lacked an endpoint at their turn have no clone yet, and
these have been deferred.
-/

namespace RoutedGraph

namespace World

variable {source target : GraphId} {start world after : World} {vertices : List VertexId}
  {edges : List EdgeId}

/-- A commit changes no look-up of a clone. -/
theorem UpToCommit.clones (changed : UpToCommit target world after) :
    (after.store target).vertexClone? = (world.store target).vertexClone? ∧
      (after.store target).edgeClone? = (world.store target).edgeClone? := by
  rcases changed.own with same | committed
  · rw [same]
    exact ⟨rfl, rfl⟩
  · rw [committed]
    exact ⟨rfl, rfl⟩

theorem Copying.upToCommit (copying : Copying source target start vertices edges world)
    (changed : UpToCommit target world after) :
    Copying source target start vertices edges after where
  copied := by
    rcases changed.own with same | committed
    · rw [same]
      exact copying.copied
    · rw [committed]
      exact copying.copied.commit
  others graph different := (changed.others graph different).trans (copying.others graph different)

end World

namespace Subgraph

def pathVertices (paths : List Path) : List Vertex := paths.flatMap Path.vertices

def pathEdges (paths : List Path) : List Edge := paths.flatMap Path.edges

/-- All that is on the paths is stored in a graph as it is, payloads aside. -/
def Held (origin : Store) (paths : List Path) : Prop :=
  ∀ path ∈ paths, (∀ vertex ∈ path.vertices, origin.HoldsVertex vertex) ∧
    ∀ edge ∈ path.edges, origin.HoldsEdge edge

theorem Held.edge {origin : Store} {paths : List Path} (held : Held origin paths) {edge : Edge}
    (member : edge ∈ pathEdges paths) : origin.HoldsEdge edge := by
  obtain ⟨path, onPaths, onPath⟩ := List.mem_flatMap.mp member
  exact (held path onPaths).2 edge onPath

/-- Note an edge that is deferred, unless it is noted already. -/
def defer (deferred : List EdgeId) (id : EdgeId) : List EdgeId :=
  if deferred.contains id then deferred else deferred ++ [id]

theorem mem_defer {deferred : List EdgeId} {id other : EdgeId} :
    other ∈ defer deferred id ↔ other ∈ deferred ∨ other = id := by
  unfold defer
  split
  · next known =>
      constructor
      · exact Or.inl
      · rintro (member | rfl)
        · exact member
        · simpa using known
  · simp

/-- What has become of the vertices and edges on the paths so far, and which edges have been
deferred. -/
structure Collected (source target : GraphId) (start : World) (vertices : List VertexId)
    (edges : List EdgeId) (scene : Scene (List EdgeId)) : Prop where
  copying : ∃ copiedVertices copiedEdges, copiedVertices ⊆ vertices ∧ copiedEdges ⊆ edges ∧
    World.Copying source target start copiedVertices copiedEdges scene.world
  vertices_cloned : ∀ id ∈ vertices,
    ((scene.world.store target).vertexClone? ⟨source, id⟩).isSome = true
  edges_cloned : ∀ id ∈ edges,
    ((scene.world.store target).edgeClone? ⟨source, id⟩).isSome = true ∨ id ∈ scene.rest
  deferred : ∀ id ∈ scene.rest, id ∈ edges ∧ (start.store target).edgeClone? ⟨source, id⟩ = none

namespace Collected

variable {source target : GraphId} {start world : World} {vertices : List VertexId}
  {edges deferred : List EdgeId}

theorem begin (consistent : (start.store target).Consistent)
    (known : (start.store target).ClonesKnown) :
    Collected source target start [] [] ⟨start, []⟩ where
  copying := ⟨[], [], by simp, by simp, .refl consistent known, fun _ _ => rfl⟩
  vertices_cloned := by simp
  edges_cloned := by simp
  deferred := by simp

theorem upToCommit {scene : Scene (List EdgeId)} {after : World}
    (collected : Collected source target start vertices edges scene)
    (changed : World.UpToCommit target scene.world after) :
    Collected source target start vertices edges { scene with world := after } := by
  obtain ⟨sameVertices, sameEdges⟩ := changed.clones
  obtain ⟨copiedVertices, copiedEdges, ofVertices, ofEdges, copying⟩ := collected.copying
  exact
    { copying := ⟨copiedVertices, copiedEdges, ofVertices, ofEdges, copying.upToCommit changed⟩
      vertices_cloned := by simpa only [sameVertices] using collected.vertices_cloned
      edges_cloned := by simpa only [sameEdges] using collected.edges_cloned
      deferred := collected.deferred }

variable (foreign : source ≠ target)

include foreign

theorem vertex (collected : Collected source target start vertices edges ⟨world, deferred⟩)
    {vertex : Vertex} (held : (start.store source).HoldsVertex vertex) :
    (∃ clone, (world.cloneVertex target source vertex).1 = .ok clone) ∧
      Collected source target start (vertices ++ [vertex.id]) edges
        ⟨(world.cloneVertex target source vertex).2, deferred⟩ := by
  obtain ⟨copiedVertices, copiedEdges, ofVertices, ofEdges, copying⟩ := collected.copying
  obtain ⟨succeeded, more, named, grown, cloned⟩ := copying.cloneVertex foreign held
  refine ⟨succeeded, ⟨_, _, ?_, ofEdges, grown⟩, ?_, ?_, collected.deferred⟩
  · refine List.append_subset.mpr ⟨fun id member => ?_, fun id member => ?_⟩
    · exact List.mem_append_right _ (named member)
    · exact List.mem_append_left _ (ofVertices member)
  · intro id member
    rcases List.mem_append.mp member with earlier | new
    · exact copying.copied.vertexClone?_mono grown.copied (List.subset_append_right _ _)
        (collected.vertices_cloned id earlier)
    · rw [List.mem_singleton.mp new]
      exact cloned
  · intro id member
    exact (collected.edges_cloned id member).imp_left
      fun found => copying.copied.edgeClone?_mono grown.copied (List.Subset.refl _) found

/-- An edge is cloned or deferred. -/
theorem edge (collected : Collected source target start vertices edges ⟨world, deferred⟩)
    (consistent : (start.store source).Consistent) {edge : Edge}
    (held : (start.store source).HoldsEdge edge) :
    ((∃ clone, (world.cloneEdge target source edge .skipping).1 = .ok (some clone)) ∧
      Collected source target start vertices (edges ++ [edge.id])
        ⟨(world.cloneEdge target source edge .skipping).2, deferred⟩) ∨
    ((world.cloneEdge target source edge .skipping).1 = .ok none ∧
      Collected source target start vertices (edges ++ [edge.id])
        ⟨(world.cloneEdge target source edge .skipping).2, defer deferred edge.id⟩) := by
  obtain ⟨copiedVertices, copiedEdges, ofVertices, ofEdges, copying⟩ := collected.copying
  obtain ⟨others, ⟨clone, more, moreEdges, result, given⟩ | ⟨lacks, same, result⟩⟩ :=
    copying.cloneEdge foreign consistent held .skipping
  · obtain rfl : more = [] := List.eq_nil_iff_forall_not_mem.mpr fun id member =>
      absurd (given.created id member).1 (by simp [CloneOptions.skipping])
    refine Or.inl ⟨⟨clone, result⟩, ⟨_, _, ofVertices, ?_, given.copied, others⟩, ?_, ?_, ?_⟩
    · refine List.append_subset.mpr ⟨fun id member => ?_, fun id member => ?_⟩
      · exact List.mem_append_right _ (given.own member)
      · exact List.mem_append_left _ (ofEdges member)
    · intro id member
      exact copying.copied.vertexClone?_mono given.copied (List.Subset.refl _)
        (collected.vertices_cloned id member)
    · intro id member
      rcases List.mem_append.mp member with earlier | new
      · exact (collected.edges_cloned id earlier).imp_left fun found =>
          copying.copied.edgeClone?_mono given.copied (List.subset_append_right _ _) found
      · rw [List.mem_singleton.mp new]
        exact Or.inl given.cloned
    · intro id member
      obtain ⟨onPath, unknown⟩ := collected.deferred id member
      exact ⟨List.mem_append_left _ onPath, unknown⟩
  · have stored : (world.cloneEdge target source edge .skipping).2.store target =
        world.store target := same
    refine Or.inr ⟨result, ⟨copiedVertices, copiedEdges, ofVertices,
      fun _ member => List.mem_append_left _ (ofEdges member), stored ▸ copying.copied, others⟩,
      ?_, ?_, ?_⟩
    · rw [stored]
      exact collected.vertices_cloned
    · rw [stored]
      intro id member
      rcases List.mem_append.mp member with earlier | new
      · exact (collected.edges_cloned id earlier).imp_right fun noted =>
          mem_defer.mpr (Or.inl noted)
      · exact Or.inr (mem_defer.mpr (Or.inr (List.mem_singleton.mp new)))
    · intro id member
      rcases mem_defer.mp member with noted | rfl
      · obtain ⟨onPath, unknown⟩ := collected.deferred id noted
        exact ⟨List.mem_append_left _ onPath, unknown⟩
      · exact ⟨List.mem_append_right _ List.mem_cons_self,
          copying.copied.ofEdges.clone?_eq_none lacks.unknown⟩

theorem copyVertices {list : List Vertex}
    (collected : Collected source target start vertices edges ⟨world, deferred⟩)
    (held : ∀ vertex ∈ list, (start.store source).HoldsVertex vertex) :
    ∃ later, Subgraph.copyVertices target source world list = (.ok (), later) ∧
      World.SameScopes world later ∧
      Collected source target start (vertices ++ list.map Vertex.id) edges ⟨later, deferred⟩ := by
  induction list generalizing world vertices with
  | nil => exact ⟨world, rfl, World.SameScopes.refl _, by simpa using collected⟩
  | cons vertex rest ih =>
      obtain ⟨⟨clone, succeeded⟩, grown⟩ :=
        collected.vertex foreign (held vertex List.mem_cons_self)
      have same := world.sameScopes_cloneVertex target source vertex
      obtain ⟨later, copied, restSame, final⟩ :=
        ih grown fun other member => held other (List.mem_cons_of_mem _ member)
      refine ⟨later, ?_, same.trans restSame, by simpa using final⟩
      simp only [Subgraph.copyVertices]
      generalize world.cloneVertex target source vertex = cloning at succeeded copied
      obtain ⟨result, cloned⟩ := cloning
      obtain rfl : result = .ok clone := succeeded
      exact copied

theorem copyEdges {list : List Edge}
    (collected : Collected source target start vertices edges ⟨world, deferred⟩)
    (consistent : (start.store source).Consistent)
    (held : ∀ edge ∈ list, (start.store source).HoldsEdge edge) :
    ∃ noted later, Subgraph.copyEdges target source world deferred list = (.ok noted, later) ∧
      World.SameScopes world later ∧
      Collected source target start vertices (edges ++ list.map Edge.id) ⟨later, noted⟩ := by
  induction list generalizing world edges deferred with
  | nil => exact ⟨deferred, world, rfl, World.SameScopes.refl _, by simpa using collected⟩
  | cons edge rest ih =>
      have same := world.sameScopes_cloneEdge target source edge .skipping
      have heldRest := fun other member => held other (List.mem_cons_of_mem edge member)
      simp only [Subgraph.copyEdges]
      rcases collected.edge foreign consistent (held edge List.mem_cons_self) with
        ⟨⟨clone, result⟩, grown⟩ | ⟨result, grown⟩
      all_goals
        obtain ⟨noted, later, copied, restSame, final⟩ := ih grown heldRest
        refine ⟨noted, later, ?_, same.trans restSame, by simpa using final⟩
        generalize world.cloneEdge target source edge .skipping = cloning at result copied
        obtain ⟨answer, cloned⟩ := cloning
        obtain rfl := result
        exact copied

end Collected

/-- The first pass of a subgraph carries from path to path that what is on the paths so far has
been collected. -/
theorem carries_copyPath {source target : GraphId} (foreign : source ≠ target) {start : World}
    (consistent : (start.store source).Consistent) {paths : List Path}
    (held : Held (start.store source) paths) :
    Bulk.Carries target (fun _ item => copyPath target source item.toPath)
      (fun path _ => .ok (.path path)) paths
      (fun sofar => Collected source target start ((pathVertices sofar).map Vertex.id)
        ((pathEdges sofar).map Edge.id))
      (fun _ _ => False) where
  step := by
    rintro sofar path ⟨world, deferred⟩ member collected count
    obtain ⟨heldVertices, heldEdges⟩ := held path member
    obtain ⟨later, copiedVertices, sameVertices, ofVertices⟩ :=
      collected.copyVertices foreign heldVertices
    obtain ⟨noted, final, copiedEdges, sameEdges, ofEdges⟩ :=
      ofVertices.copyEdges foreign consistent heldEdges
    have copied : copyPath target source path ⟨world, deferred⟩ = (.done (), ⟨final, noted⟩) := by
      simp only [copyPath, copiedVertices, copiedEdges]
    refine ⟨.path path, rfl, ?_⟩
    simp only [Item.toPath, copied, pathVertices, pathEdges, List.flatMap_append,
      List.flatMap_singleton, List.map_append, true_and]
    exact ⟨sameVertices.trans sameEdges, Or.inl ofEdges⟩
  kept collected changed := collected.upToCommit changed

end Subgraph

end RoutedGraph
