import RoutedGraph.Proofs.Route.SecondPass
import RoutedGraph.Proofs.World.Reached

/-!
# Subgraphs of paths

Copying the paths of one graph into another one does what the paths as a set
say, whatever their order is, however often the bulk jobs commit, and in
whatever scope they run: it fails if an edge is stranded and must neither get
its endpoints created nor be ignored, and otherwise it leaves a complete copy.
-/

namespace RoutedGraph

namespace Subgraph

variable {χ : Type} {traffic : Traffic} {source target : GraphId} {paths : List Path}

/-- The first pass succeeds, whatever is on the paths. -/
theorem copyPaths_collects (sound : traffic.Sound) (thread : ThreadId) (foreign : source ≠ target)
    (resource : (traffic.world.manager (.graph target)).resource = .graph target)
    (settled : (traffic.world.store target).hasPendingChanges = false)
    (origin : (traffic.world.store source).Consistent)
    (consistent : (traffic.world.store target).Consistent)
    (known : (traffic.world.store target).ClonesKnown)
    (held : Held (traffic.world.store source) paths) (size : Nat) (rest : χ) :
    ∃ deferred after, copyPaths thread (Route.paths source paths) source target size
        ⟨traffic.world, rest⟩ = (.done deferred, ⟨after, rest⟩) ∧
      Collected source target traffic.world ((pathVertices paths).map Vertex.id)
        ((pathEdges paths).map Edge.id) ⟨after, deferred⟩ ∧
      Bulk.Leaves thread target traffic.world after := by
  have readings : (Route.paths source paths).pipe =
      .source (paths.map fun path _ => .ok (.path path)) := by
    simp only [Route.paths, Route.ofItems, Route.ofPipe, Route.withGraph, Pipe.ofItems,
      List.map_map]
    rfl
  obtain ⟨outcome, after, ran, ⟨rfl, collected, leaves⟩ | ⟨-, -, -, -, impossible⟩⟩ :=
    Bulk.run_source sound thread resource (fun _ _ => settled)
      (carries_copyPath foreign origin held) readings size [] (Collected.begin consistent known)
  · refine ⟨after.rest, after.world, ?_, collected, leaves⟩
    simp only [copyPaths, ran]
    rfl
  · exact impossible.elim

/-- The second pass tries all deferred edges, or fails because of one. -/
theorem retryEdges_retries {start : World} {options : SubgraphOptions} {deferred : List EdgeId}
    (sound : traffic.Sound) (thread : ThreadId) (foreign : source ≠ target)
    (resource : (traffic.world.manager (.graph target)).resource = .graph target)
    (ready : traffic.world.isNative (.graph target) = true →
      traffic.world.depth thread (.graph target) = 0 →
      (traffic.world.store target).hasPendingChanges = false)
    (consistent : (start.store source).Consistent) (held : Held (start.store source) paths)
    (noted : ∀ id ∈ deferred, ∃ edge, Wanted source (start.store target) paths edge ∧ edge.id = id)
    (begun : Retried source target start paths options.missing deferred [] traffic.world)
    (rest : χ) :
    ∃ outcome after, retryEdges thread source target options deferred ⟨traffic.world, rest⟩ =
        (outcome, after) ∧
      ((outcome = .done () ∧
          Retried source target start paths options.missing deferred deferred after.world) ∨
        ∃ error edge, outcome = .failed error ∧
          Refused source (start.store target) paths options.missing error edge) := by
  cases deferred with
  | nil => exact ⟨.done (), _, rfl, Or.inl ⟨rfl, begun⟩⟩
  | cons first others =>
      let logged := traffic.world.emit (.retryingEdges source target (first :: others).length)
      have loggedSound : (traffic.withWorld logged).Sound :=
        sound.withWorld (Traffic.quiet_of_sameScopes (traffic.world.sameScopes_emit _))
      have readings : (Route.edges source (first :: others)).pipe =
          .source ((first :: others).map (Route.readEdge source)) := rfl
      have retries : retryEdges thread source target options (first :: others)
            ⟨traffic.world, rest⟩ =
          ((Bulk.run thread (Route.edges source (first :: others)) target options.bulkSize
            fun _ item => copyItem target source options.missing item).andThen
              fun _ => Task.value ()) ⟨logged, rest⟩ := rfl
      obtain ⟨outcome, after, ran, ended⟩ :=
        Bulk.run_source loggedSound thread resource ready
          (carries_copyItem foreign consistent held noted) readings options.bulkSize rest
          (begun.upToCommit (World.upToCommit_of_stores rfl))
      rw [retries]
      simp only [Task.andThen]
      rw [show (⟨logged, rest⟩ : Scene χ) = ⟨(traffic.withWorld logged).world, rest⟩ from rfl, ran]
      rcases ended with ⟨rfl, tried, -⟩ | ⟨id, member, error, rfl, edge, refused⟩
      · exact ⟨.done (), after, rfl, Or.inl ⟨rfl, tried⟩⟩
      · exact ⟨.failed error, after, rfl, Or.inr ⟨error, edge, rfl, refused⟩⟩

/-- Copying paths leaves a complete copy, or fails because of a stranded edge. -/
theorem copy_cases (sound : traffic.Sound) (thread : ThreadId) (foreign : source ≠ target)
    (resource : (traffic.world.manager (.graph target)).resource = .graph target)
    (originReached : (traffic.world.store source).Reached)
    (reached : (traffic.world.store target).Reached)
    (settled : (traffic.world.store target).hasPendingChanges = false)
    (held : Held (traffic.world.store source) paths) (options : SubgraphOptions) (rest : χ) :
    ∃ outcome after, copy thread (Route.paths source paths) (some target) options
        ⟨traffic.world, rest⟩ = (outcome, after) ∧
      ((outcome = .done target ∧
          (∃ vertices edges, Complete source (traffic.world.store target) paths
            (traffic.world.store source) options.missing vertices edges
            (after.world.store target)) ∧
          (∀ graph, graph ≠ target → after.world.store graph = traffic.world.store graph) ∧
          (options.missing.createVertices = false → options.missing.ignoreMissing = false →
            ∀ edge, Wanted source (traffic.world.store target) paths edge →
              ¬ Stranded source (traffic.world.store target) paths edge)) ∨
        ∃ error edge, outcome = .failed error ∧ Refused source (traffic.world.store target) paths
          options.missing error edge) := by
  obtain ⟨deferred, middle, first, collected, leaves⟩ := copyPaths_collects sound thread foreign
    resource settled originReached.consistent reached.consistent reached.known held
    options.bulkSize rest
  have noted : ∀ id ∈ deferred, ∃ edge,
      Wanted source (traffic.world.store target) paths edge ∧ edge.id = id := by
    intro id member
    obtain ⟨onPaths, unknown⟩ := collected.deferred id member
    obtain ⟨edge, found, rfl⟩ := List.mem_map.mp onPaths
    exact ⟨edge, ⟨found, unknown⟩, rfl⟩
  have ready := leaves.ready (by
    obtain ⟨vertices, edges, ofVertices, ofEdges, copying⟩ := collected.copying
    exact copying.copied.isTransactional) resource
  obtain ⟨outcome, after, second, ended⟩ :=
    retryEdges_retries (sound.withWorld leaves.quiet) thread foreign (leaves.manager _ ▸ resource)
      ready originReached.consistent held noted (Retried.of_collected collected) rest
  have copied : copy thread (Route.paths source paths) (some target) options
        ⟨traffic.world, rest⟩ =
      ((retryEdges thread source target options deferred).andThen fun _ => Task.value target)
        ⟨middle, rest⟩ := by
    have different : ¬ some target = some source := by simpa using Ne.symm foreign
    have graph : (Route.paths source paths).graph = some source := rfl
    simp only [copy, graph, if_neg different, takeTarget, Task.andThen, Task.value, first]
  rw [copied]
  simp only [Task.andThen]
  rw [show (⟨middle, rest⟩ : Scene χ) = ⟨(traffic.withWorld middle).world, rest⟩ from rfl, second]
  rcases ended with ⟨rfl, tried⟩ | ⟨error, edge, rfl, refused⟩
  · exact ⟨.done target, after, rfl, Or.inl ⟨rfl, tried.complete originReached.consistent held⟩⟩
  · exact ⟨.failed error, after, rfl, Or.inr ⟨error, edge, rfl, refused⟩⟩

/-- Where the paths of one graph are copied into another one that has nothing pending, in whatever
scope the thread is, it fails if an edge that is wanted is stranded and must neither be created nor
ignored.  Otherwise it succeeds, whatever the order of the paths and the size of the bulk jobs, and
leaves a complete copy and all other graphs as they were. -/
theorem copy_paths {start : World} (unused : ∀ registry key, start.contextAt? registry key = none)
    {past : List Event} (lawful : (Traffic.begin start).Lawful past) :
    let world := ((Traffic.begin start).run past).world
    ∀ (thread : ThreadId) (source target : GraphId), source ≠ target →
      (world.manager (.graph target)).resource = .graph target →
      (world.store source).Reached → (world.store target).Reached →
      (world.store target).hasPendingChanges = false →
      ∀ paths, Held (world.store source) paths → ∀ (options : SubgraphOptions) (rest : χ),
        let base := world.store target
        let called := copy thread (Route.paths source paths) (some target) options ⟨world, rest⟩
        let fails := options.missing.createVertices = false ∧
          options.missing.ignoreMissing = false ∧
          ∃ edge, Wanted source base paths edge ∧ Stranded source base paths edge
        (fails → ∃ edge, Wanted source base paths edge ∧ Stranded source base paths edge ∧
          called.1 = .failed (.graph (.missingEndpoints edge.id edge.outVertex edge.inVertex))) ∧
        (¬ fails → called.1 = .done target ∧
          (∃ vertices edges, Complete source base paths (world.store source) options.missing
            vertices edges (called.2.world.store target)) ∧
          ∀ graph, graph ≠ target → called.2.world.store graph = world.store graph) := by
  intro world thread source target foreign resource originReached reached settled paths held options
    rest base called fails
  have sound : ((Traffic.begin start).run past).Sound := Traffic.sound_run unused lawful
  obtain ⟨outcome, after, ran, ended⟩ := copy_cases sound thread foreign resource originReached
    reached settled held options rest
  have result : called = (outcome, after) := ran
  rw [result]
  rcases ended with ⟨rfl, complete, others, clear⟩ | ⟨error, edge, rfl, refused⟩
  · refine ⟨?_, fun _ => ⟨rfl, complete, others⟩⟩
    rintro ⟨keeps, strict, edge, wanted, stranded⟩
    exact absurd stranded (clear keeps strict edge wanted)
  · have failing : fails :=
      ⟨refused.createVertices, refused.ignoreMissing, edge, refused.wanted, refused.stranded⟩
    refine ⟨fun _ => ⟨edge, refused.wanted, refused.stranded, ?_⟩, fun fine => absurd failing fine⟩
    exact congrArg Outcome.failed refused.error

/-- A graph with an edge from its first vertex to its second one, beside an empty graph. -/
def oneEdge : World :=
  ((((World.empty.addGraph true TransactionConfig.standard).2.performAll
    [(⟨1⟩, .write (.addVertex Dict.empty)), (⟨1⟩, .write (.addVertex Dict.empty)),
      (⟨1⟩, .write (.addEdge "next" ⟨1⟩ ⟨2⟩ Dict.empty))]).addGraph true
        TransactionConfig.standard).2)

def firstVertex : Vertex := ⟨⟨1⟩, Dict.empty, none⟩

def secondVertex : Vertex := ⟨⟨2⟩, Dict.empty, none⟩

def onlyEdge : Edge := ⟨⟨1⟩, "next", ⟨1⟩, ⟨2⟩, Dict.empty, none⟩

/-- The edge comes before both of its endpoints. -/
def edgeFirst : List Path :=
  [⟨[some (.edge onlyEdge), none, some (.vertex secondVertex)]⟩, ⟨[some (.vertex firstVertex)]⟩]

/-- The path ends before the second endpoint of the edge. -/
def openEnd : List Path := [⟨[some (.vertex firstVertex), some (.edge onlyEdge)]⟩]

theorem unused_oneEdge (registry : ManagerId) (key : ContextKey) :
    oneEdge.contextAt? registry key = none := by
  refine World.unused_addGraph (fun registry key => ?_) true TransactionConfig.standard registry key
  exact World.unused_addGraph World.unused_empty true TransactionConfig.standard registry key

theorem reached_oneEdge (graph : GraphId) : (oneEdge.store graph).Reached := by
  refine World.reached_addGraph (World.reached_performAll (World.reached_addGraph ?_ true _) _)
    true _ graph
  exact fun other => .empty false

theorem held_oneEdge {paths : List Path}
    (vertices : ∀ path ∈ paths, ∀ vertex ∈ path.vertices,
      vertex = firstVertex ∨ vertex = secondVertex)
    (edges : ∀ path ∈ paths, ∀ edge ∈ path.edges, edge = onlyEdge) :
    Held (oneEdge.store ⟨1⟩) paths := by
  intro path member
  refine ⟨fun vertex onPath => ?_, fun edge onPath => ?_⟩
  · rcases vertices path member vertex onPath with rfl | rfl
    · exact ⟨firstVertex, rfl, rfl⟩
    · exact ⟨secondVertex, rfl, rfl⟩
  · obtain rfl := edges path member edge onPath
    exact ⟨onlyEdge, rfl, rfl⟩

/-- Within a transaction of the caller, and although the edge comes first, it is copied. -/
theorem copy_edgeFirst :
    let world := ((Traffic.begin oneEdge).run [.call ⟨0⟩ (.graph ⟨2⟩) false]).world
    let called := copy ⟨0⟩ (Route.paths ⟨1⟩ edgeFirst) (some ⟨2⟩) ⟨.standard, 1⟩
      (⟨world, ()⟩ : Scene Unit)
    called.1 = .done ⟨2⟩ ∧
      ((called.2.world.store ⟨2⟩).edgeClone? ⟨⟨1⟩, ⟨1⟩⟩).isSome = true := by
  intro world called
  have lawful : (Traffic.begin oneEdge).Lawful [.call ⟨0⟩ (.graph ⟨2⟩) false] := by
    simp [Traffic.Lawful]
  have base : world.store ⟨2⟩ = (oneEdge.perform ⟨2⟩ .commit).store ⟨2⟩ := rfl
  have reached : (world.store ⟨2⟩).Reached := base ▸ .step (reached_oneEdge ⟨2⟩) .commit
  have held : Held (oneEdge.store ⟨1⟩) edgeFirst :=
    held_oneEdge (by simp [edgeFirst, Path.vertices, Path.elements, Element.asVertex?])
      (by simp [edgeFirst, Path.edges, Path.elements, Element.asEdge?])
  have edges : pathEdges edgeFirst = [onlyEdge] := rfl
  have reachable : ¬ Stranded ⟨1⟩ (world.store ⟨2⟩) edgeFirst onlyEdge := by
    rintro ⟨endpoint, ends, offPaths, -⟩
    have vertices : pathVertices edgeFirst = [secondVertex, firstVertex] := rfl
    rcases Edge.mem_endpoints.mp ends with rfl | rfl
    · exact offPaths ⟨firstVertex, by simp [vertices], rfl⟩
    · exact offPaths ⟨secondVertex, by simp [vertices], rfl⟩
  obtain ⟨-, succeeds⟩ := copy_paths unused_oneEdge lawful ⟨0⟩ ⟨1⟩ ⟨2⟩ (by decide) rfl
    (reached_oneEdge ⟨1⟩) reached rfl edgeFirst held ⟨.standard, 1⟩ ()
  obtain ⟨done, ⟨vertices, copied, complete⟩, -⟩ := succeeds (by
    rintro ⟨-, -, edge, ⟨member, -⟩, stranded⟩
    obtain rfl : edge = onlyEdge := by simpa [edges] using member
    exact reachable stranded)
  refine ⟨done, (complete.copied.edgeClone?_isSome_iff ⟨1⟩).mpr (Or.inr ?_)⟩
  exact (complete.mem_edges ⟨1⟩).mpr
    ⟨onlyEdge, ⟨by simp [edges], rfl⟩, rfl, Or.inr reachable⟩

/-- Where the second endpoint of the edge is on no path and may be ignored but not created, the
subgraph succeeds without a copy of the edge, although it had none before. -/
theorem copy_openEnd :
    let called := copy ⟨0⟩ (Route.paths ⟨1⟩ openEnd) (some ⟨2⟩) ⟨.skipping, 1⟩
      (⟨oneEdge, ()⟩ : Scene Unit)
    called.1 = .done ⟨2⟩ ∧ Wanted ⟨1⟩ (oneEdge.store ⟨2⟩) openEnd onlyEdge ∧
      ((called.2.world.store ⟨2⟩).vertexClone? ⟨⟨1⟩, ⟨1⟩⟩).isSome = true ∧
      ∀ id, (called.2.world.store ⟨2⟩).edge? id = none := by
  intro called
  have sound : (Traffic.begin oneEdge).Sound := Traffic.sound_begin unused_oneEdge
  have held : Held (oneEdge.store ⟨1⟩) openEnd :=
    held_oneEdge (by simp [openEnd, Path.vertices, Path.elements, Element.asVertex?])
      (by simp [openEnd, Path.edges, Path.elements, Element.asEdge?])
  have edges : pathEdges openEnd = [onlyEdge] := rfl
  have vertices : pathVertices openEnd = [firstVertex] := rfl
  have stranded : Stranded ⟨1⟩ (oneEdge.store ⟨2⟩) openEnd onlyEdge := by
    refine ⟨⟨2⟩, by simp [Edge.mem_endpoints, onlyEdge], ?_, rfl⟩
    simp [OnPaths, vertices, firstVertex]
  obtain ⟨outcome, after, ran, ended⟩ :=
    copy_cases sound ⟨0⟩ (show (⟨1⟩ : GraphId) ≠ ⟨2⟩ by decide) rfl (reached_oneEdge ⟨1⟩)
      (reached_oneEdge ⟨2⟩) rfl held ⟨.skipping, 1⟩ ()
  have result : called = (outcome, after) := ran
  rw [result]
  rcases ended with ⟨rfl, ⟨copiedVertices, copiedEdges, complete⟩, -⟩ | ⟨error, edge, -, refused⟩
  · have uncopied : ∀ id, id ∉ copiedEdges := by
      intro id member
      obtain ⟨edge, ⟨onPaths, -⟩, -, possible⟩ := (complete.mem_edges id).mp member
      obtain rfl : edge = onlyEdge := by simpa [edges] using onPaths
      rcases possible with creates | reachable
      · cases creates
      · exact reachable stranded
    refine ⟨rfl, ⟨by simp [edges], rfl⟩, ?_, fun id => ?_⟩
    · refine (complete.copied.vertexClone?_isSome_iff ⟨1⟩).mpr (Or.inr ?_)
      exact (complete.mem_vertices ⟨1⟩).mpr
        ⟨Or.inl ⟨firstVertex, by simp [vertices], rfl⟩, rfl⟩
    · cases found : (after.world.store ⟨2⟩).edge? id with
      | none => rfl
      | some edge =>
          obtain ⟨origin, member, -⟩ := complete.copied.ofEdges.new found rfl
          exact absurd member (uncopied origin)
  · cases refused.ignoreMissing

end Subgraph

end RoutedGraph
