import RoutedGraph.Proofs.Store.Copies
import RoutedGraph.Proofs.Transaction.Opening
import RoutedGraph.Proofs.World.Frame
import RoutedGraph.Route.Subgraph

/-!
# Copying paths

Cloning what is stored in one graph into another one copies it, unless it has a
clone.  A vertex can always be cloned; an edge can where both endpoints have
clones or get them.  The first pass of a subgraph clones the vertices of a path
before its edges, so that it only has to defer edges with an endpoint that is
not on any path so far.
-/

namespace RoutedGraph

def Vertex.bare (vertex : Vertex) : Vertex := { vertex with payload := none }

def Edge.bare (edge : Edge) : Edge := { edge with payload := none }

theorem Edge.mem_endpoints {edge : Edge} {id : VertexId} :
    id ∈ edge.endpoints ↔ id = edge.outVertex ∨ id = edge.inVertex := by
  simp [endpoints]

namespace Store

/-- A vertex is stored as it is, its payload aside. -/
def HoldsVertex (store : Store) (vertex : Vertex) : Prop :=
  ∃ stored, store.vertex? vertex.id = some stored ∧ stored.bare = vertex.bare

/-- An edge is stored as it is, its payload aside. -/
def HoldsEdge (store : Store) (edge : Edge) : Prop :=
  ∃ stored, store.edge? edge.id = some stored ∧ stored.bare = edge.bare

theorem Consistent.holdsVertex {store : Store} (consistent : store.Consistent) {id : VertexId}
    {vertex : Vertex} (found : store.vertex? id = some vertex) :
    vertex.id = id ∧ store.HoldsVertex vertex := by
  have named : vertex.id = id := consistent.content.vertex_id found
  exact ⟨named, vertex, named ▸ found, rfl⟩

theorem Consistent.holdsEdge {store : Store} (consistent : store.Consistent) {id : EdgeId}
    {edge : Edge} (found : store.edge? id = some edge) :
    edge.id = id ∧ store.HoldsEdge edge := by
  have named : edge.id = id := consistent.content.edge_id found
  exact ⟨named, edge, named ▸ found, rfl⟩

/-- The endpoints of a stored edge are stored. -/
theorem Consistent.endpoints_stored {store : Store} (consistent : store.Consistent) {edge : Edge}
    (held : store.HoldsEdge edge) :
    ∀ endpoint ∈ edge.endpoints, ∃ vertex, store.vertex? endpoint = some vertex := by
  obtain ⟨stored, found, same⟩ := held
  simp only [Edge.bare, Edge.mk.injEq] at same
  obtain ⟨-, -, outVertex, inVertex, -, -⟩ := same
  intro endpoint member
  rw [Edge.mem_endpoints, ← outVertex, ← inVertex] at member
  rcases member with rfl | rfl
  · exact Option.isSome_iff_exists.mp (consistent.content.outVertex_stored found)
  · exact Option.isSome_iff_exists.mp (consistent.content.inVertex_stored found)

namespace Copied

variable {source : GraphId} {origin base current after : Store}
  {vertices laterVertices : List VertexId} {edges laterEdges : List EdgeId}

/-- What has a clone keeps it when more is copied. -/
theorem vertexClone?_mono (copied : Copied source origin base vertices edges current)
    (later : Copied source origin base laterVertices laterEdges after)
    (more : vertices ⊆ laterVertices) {id : VertexId}
    (cloned : (current.vertexClone? ⟨source, id⟩).isSome = true) :
    (after.vertexClone? ⟨source, id⟩).isSome = true := by
  rw [copied.vertexClone?_isSome_iff] at cloned
  rw [later.vertexClone?_isSome_iff]
  exact cloned.imp_right fun member => more member

theorem edgeClone?_mono (copied : Copied source origin base vertices edges current)
    (later : Copied source origin base laterVertices laterEdges after)
    (more : edges ⊆ laterEdges) {id : EdgeId}
    (cloned : (current.edgeClone? ⟨source, id⟩).isSome = true) :
    (after.edgeClone? ⟨source, id⟩).isSome = true := by
  rw [copied.edgeClone?_isSome_iff] at cloned
  rw [later.edgeClone?_isSome_iff]
  exact cloned.imp_right fun member => more member

/-- A vertex that is cloned has a clone afterwards, and it is copied if it had none. -/
theorem cloneVertex (copied : Copied source origin base vertices edges current) {vertex : Vertex}
    (held : origin.HoldsVertex vertex) :
    ∃ more, more ⊆ [vertex.id] ∧
      Copied source origin base (more ++ vertices) edges (current.cloneVertex source vertex).2.1 ∧
      ((current.cloneVertex source vertex).2.1.vertexClone? ⟨source, vertex.id⟩).isSome =
        true := by
  cases found : current.vertexClone? ⟨source, vertex.id⟩ with
  | some clone =>
      rw [cloneVertex_of_found found]
      exact ⟨[], by simp, copied, by simp [found]⟩
  | none =>
      obtain ⟨stored, present, same⟩ := held
      have properties : stored.properties = vertex.properties := by
        simp only [Vertex.bare, Vertex.mk.injEq] at same
        exact same.2.1
      have more := copied.vertex present found
      rw [cloneVertex_of_missing found, ← properties]
      exact ⟨[vertex.id], fun _ member => member, more,
        (more.vertexClone?_isSome_iff vertex.id).mpr (Or.inr List.mem_cons_self)⟩

/-- Endpoints that are stored can be cloned. -/
theorem cloneEndpoints (copied : Copied source origin base vertices edges current)
    (consistent : origin.Consistent) {endpoints : List VertexId}
    (stored : ∀ endpoint ∈ endpoints, ∃ vertex, origin.vertex? endpoint = some vertex) :
    (current.cloneEndpoints source origin endpoints).1 = .ok () ∧
      ∃ more, more ⊆ endpoints ∧
        Copied source origin base (more ++ vertices) edges
          (current.cloneEndpoints source origin endpoints).2.1 ∧
        ∀ endpoint ∈ endpoints, ((current.cloneEndpoints source origin endpoints).2.1.vertexClone?
          ⟨source, endpoint⟩).isSome = true := by
  induction endpoints generalizing current vertices with
  | nil => exact ⟨rfl, [], by simp, copied, by simp⟩
  | cons endpoint rest ih =>
      obtain ⟨vertex, found⟩ := stored endpoint List.mem_cons_self
      obtain ⟨rfl, held⟩ := consistent.holdsVertex found
      obtain ⟨first, firstNamed, grown, cloned⟩ := copied.cloneVertex held
      obtain ⟨succeeded, second, secondNamed, final, others⟩ :=
        ih grown fun other member => stored other (List.mem_cons_of_mem _ member)
      simp only [Store.cloneEndpoints, found]
      refine ⟨succeeded, second ++ first, ?_, by rwa [List.append_assoc], ?_⟩
      · refine List.append_subset.mpr ⟨fun id member => ?_, fun id member => ?_⟩
        · exact List.mem_cons_of_mem _ (secondNamed member)
        · rw [List.mem_singleton.mp (firstNamed member)]
          exact List.mem_cons_self
      · intro other member
        rcases List.mem_cons.mp member with rfl | later
        · exact grown.vertexClone?_mono final (List.subset_append_right _ _) cloned
        · exact others other later

/-- An edge between vertices that have clones is copied. -/
theorem attachClone (copied : Copied source origin base vertices edges current) {edge : Edge}
    (held : origin.HoldsEdge edge) (options : CloneOptions)
    (missing : current.edgeClone? ⟨source, edge.id⟩ = none)
    (cloned : ∀ endpoint ∈ edge.endpoints,
      (current.vertexClone? ⟨source, endpoint⟩).isSome = true) :
    (∃ clone, (current.attachClone source edge options).1 = .ok (some clone)) ∧
      Copied source origin base vertices (edge.id :: edges)
        (current.attachClone source edge options).2.1 := by
  obtain ⟨outVertex, outCloned⟩ :=
    Option.isSome_iff_exists.mp (cloned edge.outVertex (by simp [Edge.endpoints]))
  obtain ⟨inVertex, inCloned⟩ :=
    Option.isSome_iff_exists.mp (cloned edge.inVertex (by simp [Edge.endpoints]))
  obtain ⟨stored, found, same⟩ := held
  rw [attachClone_of_found outCloned inCloned]
  simp only [Edge.bare, Edge.mk.injEq] at same
  obtain ⟨-, label, outSame, inSame, properties, -⟩ := same
  rw [← label, ← properties]
  exact ⟨⟨_, rfl⟩, copied.edge found missing (outSame ▸ outCloned) (inSame ▸ inCloned)⟩

end Copied

/-- An edge with an endpoint that has no clone is skipped or refused. -/
theorem attachClone_of_missing {store : Store} {source : GraphId} {edge : Edge}
    (missing : ∃ endpoint ∈ edge.endpoints, store.vertexClone? ⟨source, endpoint⟩ = none)
    (options : CloneOptions) :
    (store.attachClone source edge options).2.1 = store ∧
      (store.attachClone source edge options).1 =
        if options.ignoreMissing then .ok none
        else .error (.missingEndpoints edge.id edge.outVertex edge.inVertex) := by
  obtain ⟨endpoint, member, unknown⟩ := missing
  rcases Edge.mem_endpoints.mp member with rfl | rfl
  · cases inFound : store.vertexClone? ⟨source, edge.inVertex⟩ <;>
      cases ignore : options.ignoreMissing <;>
        simp [attachClone, unknown, inFound, ignore]
  · cases outFound : store.vertexClone? ⟨source, edge.outVertex⟩ <;>
      cases ignore : options.ignoreMissing <;>
        simp [attachClone, unknown, outFound, ignore]

/-- Both endpoints of an edge have clones, or the edge is skipped or refused. -/
theorem attachClone_cases (store : Store) (source : GraphId) (edge : Edge)
    (options : CloneOptions) :
    (∃ outVertex inVertex, store.vertexClone? ⟨source, edge.outVertex⟩ = some outVertex ∧
      store.vertexClone? ⟨source, edge.inVertex⟩ = some inVertex) ∨
    ((store.attachClone source edge options).2.1 = store ∧
      (store.attachClone source edge options).1 =
        if options.ignoreMissing then .ok none
        else .error (.missingEndpoints edge.id edge.outVertex edge.inVertex)) := by
  cases outFound : store.vertexClone? ⟨source, edge.outVertex⟩ with
  | none =>
      exact Or.inr
        (attachClone_of_missing ⟨_, Edge.mem_endpoints.mpr (Or.inl rfl), outFound⟩ options)
  | some outVertex =>
      cases inFound : store.vertexClone? ⟨source, edge.inVertex⟩ with
      | none =>
          exact Or.inr
            (attachClone_of_missing ⟨_, Edge.mem_endpoints.mpr (Or.inr rfl), inFound⟩ options)
      | some inVertex => exact Or.inl ⟨outVertex, inVertex, rfl, rfl⟩

/-- Cloning an edge has given it a clone, for which at most the edge itself and, where they may be
created, its endpoints have been copied. -/
structure GivesClone (source : GraphId) (origin base : Store) (vertices : List VertexId)
    (edges : List EdgeId) (edge : Edge) (options : CloneOptions) (more : List VertexId)
    (moreEdges : List EdgeId) (after : Store) : Prop where
  created : ∀ id ∈ more, options.createVertices = true ∧ id ∈ edge.endpoints
  own : moreEdges ⊆ [edge.id]
  copied : Copied source origin base (more ++ vertices) (moreEdges ++ edges) after
  cloned : (after.edgeClone? ⟨source, edge.id⟩).isSome = true

/-- An edge has no clone and gets none, because an endpoint has none and must not be created. -/
structure LacksEndpoint (source : GraphId) (store : Store) (edge : Edge) (options : CloneOptions) :
    Prop where
  unknown : store.edgeClone? ⟨source, edge.id⟩ = none
  createVertices : options.createVertices = false
  endpoint : ∃ endpoint ∈ edge.endpoints, store.vertexClone? ⟨source, endpoint⟩ = none

/-- An edge that is cloned has a clone afterwards, unless it lacks an endpoint; then it is skipped
or refused. -/
theorem Copied.cloneEdge {source : GraphId} {origin base current : Store}
    {vertices : List VertexId} {edges : List EdgeId}
    (copied : Copied source origin base vertices edges current) (consistent : origin.Consistent)
    {edge : Edge} (held : origin.HoldsEdge edge) (options : CloneOptions) :
    (∃ clone more moreEdges,
      (current.cloneEdge source origin edge options).1 = .ok (some clone) ∧
      GivesClone source origin base vertices edges edge options more moreEdges
        (current.cloneEdge source origin edge options).2.1) ∨
    (LacksEndpoint source current edge options ∧
      (current.cloneEdge source origin edge options).2.1 = current ∧
      (current.cloneEdge source origin edge options).1 =
        if options.ignoreMissing then .ok none
        else .error (.missingEndpoints edge.id edge.outVertex edge.inVertex)) := by
  cases found : current.edgeClone? ⟨source, edge.id⟩ with
  | some clone =>
      refine Or.inl ⟨clone, [], [], ?_, ?_⟩
      · simp [Store.cloneEdge, found]
      · simp only [Store.cloneEdge, found]
        exact ⟨by simp, by simp, copied, by simp [found]⟩
  | none =>
      cases creates : options.createVertices with
      | true =>
          obtain ⟨succeeded, more, named, grown, cloned⟩ :=
            copied.cloneEndpoints consistent (consistent.endpoints_stored held)
          have unknown : (current.cloneEndpoints source origin edge.endpoints).2.1.edgeClone?
              ⟨source, edge.id⟩ = none := by
            rw [← Option.not_isSome_iff_eq_none, grown.edgeClone?_isSome_iff,
              ← copied.edgeClone?_isSome_iff, Option.not_isSome_iff_eq_none]
            exact found
          obtain ⟨⟨clone, made⟩, attached⟩ := grown.attachClone held options unknown cloned
          simp only [Store.cloneEdge, found, creates, if_true]
          generalize current.cloneEndpoints source origin edge.endpoints = preparing
            at succeeded grown made attached ⊢
          obtain ⟨result, prepared, events⟩ := preparing
          obtain rfl : result = .ok () := succeeded
          exact Or.inl ⟨clone, more, [edge.id], made, fun id member => ⟨creates, named member⟩,
            fun _ member => member, attached,
            (attached.edgeClone?_isSome_iff edge.id).mpr (Or.inr List.mem_cons_self)⟩
      | false =>
          simp only [Store.cloneEdge, found, creates, Bool.false_eq_true, if_false]
          by_cases cloned : ∀ endpoint ∈ edge.endpoints,
              (current.vertexClone? ⟨source, endpoint⟩).isSome = true
          · obtain ⟨⟨clone, made⟩, attached⟩ := copied.attachClone held options found cloned
            exact Or.inl ⟨clone, [], [edge.id], made, by simp, fun _ member => member, attached,
              (attached.edgeClone?_isSome_iff edge.id).mpr (Or.inr List.mem_cons_self)⟩
          · have lacking : ∃ endpoint ∈ edge.endpoints,
                current.vertexClone? ⟨source, endpoint⟩ = none := by
              simpa using cloned
            exact Or.inr ⟨⟨found, creates, lacking⟩, attachClone_of_missing lacking options⟩

end Store

namespace World

variable {source target : GraphId} {start world : World} {vertices : List VertexId}
  {edges : List EdgeId}

theorem sameScopes_cloneVertex (world : World) (target source : GraphId) (vertex : Vertex) :
    SameScopes world (world.cloneVertex target source vertex).2 := by
  simp only [cloneVertex, emitAll_eq]
  split <;> exact ⟨⟨rfl, rfl⟩, rfl⟩

theorem sameScopes_cloneEdge (world : World) (target source : GraphId) (edge : Edge)
    (options : CloneOptions) : SameScopes world (world.cloneEdge target source edge options).2 := by
  simp only [cloneEdge, emitAll_eq]
  split <;> exact ⟨⟨rfl, rfl⟩, rfl⟩

/-- Exactly the listed elements of one graph have been copied into another one, whose store is the
only one that has changed. -/
structure Copying (source target : GraphId) (start : World) (vertices : List VertexId)
    (edges : List EdgeId) (world : World) : Prop where
  copied : Store.Copied source (start.store source) (start.store target) vertices edges
    (world.store target)
  others : ∀ graph, graph ≠ target → world.store graph = start.store graph

theorem Copying.cloneVertex (copying : Copying source target start vertices edges world)
    (foreign : source ≠ target) {vertex : Vertex}
    (held : (start.store source).HoldsVertex vertex) :
    (∃ clone, (world.cloneVertex target source vertex).1 = .ok clone) ∧
      ∃ more, more ⊆ [vertex.id] ∧
        Copying source target start (more ++ vertices) edges
          (world.cloneVertex target source vertex).2 ∧
        (((world.cloneVertex target source vertex).2.store target).vertexClone?
          ⟨source, vertex.id⟩).isSome = true := by
  obtain ⟨more, named, copied, cloned⟩ := copying.copied.cloneVertex held
  refine ⟨?_, more, named, ⟨?_, ?_⟩, ?_⟩
  · simp [World.cloneVertex, foreign]
  · rwa [world.store_cloneVertex foreign]
  · intro graph different
    rw [world.store_cloneVertex_of_ne (Ne.symm different), copying.others graph different]
  · rwa [world.store_cloneVertex foreign]

theorem Copying.cloneEdge (copying : Copying source target start vertices edges world)
    (foreign : source ≠ target) (consistent : (start.store source).Consistent) {edge : Edge}
    (held : (start.store source).HoldsEdge edge) (options : CloneOptions) :
    (∀ graph, graph ≠ target →
      (world.cloneEdge target source edge options).2.store graph = start.store graph) ∧
    ((∃ clone more moreEdges, (world.cloneEdge target source edge options).1 = .ok (some clone) ∧
      Store.GivesClone source (start.store source) (start.store target) vertices edges edge
        options more moreEdges ((world.cloneEdge target source edge options).2.store target)) ∨
    (Store.LacksEndpoint source (world.store target) edge options ∧
      (world.cloneEdge target source edge options).2.store target = world.store target ∧
      (world.cloneEdge target source edge options).1 =
        if options.ignoreMissing then .ok none
        else .error (.missingEndpoints edge.id edge.outVertex edge.inVertex))) := by
  have result : (world.cloneEdge target source edge options).1 =
      ((world.store target).cloneEdge source (start.store source) edge options).1 := by
    rw [← copying.others source foreign]
    simp [World.cloneEdge, foreign]
  refine ⟨fun graph different => ?_, ?_⟩
  · rw [world.store_cloneEdge_of_ne (Ne.symm different), copying.others graph different]
  · rw [result, world.store_cloneEdge foreign, copying.others source foreign]
    exact copying.copied.cloneEdge consistent held options

end World

end RoutedGraph
