import RoutedGraph.Proofs.Store.Clones

/-!
# Copies of another graph's elements

A store is copied into when vertices and edges of another graph are cloned into
it that it has no clones of yet.  Each of them then has exactly one new element
as its clone, which looks like it, and an edge lies between the clones of its
endpoints.  All that was there before is kept, and nothing else is new.
-/

namespace RoutedGraph

namespace Dict

variable {κ β : Type} [DecidableEq κ] [Ord κ]

theorem contains_insert (dict : Dict κ β) (key other : κ) (value : β) :
    (dict.insert key value).contains other = (decide (key = other) || dict.contains other) := by
  rw [contains, get?_insert]
  split <;> simp [*, contains]

/-- What is looked up in a dictionary stays as it is when another key is stored. -/
theorem filter_contains_insert (dict : Dict κ β) {key : κ} (value : β) {looked : Option κ}
    (older : looked ≠ some key) :
    looked.filter (dict.insert key value).contains = looked.filter dict.contains := by
  cases looked with
  | none => rfl
  | some other =>
      have different : key ≠ other := fun same => older (by rw [same])
      have same : (dict.insert key value).contains other = dict.contains other := by
        rw [contains_insert, decide_eq_false different, Bool.false_or]
      simp only [Option.filter, same]

end Dict

/-- The elements of one kind, and which of them are the clones of other graphs' elements. -/
structure Holdings (ι β : Type) where
  element? : ι → Option β
  clone? : Foreign ι → Option ι

namespace Holdings

variable {ι β : Type}

/-- One element is new, and it is the clone of something that had none. -/
structure Adds [DecidableEq ι] (source : GraphId) (id fresh : ι) (element : β)
    (before after : Holdings ι β) : Prop where
  missing : before.clone? ⟨source, id⟩ = none
  unused : before.element? fresh = none
  elements : ∀ other, after.element? other =
    if fresh = other then some element else before.element? other
  clones : ∀ other, after.clone? other =
    if ⟨source, id⟩ = other then some fresh else before.clone? other

namespace Adds

variable [DecidableEq ι] {source : GraphId} {id fresh other : ι} {element found : β}
  {before after : Holdings ι β}

theorem element_kept (adds : Adds source id fresh element before after)
    (present : before.element? other = some found) : after.element? other = some found := by
  have older : fresh ≠ other := by
    rintro rfl
    rw [adds.unused] at present
    cases present
  rw [adds.elements, if_neg older, present]

theorem clone_kept (adds : Adds source id fresh element before after) {original : Foreign ι}
    {clone : ι} (present : before.clone? original = some clone) :
    after.clone? original = some clone := by
  have different : ⟨source, id⟩ ≠ original := by
    rintro rfl
    rw [adds.missing] at present
    cases present
  rw [adds.clones, if_neg different, present]

theorem made (adds : Adds source id fresh element before after) :
    after.clone? ⟨source, id⟩ = some fresh := by
  rw [adds.clones, if_pos rfl]

end Adds

/-- Of the elements of another graph, exactly those listed have been copied.  `Alike` says of an
element, of the identifier of its clone and of its clone that the clone is as it should be. -/
structure Copied (source : GraphId) (Alike : ι → ι → β → Prop) (ids : List ι)
    (before after : Holdings ι β) : Prop where
  nodup : ids.Nodup
  kept : ∀ {id element}, before.element? id = some element → after.element? id = some element
  clone_kept : ∀ {other clone}, before.clone? other = some clone →
    after.clone? other = some clone
  /-- What has been copied had no clone, and has a new one. -/
  copy : ∀ {id}, id ∈ ids → before.clone? ⟨source, id⟩ = none ∧
    ∃ clone element, after.clone? ⟨source, id⟩ = some clone ∧ before.element? clone = none ∧
      after.element? clone = some element ∧ Alike id clone element
  /-- What is new is the clone of something that has been copied. -/
  new : ∀ {clone element}, after.element? clone = some element → before.element? clone = none →
    ∃ id ∈ ids, after.clone? ⟨source, id⟩ = some clone
  clone_new : ∀ {other clone}, after.clone? other = some clone →
    before.clone? other = some clone ∨ (other.graph = source ∧ other.id ∈ ids)
  distinct : ∀ {id other clone}, id ∈ ids → other ∈ ids →
    after.clone? ⟨source, id⟩ = some clone → after.clone? ⟨source, other⟩ = some clone →
    id = other

namespace Copied

variable {source : GraphId} {Alike Similar : ι → ι → β → Prop} {ids : List ι}
  {before current after : Holdings ι β}

theorem refl (source : GraphId) (Alike : ι → ι → β → Prop) (holdings : Holdings ι β) :
    Copied source Alike [] holdings holdings where
  nodup := List.nodup_nil
  kept := id
  clone_kept := id
  copy member := by cases member
  new found missing := by
    rw [found] at missing
    cases missing
  clone_new := Or.inl
  distinct member := by cases member

theorem imp (copied : Copied source Alike ids before after)
    (similar : ∀ {id clone element}, Alike id clone element → Similar id clone element) :
    Copied source Similar ids before after where
  nodup := copied.nodup
  kept := copied.kept
  clone_kept := copied.clone_kept
  copy member := by
    obtain ⟨missing, clone, element, found, new, looks, alike⟩ := copied.copy member
    exact ⟨missing, clone, element, found, new, looks, similar alike⟩
  new := copied.new
  clone_new := copied.clone_new
  distinct := copied.distinct

/-- What is not there afterwards was not there before. -/
theorem element?_eq_none (copied : Copied source Alike ids before after) {id : ι}
    (missing : after.element? id = none) : before.element? id = none := by
  cases found : before.element? id with
  | none => rfl
  | some element =>
      rw [copied.kept found] at missing
      cases missing

theorem clone?_eq_none (copied : Copied source Alike ids before after) {other : Foreign ι}
    (missing : after.clone? other = none) : before.clone? other = none := by
  cases found : before.clone? other with
  | none => rfl
  | some clone =>
      rw [copied.clone_kept found] at missing
      cases missing

/-- An element of the other graph has a clone if it had one before or has been copied. -/
theorem clone?_isSome_iff (copied : Copied source Alike ids before after) (id : ι) :
    (after.clone? ⟨source, id⟩).isSome = true ↔
      (before.clone? ⟨source, id⟩).isSome = true ∨ id ∈ ids := by
  constructor
  · intro found
    obtain ⟨clone, found⟩ := Option.isSome_iff_exists.mp found
    rcases copied.clone_new found with old | ⟨-, member⟩
    · exact Or.inl (by simp [old])
    · exact Or.inr member
  · rintro (old | member)
    · obtain ⟨clone, found⟩ := Option.isSome_iff_exists.mp old
      simp [copied.clone_kept found]
    · obtain ⟨-, clone, element, found, -⟩ := copied.copy member
      simp [found]

variable [DecidableEq ι] {id other fresh : ι} {element : β}

/-- What was copied before has an older clone than what is copied now. -/
theorem older (copied : Copied source Alike ids before current)
    (adds : Adds source id fresh element current after) (member : other ∈ ids) :
    after.clone? ⟨source, other⟩ ≠ some fresh := by
  intro same
  obtain ⟨-, clone, found, present, -, looks, -⟩ := copied.copy member
  rw [adds.clone_kept present] at same
  obtain rfl := Option.some.inj same
  rw [adds.unused] at looks
  cases looks

/-- What was copied before is found as it was. -/
theorem clone?_eq (copied : Copied source Alike ids before current)
    (adds : Adds source id fresh element current after) (member : other ∈ ids) :
    after.clone? ⟨source, other⟩ = current.clone? ⟨source, other⟩ := by
  obtain ⟨-, clone, found, present, -⟩ := copied.copy member
  rw [adds.clone_kept present, present]

theorem not_mem (copied : Copied source Alike ids before current)
    (adds : Adds source id fresh element current after) : id ∉ ids := by
  intro member
  obtain ⟨-, clone, found, present, -⟩ := copied.copy member
  rw [adds.missing] at present
  cases present

/-- One more element is copied. -/
theorem cons (copied : Copied source Alike ids before current)
    (adds : Adds source id fresh element current after) (alike : Alike id fresh element) :
    Copied source Alike (id :: ids) before after where
  nodup := List.nodup_cons.mpr ⟨copied.not_mem adds, copied.nodup⟩
  kept present := adds.element_kept (copied.kept present)
  clone_kept present := adds.clone_kept (copied.clone_kept present)
  copy member := by
    rcases List.mem_cons.mp member with rfl | earlier
    · exact ⟨copied.clone?_eq_none adds.missing, fresh, element, adds.made,
        copied.element?_eq_none adds.unused, by rw [adds.elements, if_pos rfl], alike⟩
    · obtain ⟨unknown, clone, found, present, new, looks, alike⟩ := copied.copy earlier
      exact ⟨unknown, clone, found, adds.clone_kept present, new, adds.element_kept looks, alike⟩
  new present new := by
    rw [adds.elements] at present
    split at present
    · next same => exact ⟨id, List.mem_cons_self, same ▸ adds.made⟩
    · obtain ⟨other, member, cloned⟩ := copied.new present new
      exact ⟨other, List.mem_cons_of_mem _ member, adds.clone_kept cloned⟩
  clone_new present := by
    rw [adds.clones] at present
    split at present
    · next same => exact Or.inr (by rw [← same]; exact ⟨rfl, List.mem_cons_self⟩)
    · rcases copied.clone_new present with old | ⟨graph, member⟩
      · exact Or.inl old
      · exact Or.inr ⟨graph, List.mem_cons_of_mem _ member⟩
  distinct := by
    intro first second clone firstMember secondMember firstFound secondFound
    rcases List.mem_cons.mp firstMember with rfl | firstEarlier
    · rcases List.mem_cons.mp secondMember with rfl | secondEarlier
      · rfl
      · rw [adds.made] at firstFound
        exact absurd (secondFound.trans firstFound.symm) (copied.older adds secondEarlier)
    · rcases List.mem_cons.mp secondMember with rfl | secondEarlier
      · rw [adds.made] at secondFound
        exact absurd (firstFound.trans secondFound.symm) (copied.older adds firstEarlier)
      · rw [copied.clone?_eq adds firstEarlier] at firstFound
        rw [copied.clone?_eq adds secondEarlier] at secondFound
        exact copied.distinct firstEarlier secondEarlier firstFound secondFound

end Copied

end Holdings

namespace Store

def vertexHoldings (store : Store) : Holdings VertexId Vertex :=
  ⟨store.vertex?, store.vertexClone?⟩

def edgeHoldings (store : Store) : Holdings EdgeId Edge := ⟨store.edge?, store.edgeClone?⟩

section Look

variable {store : Store}

theorem vertex?_withVertexClone (store : Store) (origin : Foreign VertexId)
    (properties : Properties) (id : VertexId) :
    (store.withVertexClone origin properties).vertex? id =
      if ⟨store.nextVertex⟩ = id then some ⟨⟨store.nextVertex⟩, properties, none⟩
      else store.vertex? id :=
  Dict.get?_insert _ _ _ _

/-- A new clone of a vertex is found under its origin, and all other look-ups stay. -/
theorem vertexClone?_withVertexClone (known : store.ClonesKnown) (origin other : Foreign VertexId)
    (properties : Properties) :
    (store.withVertexClone origin properties).vertexClone? other =
      if origin = other then some ⟨store.nextVertex⟩ else store.vertexClone? other := by
  have older : store.vertexClones.get? other ≠ some ⟨store.nextVertex⟩ := fun entry =>
    Nat.lt_irrefl _ (known.vertex_lt entry)
  have entries : (store.withVertexClone origin properties).vertexClones.get? other =
      if origin = other then some ⟨store.nextVertex⟩ else store.vertexClones.get? other :=
    Dict.get?_insert _ _ _ _
  have stored : (store.withVertexClone origin properties).vertices =
      store.vertices.insert ⟨store.nextVertex⟩ ⟨⟨store.nextVertex⟩, properties, none⟩ := rfl
  rw [vertexClone?, entries, stored]
  split
  · simp [Option.filter, Dict.contains_insert]
  · exact Dict.filter_contains_insert _ _ older

theorem isTransactional_withVertexClone (store : Store) (origin : Foreign VertexId)
    (properties : Properties) :
    (store.withVertexClone origin properties).isTransactional = store.isTransactional := by
  simp [withVertexClone, addVertex, recordVertexClone, record, isTransactional]

variable {outVertex inVertex : VertexId} (outStored : store.vertices.contains outVertex = true)
  (inStored : store.vertices.contains inVertex = true)

include outStored inStored

/-- A new clone of an edge leaves the vertices, their clones and the kind of the store alone. -/
theorem vertexHoldings_withEdgeClone (origin : Foreign EdgeId) (label : String)
    (properties : Properties) :
    (store.withEdgeClone origin label outVertex inVertex properties).vertexHoldings =
        store.vertexHoldings ∧
      (store.withEdgeClone origin label outVertex inVertex properties).isTransactional =
        store.isTransactional := by
  simp only [withEdgeClone, addEdge_eq outStored inStored]
  refine ⟨rfl, ?_⟩
  simp [recordEdgeClone, record, isTransactional, attach]

theorem edge?_withEdgeClone (origin : Foreign EdgeId) (label : String) (properties : Properties)
    (id : EdgeId) :
    (store.withEdgeClone origin label outVertex inVertex properties).edge? id =
      if ⟨store.nextEdge⟩ = id then
        some ⟨⟨store.nextEdge⟩, label, outVertex, inVertex, properties, none⟩
      else store.edge? id := by
  simp only [withEdgeClone, addEdge_eq outStored inStored]
  exact Dict.get?_insert _ _ _ _

/-- A new clone of an edge is found under its origin, and all other look-ups stay. -/
theorem edgeClone?_withEdgeClone (known : store.ClonesKnown) (origin other : Foreign EdgeId)
    (label : String) (properties : Properties) :
    (store.withEdgeClone origin label outVertex inVertex properties).edgeClone? other =
      if origin = other then some ⟨store.nextEdge⟩ else store.edgeClone? other := by
  have older : store.edgeClones.get? other ≠ some ⟨store.nextEdge⟩ := fun entry =>
    Nat.lt_irrefl _ (known.edge_lt entry)
  have entries :
      (store.withEdgeClone origin label outVertex inVertex properties).edgeClones.get? other =
        if origin = other then some ⟨store.nextEdge⟩ else store.edgeClones.get? other := by
    simp only [withEdgeClone, addEdge_eq outStored inStored]
    exact Dict.get?_insert _ _ _ _
  have stored : (store.withEdgeClone origin label outVertex inVertex properties).edges =
      store.edges.insert ⟨store.nextEdge⟩
        ⟨⟨store.nextEdge⟩, label, outVertex, inVertex, properties, none⟩ := by
    simp only [withEdgeClone, addEdge_eq outStored inStored]
    rfl
  rw [edgeClone?, entries, stored]
  split
  · simp [Option.filter, Dict.contains_insert]
  · exact Dict.filter_contains_insert _ _ older

end Look

/-- The clone of a stored vertex has its properties and no payload. -/
def VertexCopy (origin : Store) (id clone : VertexId) (vertex : Vertex) : Prop :=
  ∃ stored, origin.vertex? id = some stored ∧ vertex = ⟨clone, stored.properties, none⟩

/-- The clone of a stored edge has its label and properties and no payload, and lies between the
clones of its endpoints. -/
def EdgeCopy (source : GraphId) (origin current : Store) (id clone : EdgeId) (edge : Edge) :
    Prop :=
  ∃ stored outVertex inVertex, origin.edge? id = some stored ∧
    current.vertexClone? ⟨source, stored.outVertex⟩ = some outVertex ∧
    current.vertexClone? ⟨source, stored.inVertex⟩ = some inVertex ∧
    edge = ⟨clone, stored.label, outVertex, inVertex, stored.properties, none⟩

/-- A store that has had exactly the listed vertices and edges of another one copied into it. -/
structure Copied (source : GraphId) (origin base : Store) (vertices : List VertexId)
    (edges : List EdgeId) (current : Store) : Prop where
  consistent : current.Consistent
  known : current.ClonesKnown
  isTransactional : current.isTransactional = base.isTransactional
  ofVertices : base.vertexHoldings.Copied source (VertexCopy origin) vertices
    current.vertexHoldings
  ofEdges : base.edgeHoldings.Copied source (EdgeCopy source origin current) edges
    current.edgeHoldings

namespace Copied

variable {source : GraphId} {origin base current : Store} {vertices : List VertexId}
  {edges : List EdgeId}

theorem refl (consistent : base.Consistent) (known : base.ClonesKnown) :
    Copied source origin base [] [] base :=
  ⟨consistent, known, rfl, Holdings.Copied.refl _ _ _, Holdings.Copied.refl _ _ _⟩

/-- A commit copies nothing. -/
theorem commit (copied : Copied source origin base vertices edges current) :
    Copied source origin base vertices edges current.commit where
  consistent := copied.consistent.commit
  known := copied.known.commit
  isTransactional := by
    rw [← copied.isTransactional]
    simp [Store.commit, Store.isTransactional]
  ofVertices := copied.ofVertices
  ofEdges := copied.ofEdges

/-- A vertex of the other store has a clone if it had one before or has been copied. -/
theorem vertexClone?_isSome_iff (copied : Copied source origin base vertices edges current)
    (id : VertexId) :
    (current.vertexClone? ⟨source, id⟩).isSome = true ↔
      (base.vertexClone? ⟨source, id⟩).isSome = true ∨ id ∈ vertices :=
  copied.ofVertices.clone?_isSome_iff id

/-- An edge of the other store has a clone if it had one before or has been copied. -/
theorem edgeClone?_isSome_iff (copied : Copied source origin base vertices edges current)
    (id : EdgeId) :
    (current.edgeClone? ⟨source, id⟩).isSome = true ↔
      (base.edgeClone? ⟨source, id⟩).isSome = true ∨ id ∈ edges :=
  copied.ofEdges.clone?_isSome_iff id

/-- The endpoints of an edge that has been copied have clones. -/
theorem endpoints_cloned (copied : Copied source origin base vertices edges current) {id : EdgeId}
    (member : id ∈ edges) :
    ∃ stored, origin.edge? id = some stored ∧
      ∀ endpoint ∈ stored.endpoints, (current.vertexClone? ⟨source, endpoint⟩).isSome = true := by
  obtain ⟨-, clone, edge, -, -, -, stored, outVertex, inVertex, found, outCloned, inCloned, -⟩ :=
    copied.ofEdges.copy member
  refine ⟨stored, found, ?_⟩
  simp [Edge.endpoints, outCloned, inCloned]

theorem vertex (copied : Copied source origin base vertices edges current) {id : VertexId}
    {stored : Vertex} (found : origin.vertex? id = some stored)
    (missing : current.vertexClone? ⟨source, id⟩ = none) :
    Copied source origin base (id :: vertices) edges
      (current.withVertexClone ⟨source, id⟩ stored.properties) := by
  have clones :=
    clones_withVertexClone copied.consistent copied.known missing stored.properties
  refine
    { consistent := clones.writes.consistent
      known := clones.known
      isTransactional := (isTransactional_withVertexClone _ _ _).trans copied.isTransactional
      ofVertices := copied.ofVertices.cons
        ⟨missing, copied.consistent.vertex_fresh, current.vertex?_withVertexClone _ _,
          fun other => vertexClone?_withVertexClone copied.known _ other _⟩ ⟨stored, found, rfl⟩
      ofEdges := copied.ofEdges.imp ?_ }
  rintro edge clone look ⟨original, outVertex, inVertex, edgeFound, outCloned, inCloned, looks⟩
  exact ⟨original, outVertex, inVertex, edgeFound, clones.vertex_kept outCloned,
    clones.vertex_kept inCloned, looks⟩

theorem edge (copied : Copied source origin base vertices edges current) {id : EdgeId}
    {stored : Edge} (found : origin.edge? id = some stored)
    (missing : current.edgeClone? ⟨source, id⟩ = none) {outVertex inVertex : VertexId}
    (outCloned : current.vertexClone? ⟨source, stored.outVertex⟩ = some outVertex)
    (inCloned : current.vertexClone? ⟨source, stored.inVertex⟩ = some inVertex) :
    Copied source origin base vertices (id :: edges)
      (current.withEdgeClone ⟨source, id⟩ stored.label outVertex inVertex stored.properties) := by
  have outStored := (vertexClone?_eq_some_iff.mp outCloned).2
  have inStored := (vertexClone?_eq_some_iff.mp inCloned).2
  have clones := clones_withEdgeClone copied.consistent copied.known missing outStored inStored
    stored.label stored.properties
  obtain ⟨sameVertices, sameKind⟩ :=
    vertexHoldings_withEdgeClone outStored inStored ⟨source, id⟩ stored.label stored.properties
  have alike : ∀ {edge clone look}, EdgeCopy source origin current edge clone look →
      EdgeCopy source origin
        (current.withEdgeClone ⟨source, id⟩ stored.label outVertex inVertex stored.properties)
        edge clone look := by
    rintro edge clone look ⟨original, out, inside, edgeFound, outFound, inFound, looks⟩
    exact ⟨original, out, inside, edgeFound, clones.vertex_kept outFound,
      clones.vertex_kept inFound, looks⟩
  exact
    { consistent := clones.writes.consistent
      known := clones.known
      isTransactional := sameKind.trans copied.isTransactional
      ofVertices := sameVertices ▸ copied.ofVertices
      ofEdges := (copied.ofEdges.imp alike).cons
        ⟨missing, copied.consistent.edge_fresh, edge?_withEdgeClone outStored inStored _ _ _,
          fun other => edgeClone?_withEdgeClone outStored inStored copied.known _ other _ _⟩
        ⟨stored, outVertex, inVertex, found, clones.vertex_kept outCloned,
          clones.vertex_kept inCloned, rfl⟩ }

end Copied

end Store

end RoutedGraph
