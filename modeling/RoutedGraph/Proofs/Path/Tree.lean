import RoutedGraph.Proofs.OrderedDict
import RoutedGraph.Proofs.Route.Stacks

/-!
# Reading a tree from the left

The tree of a path is grown from its last slot to its first, and what is grown
later covers what is there.  Read from the left, the tree answers with the first
vertex that has a property, up to the first edge; below the label of that edge
stands the tree of the rest.  Holes and scalars leave no trace.
-/

namespace RoutedGraph

namespace Dict

variable {κ β : Type} [DecidableEq κ]

theorem get?_cons (key other : κ) (value : β) (rest : List (κ × β)) :
    (Dict.mk ((key, value) :: rest)).get? other =
      if key = other then some value else (Dict.mk rest).get? other := rfl

/-- A dictionary that is laid over another one answers first, if it lists no key twice. -/
theorem get?_extend [Ord κ] (dict other : Dict κ β) (distinct : other.keys.Nodup) (key : κ) :
    (dict.extend other).get? key = (other.get? key).or (dict.get? key) := by
  obtain ⟨entries⟩ := other
  -- A key that is inserted is not inserted again, so that its value stays.
  induction entries generalizing dict with
  | nil => rfl
  | cons entry rest ih =>
      obtain ⟨present, value⟩ := entry
      obtain ⟨unlisted, restDistinct⟩ := List.nodup_cons.mp distinct
      have missing : (Dict.mk rest).get? present = none := by
        cases found : (Dict.mk rest).get? present with
        | none => rfl
        | some later =>
            exact absurd ((mem_keys_iff _ _).mpr (by simp [contains, found])) unlisted
      have onward : (dict.extend ⟨(present, value) :: rest⟩).get? key =
          ((Dict.mk rest).get? key).or ((dict.insert present value).get? key) :=
        ih (dict.insert present value) restDistinct
      rw [onward, get?_insert, get?_cons]
      by_cases same : present = key
      · subst same
        simp [missing]
      · simp [same]

end Dict

namespace Path

/-- Whether a slot holds an edge. -/
def holdsEdge : Slot → Bool
  | some (.edge _) => true
  | _ => false

/-- The value that a property has in the first vertex that has it. -/
def firstProperty (path : Path) (name : String) : Option Value :=
  path.vertices.findSome? fun vertex => vertex.property? name

/-- The vertices and the edges, in order. -/
def graphElements (path : Path) : List Element :=
  path.elements.filter fun element => decide (element.type ≠ .scalar)

theorem tree_cons (element : Element) (slots : List Slot) :
    tree ⟨some element :: slots⟩ = growTree element (tree ⟨slots⟩) := rfl

theorem vertices_cons (element : Element) (slots : List Slot) :
    vertices ⟨some element :: slots⟩ = element.asVertex?.toList ++ vertices ⟨slots⟩ := by
  cases element <;> rfl

theorem vertices_append (first second : List Slot) :
    vertices ⟨first ++ second⟩ = vertices ⟨first⟩ ++ vertices ⟨second⟩ := by
  simp [vertices, elements]

/-- An edge puts everything below its label. -/
theorem get?_growTree_edge (edge : Edge) (below : Properties) (key : String) :
    (growTree (.edge edge) below).get? key =
      if key = edge.label then some (.list [.map below]) else none := by
  simp only [growTree, Dict.get?_insert, Dict.get?_empty, eq_comm]

/-- Before the first edge, the first vertex that has a property answers. -/
theorem get?_tree_append {before : List Slot} (bare : ∀ slot ∈ before, holdsEdge slot = false)
    (distinct : ∀ vertex ∈ vertices ⟨before⟩, vertex.properties.keys.Nodup) (after : List Slot)
    (key : String) :
    (tree ⟨before ++ after⟩).get? key =
      (firstProperty ⟨before⟩ key).or ((tree ⟨after⟩).get? key) := by
  induction before with
  | nil => rfl
  | cons slot before ih =>
      have restBare : ∀ slot ∈ before, holdsEdge slot = false :=
        fun other member => bare other (List.mem_cons_of_mem _ member)
      cases slot with
      | none => exact ih restBare distinct
      | some element =>
          rw [vertices_cons] at distinct
          have onward := ih restBare fun vertex member =>
            distinct vertex (List.mem_append_right _ member)
          rw [List.cons_append, tree_cons, firstProperty, vertices_cons]
          cases element with
          | edge edge => exact absurd (bare _ List.mem_cons_self) (by simp [holdsEdge])
          | scalar value => exact onward
          | vertex vertex =>
              have own : vertex.properties.keys.Nodup :=
                distinct vertex (by simp [Element.asVertex?])
              rw [growTree, Dict.get?_extend _ _ own, onward]
              simp only [Element.asVertex?, Option.toList_some, List.cons_append, List.nil_append,
                List.findSome?_cons, Vertex.property?, firstProperty]
              cases vertex.properties.get? key <;> rfl

/-- Scalars and holes are passed over. -/
theorem tree_eq_foldr_graphElements (path : Path) :
    path.tree = path.graphElements.foldr growTree Dict.empty := by
  rw [tree, graphElements]
  induction path.elements with
  | nil => rfl
  | cons element rest ih => cases element <;> simp [ih, Element.type, growTree]

theorem elements_compact (path : Path) : path.compact.elements = path.elements := by
  simp [elements, compact, List.filterMap_map]

end Path

namespace Route

/-- A stack of stages that makes its tree of every path. -/
theorem collect_stack_trees (world : World) (paths : List Path) (stages : List Stage)
    (grows : ∀ path, Stage.through stages (.path path) = some (.ok (.value (.map path.tree)))) :
    (world.collect (Stage.stack stages (ofItems (paths.map Item.path) .path))).1 =
      .ok (paths.map fun path => .value (.map path.tree)) := by
  have answers : ∀ item ∈ paths.map Item.path,
      Stage.through stages item = some (.ok (.value (.map item.toPath.tree))) :=
    List.forall_mem_map.mpr fun path _ => grows path
  rw [world.collect_stack_of_values .path _ answers, List.map_map]
  rfl

/-- The tree of a path, read from the left.  A key answers with its value in the first vertex that
has it, among those before the first edge; if there is none, the label of that edge answers with
the tree of what comes after it; nothing else answers.  Holes and scalars never matter. -/
theorem collect_trees (world : World) (paths : List Path)
    (distinct : ∀ path ∈ paths, ∀ vertex ∈ path.vertices, vertex.properties.keys.Nodup) :
    let route := ofItems (paths.map Item.path) .path
    (world.collect route.trees).1 = .ok (paths.map fun path => .value (.map path.tree)) ∧
    (world.collect route.compact.trees).1 = (world.collect route.trees).1 ∧
    ∀ path ∈ paths,
      ((∀ slot ∈ path.slots, Path.holdsEdge slot = false) →
        ∀ key, path.tree.get? key = path.firstProperty key) ∧
      (∀ before edge after, path.slots = before ++ some (.edge edge) :: after →
        (∀ slot ∈ before, Path.holdsEdge slot = false) →
        ∀ key, path.tree.get? key =
          (Path.firstProperty ⟨before⟩ key).or
            (if key = edge.label then some (.list [.map (Path.tree ⟨after⟩)]) else none)) ∧
      path.compact.tree = path.tree ∧
      ∀ other : Path, other.graphElements = path.graphElements → other.tree = path.tree := by
  intro route
  have compacted (path : Path) : path.compact.tree = path.tree := by
    rw [Path.tree, Path.elements_compact, Path.tree]
  have trees := collect_stack_trees world paths [.trees] fun _ => rfl
  have compactTrees := collect_stack_trees world paths [.compact, .trees] fun path => by
    simp [Stage.through, answerBoth, Stage.answer, Item.toPath, compacted]
  refine ⟨trees, compactTrees.trans trees.symm, fun path member => ?_⟩
  obtain ⟨slots⟩ := path
  refine ⟨fun bare key => ?_, ?_, compacted _, fun other same => ?_⟩
  · have read := Path.get?_tree_append bare (distinct _ member) [] key
    rw [List.append_nil] at read
    exact read.trans (Option.or_none)
  · rintro before edge after rfl bare key
    have own : ∀ vertex ∈ Path.vertices ⟨before⟩, vertex.properties.keys.Nodup := by
      intro vertex among
      refine distinct _ member vertex ?_
      rw [Path.vertices_append]
      exact List.mem_append_left _ among
    rw [Path.get?_tree_append bare own, Path.tree_cons, Path.get?_growTree_edge]
  · rw [Path.tree_eq_foldr_graphElements, same, ← Path.tree_eq_foldr_graphElements]

/-- A path of two vertices, an edge to a third, a hole and a scalar.  The second vertex has a
property of its own, and one that the first has as well. -/
def friends : Path :=
  let named (id : Nat) (properties : List (String × Value)) : Slot :=
    some (.vertex ⟨⟨id⟩, Dict.ofList properties, none⟩)
  ⟨[named 1 [("name", .string "a")], none,
    named 2 [("name", .string "b"), ("age", .int 3)],
    some (.edge ⟨⟨1⟩, "knows", ⟨2⟩, ⟨3⟩, Dict.empty, none⟩),
    some (.scalar .null), named 3 [("name", .string "c")]]⟩

theorem collect_trees_friends :
    (∀ path ∈ [friends], ∀ vertex ∈ path.vertices, vertex.properties.keys.Nodup) ∧
    friends.tree.get? "name" = some (.string "a") ∧
    friends.tree.get? "age" = some (.int 3) ∧
    friends.tree.get? "knows" =
      some (.list [.map (Path.tree ⟨friends.slots.drop 4⟩)]) ∧
    friends.tree.get? "label" = none := by
  have distinct : ∀ path ∈ [friends], ∀ vertex ∈ path.vertices, vertex.properties.keys.Nodup := by
    decide
  have read := ((collect_trees World.empty [friends] distinct).2.2 friends List.mem_cons_self).2.1
    (friends.slots.take 3) ⟨⟨1⟩, "knows", ⟨2⟩, ⟨3⟩, Dict.empty, none⟩ (friends.slots.drop 4) rfl
    (by decide)
  exact ⟨distinct, (read "name").trans rfl, (read "age").trans rfl, (read "knows").trans rfl,
    (read "label").trans rfl⟩

end Route

end RoutedGraph
