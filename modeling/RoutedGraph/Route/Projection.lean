import RoutedGraph.Path

/-!
# Items of routes and their projections

A route passes on whole paths, single slots, bare values, vertices or edges.  A
projection is what an item is sorted, selected or replaced by; one that does
not apply to an item answers null.
-/

namespace RoutedGraph

inductive Item where
  | path (path : Path)
  | slot (slot : Slot)
  | value (value : Value)
  | vertex (vertex : Vertex)
  | edge (edge : Edge)

namespace Item

instance : Inhabited Item := ⟨value .null⟩

/-- A path as it is, and any other item as a path of one slot. -/
def toPath (item : Item) : Path :=
  match item with
  | path content => content
  | slot content => ⟨[content]⟩
  | value content => ⟨[some (.scalar content)]⟩
  | vertex content => ⟨[some (.vertex content)]⟩
  | edge content => ⟨[some (.edge content)]⟩

end Item

inductive Projection where
  | id
  | label
  | properties
  | value
  | payload
  | type
  | text
  | length
  | property (name : String)
  deriving DecidableEq

namespace Projection

/-- The aspect of an element; identifiers wrap to 64 signed bits. -/
def ofElement (aspect : Projection) (element : Element) : Value :=
  match aspect, element with
  | id, .vertex vertex => .int (Int64.ofNat vertex.id.raw)
  | id, .edge edge => .int (Int64.ofNat edge.id.raw)
  | label, .edge edge => .string edge.label
  | properties, .vertex vertex => .map vertex.properties
  | properties, .edge edge => .map edge.properties
  | value, .scalar content => content
  | payload, _ => element.payload?.getD .null
  | type, _ => .string element.type.name
  | text, _ => .string element.text
  | property name, _ => (element.property? name).getD .null
  | _, _ => .null

/-- The aspect of a slot; a hole has none. -/
def ofSlot (aspect : Projection) (slot : Slot) : Value :=
  (slot.map aspect.ofElement).getD .null

/-- The aspect of a path: its length, or else that of its first slot. -/
def ofPath (aspect : Projection) (path : Path) : Value :=
  match aspect with
  | length => .int (Int64.ofNat path.length)
  | _ => (path.first?.map aspect.ofSlot).getD .null

/-- The aspect of a bare value: an entry of a map, the length of a list, or that of a scalar. -/
def ofValue (aspect : Projection) (content : Value) : Value :=
  match aspect, content with
  | property name, .map entries => entries.getD name .null
  | length, .list items => .int (Int64.ofNat items.length)
  | _, _ => aspect.ofElement (.scalar content)

def ofItem (aspect : Projection) : Item → Value
  | .path path => aspect.ofPath path
  | .slot slot => aspect.ofSlot slot
  | .value content => aspect.ofValue content
  | .vertex vertex => aspect.ofElement (.vertex vertex)
  | .edge edge => aspect.ofElement (.edge edge)

end Projection

/-- In which direction the items of a section are sorted. -/
inductive Direction where
  | ascending
  | descending
  /-- Descending in windows of odd index. -/
  | alternating
  /-- Descending where no marker ended the section. -/
  | forced
  deriving DecidableEq

namespace Direction

def isDescending {α : Type} (direction : Direction) (marker : Option α) (index : Nat) : Bool :=
  match direction with
  | ascending => false
  | descending => true
  | alternating => index % 2 == 1
  | forced => marker.isNone

end Direction

end RoutedGraph
