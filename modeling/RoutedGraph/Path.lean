import RoutedGraph.Element
import RoutedGraph.Fault

/-!
# Paths

A path is a sequence of slots, each an element or a hole.  Positions may count
from either end: a negative index counts from the last slot backwards.  A path
is reshaped on its own, paths of one length are transposed together, and a path
is folded into a tree from its last slot to its first.
-/

namespace RoutedGraph

/-- One position of a path: an element or a hole. -/
abbrev Slot := Option Element

structure Path where
  slots : List Slot

namespace Path

instance : Inhabited Path := ⟨⟨[]⟩⟩

/-- The number of positions, holes included. -/
def length (path : Path) : Nat := path.slots.length

def isEmpty (path : Path) : Bool := path.slots.isEmpty

/-- The position that a possibly negative index means, if it is one. -/
def resolveIndex (path : Path) (index : Int) : Option Nat :=
  let position := if index < 0 then (path.length : Int) + index else index
  if 0 ≤ position ∧ position < (path.length : Int) then some position.toNat else none

/-- The slot at a possibly negative index. -/
def get? (path : Path) (index : Int) : Option Slot :=
  (path.resolveIndex index).bind fun position => path.slots[position]?

def first? (path : Path) : Option Slot := path.slots.head?

def last? (path : Path) : Option Slot := path.slots.getLast?

def elements (path : Path) : List Element := path.slots.filterMap id

/-- The path without its holes. -/
def compact (path : Path) : Path := ⟨path.elements.map some⟩

def vertices (path : Path) : List Vertex := path.elements.filterMap Element.asVertex?

def edges (path : Path) : List Edge := path.elements.filterMap Element.asEdge?

/-- Equality of slots: holes match holes, elements match equal elements. -/
def equalSlots : List Slot → List Slot → Bool
  | [], [] => true
  | none :: first, none :: second => equalSlots first second
  | some one :: first, some two :: second => one.equal two && equalSlots first second
  | _, _ => false

/-- Equality, numeric at the leaves of values. -/
def equal (first second : Path) : Bool := equalSlots first.slots second.slots

/-- The payload of a slot's element, or a hole. -/
def payloadSlot (slot : Slot) : Slot := (slot.bind Element.payload?).map Element.scalar

/-- The path of the payloads, with a hole where there is none. -/
def payloads (path : Path) : Path := ⟨path.slots.map payloadSlot⟩

/-- The slot at a possibly negative index, which has to exist. -/
def slotAt (path : Path) (index : Int) : Except RouteError Slot :=
  match path.get? index with
  | some slot => .ok slot
  | none => .error (.indexOutOfRange index path.length)

def pair (path : Path) (head tail : Int) : Except RouteError Path := do
  let first ← path.slotAt head
  let second ← path.slotAt tail
  return ⟨[first, second]⟩

/-- The first path from a position on whose length is not the expected one. -/
def firstMisfit (width : Nat) : Nat → List Path → Option (Nat × Path)
  | _, [] => none
  | position, path :: rest =>
      if path.length = width then firstMisfit width (position + 1) rest else some (position, path)

/-- Put the slots of a row in front of the columns. -/
def prependRow (row : List Slot) (columns : List (List Slot)) : List (List Slot) :=
  List.zipWith List.cons row columns

def columns (width : Nat) (rows : List (List Slot)) : List (List Slot) :=
  rows.foldr prependRow (List.replicate width [])

/-- The transposed matrix of paths, which all have to have the length of the first. -/
def transpose : List Path → Except RouteError (List Path)
  | [] => .ok []
  | first :: rest =>
      match firstMisfit first.length 0 (first :: rest) with
      | some (position, path) => .error (.shapeMismatch first.length path.length position)
      | none => .ok ((columns first.length ((first :: rest).map Path.slots)).map Path.mk)

/-- A vertex lays its properties over a tree, and an edge puts the tree under its label. -/
def growTree (element : Element) (tree : Properties) : Properties :=
  match element with
  | .vertex vertex => tree.extend vertex.properties
  | .edge edge => Dict.empty.insert edge.label (.list [.map tree])
  | .scalar _ => tree

/-- The tree that the elements of a path grow, from the last to the first. -/
def tree (path : Path) : Properties := path.elements.foldr growTree Dict.empty

end Path

/-- Conditions on the length of a path. -/
inductive LengthMatch where
  | exactly (length : Nat)
  /-- From a length on, up to but without another. -/
  | between (first stop : Nat)
  /-- From a length on, up to and with another. -/
  | through (first last : Nat)
  | atLeast (first : Nat)
  | below (stop : Nat)
  | atMost (last : Nat)
  deriving DecidableEq

namespace LengthMatch

def accepts (condition : LengthMatch) (length : Nat) : Bool :=
  match condition with
  | exactly expected => length == expected
  | between first stop => first ≤ length && length < stop
  | through first last => first ≤ length && length ≤ last
  | atLeast first => first ≤ length
  | below stop => length < stop
  | atMost last => length ≤ last

end LengthMatch

end RoutedGraph
