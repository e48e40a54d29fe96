import RoutedGraph.Value.Basic

/-!
# Identifiers and elements

Vertices and edges carry an identifier within their graph, properties and
possibly a payload.  An element of a path is a vertex, an edge or a bare value.
-/

namespace RoutedGraph

structure VertexId where
  raw : Nat
  deriving DecidableEq

structure EdgeId where
  raw : Nat
  deriving DecidableEq

structure GraphId where
  raw : Nat
  deriving DecidableEq

namespace VertexId

instance : Ord VertexId := ⟨fun first second => compare first.raw second.raw⟩

def text (id : VertexId) : String := "v" ++ id.raw.repr

end VertexId

namespace EdgeId

instance : Ord EdgeId := ⟨fun first second => compare first.raw second.raw⟩

def text (id : EdgeId) : String := "e" ++ id.raw.repr

end EdgeId

namespace GraphId

instance : Ord GraphId := ⟨fun first second => compare first.raw second.raw⟩

def text (id : GraphId) : String := "g" ++ id.raw.repr

end GraphId

inductive ElementType where
  | vertex
  | edge
  | path
  | hash
  | scalar
  deriving DecidableEq

namespace ElementType

def name : ElementType → String
  | vertex => "vertex"
  | edge => "edge"
  | path => "path"
  | hash => "hash"
  | scalar => "scalar"

def ofName? (text : String) : Option ElementType :=
  [vertex, edge, path, hash, scalar].find? fun type => decide (type.name = text)

def title : ElementType → String
  | vertex => "Vertex"
  | edge => "Edge"
  | path => "Path"
  | hash => "Hash"
  | scalar => "Scalar"

end ElementType

structure Vertex where
  id : VertexId
  properties : Properties
  payload : Option Value

structure Edge where
  id : EdgeId
  label : String
  outVertex : VertexId
  inVertex : VertexId
  properties : Properties
  payload : Option Value

inductive Element where
  | vertex (vertex : Vertex)
  | edge (edge : Edge)
  | scalar (value : Value)

namespace Vertex

def property? (vertex : Vertex) (name : String) : Option Value := vertex.properties.get? name

/-- Equality of all fields, numeric at the leaves of values. -/
def equal (first second : Vertex) : Bool :=
  decide (first.id = second.id) && Value.equalProperties first.properties second.properties &&
    Value.equalOptions first.payload second.payload

end Vertex

namespace Edge

def property? (edge : Edge) (name : String) : Option Value := edge.properties.get? name

/-- Both endpoints, the vertex it leaves first. -/
def endpoints (edge : Edge) : List VertexId := [edge.outVertex, edge.inVertex]

/-- Equality of all fields, numeric at the leaves of values. -/
def equal (first second : Edge) : Bool :=
  decide (first.id = second.id) && decide (first.label = second.label) &&
    decide (first.outVertex = second.outVertex) && decide (first.inVertex = second.inVertex) &&
    Value.equalProperties first.properties second.properties &&
    Value.equalOptions first.payload second.payload

end Edge

namespace Element

def type : Element → ElementType
  | vertex _ => .vertex
  | edge _ => .edge
  | scalar _ => .scalar

def payload? : Element → Option Value
  | vertex content => content.payload
  | edge content => content.payload
  | scalar _ => none

def asVertex? : Element → Option Vertex
  | vertex content => some content
  | _ => none

def asEdge? : Element → Option Edge
  | edge content => some content
  | _ => none

def property? (element : Element) (name : String) : Option Value :=
  match element with
  | vertex content => content.property? name
  | edge content => content.property? name
  | scalar _ => none

/-- Equality, numeric at the leaves of values. -/
def equal : Element → Element → Bool
  | vertex first, vertex second => first.equal second
  | edge first, edge second => first.equal second
  | scalar first, scalar second => first.equal second
  | _, _ => false

def text : Element → String
  | vertex content => "#<V[" ++ content.id.raw.repr ++ "]>"
  | edge content =>
      "#<E[" ++ content.id.raw.repr ++ "]:" ++ content.outVertex.raw.repr ++ "-" ++
        content.label ++ "-" ++ content.inVertex.raw.repr ++ ">"
  | scalar value => value.text

end Element

end RoutedGraph
