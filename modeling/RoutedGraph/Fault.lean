import RoutedGraph.Element

/-!
# Failures

Three layers of failures: of the graph, of transactions, and of routes, where a
route passes on the failures of the other two.  Each failure is a cause with
its data; the wording stands here alone.
-/

namespace RoutedGraph

inductive GraphError where
  | vertexNotFound (id : VertexId)
  | edgeNotFound (id : EdgeId)
  | missingEndpoints (edge : EdgeId) (outVertex inVertex : VertexId)
  | invalidOperation (message : String)
  deriving DecidableEq

/-- Why a transaction could not start, commit or roll back.  The three kinds of rollback request
travel outwards to a caller that owns a real transaction. -/
inductive TransactionError where
  | nestedTransaction
  | nestedRollback (message : String)
  | mockRollback (message : String)
  | nestedMockRollback (message : String)
  | internal (message : String)
  | resource (message : String)
  deriving DecidableEq

inductive RouteError where
  | shapeMismatch (expected actual position : Nat)
  | selfSubgraph
  | indexOutOfRange (index : Int) (length : Nat)
  | noGraph
  | graph (error : GraphError)
  | transaction (error : TransactionError)
  deriving DecidableEq

namespace GraphError

def message : GraphError → String
  | vertexNotFound id => "Vertex not found: " ++ id.text
  | edgeNotFound id => "Edge not found: " ++ id.text
  | missingEndpoints edge outVertex inVertex =>
      "Vertex not found for edge " ++ edge.text ++ ": " ++ outVertex.text ++ " -> " ++
        inVertex.text
  | invalidOperation detail => "Invalid operation: " ++ detail

end GraphError

namespace TransactionError

def message : TransactionError → String
  | nestedTransaction => "To use nested transactions, use nesting: true"
  | nestedRollback detail => "nested transaction rollback: " ++ detail
  | mockRollback detail => "mock transaction rollback: " ++ detail
  | nestedMockRollback detail => "nested mock transaction rollback: " ++ detail
  | internal detail => "internal error: " ++ detail
  | resource detail => "resource error: " ++ detail

/-- Whether the failure asks an enclosing scope to roll back. -/
def isRollback : TransactionError → Bool
  | nestedRollback _ => true
  | mockRollback _ => true
  | nestedMockRollback _ => true
  | _ => false

end TransactionError

namespace RouteError

def message : RouteError → String
  | shapeMismatch expected actual position =>
      "Paths differ in length: expected " ++ expected.repr ++ ", got " ++ actual.repr ++
        " at path " ++ position.repr
  | selfSubgraph => "Can't create a subgraph within itself"
  | indexOutOfRange index length =>
      "Index " ++ index.repr ++ " out of range for path of length " ++ length.repr
  | noGraph => "Route has no source graph"
  | graph error => error.message
  | transaction error => error.message

/-- Whether the failure asks an enclosing scope to roll back. -/
def isRollback : RouteError → Bool
  | transaction error => error.isRollback
  | _ => false

end RouteError

end RoutedGraph
