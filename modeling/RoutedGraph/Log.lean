import RoutedGraph.CodePoint
import RoutedGraph.Transaction.Registry

/-!
# The log

Every event that is logged, with its level, its message and its fields.  Texts
among the fields stand between quotation marks.
-/

namespace RoutedGraph

namespace Quoted

/-- A code point in hexadecimal between braces. -/
def codePoint (code : Nat) : List Char :=
  "\\u\x7b".toList ++ Nat.toDigits 16 code ++ ['\x7d']

def isNumbered (char : Char) : Bool :=
  CodePoint.isUnprintable char || CodePoint.isExtending char

def escape (char : Char) : List Char :=
  if char = '"' then ['\\', '"']
  else if char = '\\' then ['\\', '\\']
  else if char = '\n' then ['\\', 'n']
  else if char = '\r' then ['\\', 'r']
  else if char = '\t' then ['\\', 't']
  else if char = '\x00' then ['\\', '0']
  else if isNumbered char then codePoint char.toNat
  else [char]

def text (content : String) : String :=
  "\"" ++ String.ofList (content.toList.flatMap escape) ++ "\""

end Quoted

inductive LogLevel where
  | trace
  | debug
  | warn
  deriving DecidableEq

namespace LogLevel

def name : LogLevel → String
  | trace => "trace"
  | debug => "debug"
  | warn => "warn"

end LogLevel

inductive LogField where
  | text (content : String)
  | number (value : Nat)
  | flag (value : Bool)
  deriving DecidableEq

inductive LogEvent where
  | missingEndpoints (edge : Edge) (foundOut foundIn : Bool)
  | unwindingFailed (token : Token) (error : TransactionError)
  | committed (token : Token)
  | mockCommitted (token : Token)
  | nestedCommitted (token : Token) (depth : Nat)
  | rolledBack (token : Token) (strategy : Strategy) (reason : Option String)
  | retryingEdges (source target : GraphId) (count : Nat)
  | bulkFinished (route : Option String) (count : Nat) (graph : GraphId)
  | started (token : Token) (depth : Nat) (strategy : Strategy)
  | implicitCommitted (graph : GraphId)
  | implicitAborted (graph : GraphId)
  | vertexCloned (source clone : VertexId)
  | edgeCloned (source clone : EdgeId)
  | chunkCommitted (route : Option String) (count : Nat)
  | sectionStarted (window : Nat)
  | sectionSorted (window count : Nat)
  | supplyExhausted (window : Nat)

namespace LogEvent

def level : LogEvent → LogLevel
  | missingEndpoints _ _ _ => .warn
  | unwindingFailed _ _ => .warn
  | committed _ => .debug
  | mockCommitted _ => .debug
  | nestedCommitted _ _ => .debug
  | rolledBack _ _ _ => .debug
  | retryingEdges _ _ _ => .debug
  | bulkFinished _ _ _ => .debug
  | started _ _ _ => .trace
  | implicitCommitted _ => .trace
  | implicitAborted _ => .trace
  | vertexCloned _ _ => .trace
  | edgeCloned _ _ => .trace
  | chunkCommitted _ _ => .trace
  | sectionStarted _ => .trace
  | sectionSorted _ _ => .trace
  | supplyExhausted _ => .trace

def message : LogEvent → String
  | missingEndpoints _ _ _ => "vertex not found for edge"
  | unwindingFailed _ _ => "rollback failed while unwinding"
  | committed _ => "transaction committed"
  | mockCommitted _ => "mock transaction committed"
  | nestedCommitted _ _ => "nested transaction committed (noop)"
  | rolledBack _ _ _ => "transaction rolled back"
  | retryingEdges _ _ _ => "retrying deferred edges"
  | bulkFinished _ _ _ => "bulk job finished"
  | started _ _ _ => "transaction started"
  | implicitCommitted _ => "implicit transaction committed"
  | implicitAborted _ => "implicit transaction aborted"
  | vertexCloned _ _ => "vertex cloned"
  | edgeCloned _ _ => "edge cloned"
  | chunkCommitted _ _ => "bulk job chunk committed"
  | sectionStarted _ => "section started"
  | sectionSorted _ _ => "section sorted"
  | supplyExhausted _ => "upstream exhausted"

def routeText : Option String → String
  | some name => "Some(" ++ Quoted.text name ++ ")"
  | none => "None"

/-- The reason of a rollback, if one was given. -/
def reasonField : Option String → List (String × LogField)
  | some reason => [("reason", .text reason)]
  | none => []

/-- The fields of an event.  A rollback names its strategy unless it reached its resource. -/
def fields : LogEvent → List (String × LogField)
  | missingEndpoints edge foundOut foundIn =>
      [("edge", .text edge.id.text), ("out_vertex", .text edge.outVertex.text),
        ("in_vertex", .text edge.inVertex.text), ("found_out", .flag foundOut),
        ("found_in", .flag foundIn)]
  | unwindingFailed token error => [("token", .text token.text), ("error", .text error.message)]
  | committed token => [("token", .text token.text)]
  | mockCommitted token => [("token", .text token.text)]
  | nestedCommitted token depth => [("token", .text token.text), ("depth", .number depth)]
  | rolledBack token strategy reason =>
      if strategy.isReal then ("token", .text token.text) :: reasonField reason
      else ("token", .text token.text) :: ("strategy", .text strategy.title) :: reasonField reason
  | retryingEdges source target count =>
      [("source", .text source.text), ("target", .text target.text), ("count", .number count)]
  | bulkFinished route count graph =>
      [("route", .text (routeText route)), ("count", .number count), ("graph", .text graph.text)]
  | started token depth strategy =>
      [("token", .text token.text), ("depth", .number depth), ("strategy", .text strategy.title)]
  | implicitCommitted graph => [("graph", .text graph.text)]
  | implicitAborted graph => [("graph", .text graph.text)]
  | vertexCloned source clone => [("source", .text source.text), ("clone", .text clone.text)]
  | edgeCloned source clone => [("source", .text source.text), ("clone", .text clone.text)]
  | chunkCommitted route count => [("route", .text (routeText route)), ("count", .number count)]
  | sectionStarted window => [("window", .number window)]
  | sectionSorted window count => [("window", .number window), ("count", .number count)]
  | supplyExhausted window => [("window", .number window)]

end LogEvent

end RoutedGraph
