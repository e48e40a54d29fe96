import RoutedGraph.Dict
import RoutedGraph.Element
import RoutedGraph.Fault

/-!
# The registry of contexts

A context describes the scopes that one thread has open on one resource: how
many there are, the token that correlates them, and the strategy and identity
of each, innermost last.  The strategy says how a scope ends, which depends on
whether its resource takes part in transactions and on whether the scope is the
outermost one.  A registry holds the context of every thread and resource that
has one: a context appears when a scope is entered or bound and disappears with
its last scope.
-/

namespace RoutedGraph

inductive Strategy where
  /-- The outermost scope of a resource that takes part: it commits and aborts for real. -/
  | base
  /-- An inner scope: its commit does nothing, and its rollback is a request to the outer one. -/
  | nested
  /-- The outermost scope of a resource that does not take part. -/
  | mockBase
  /-- An inner scope of a resource that does not take part. -/
  | mockNested
  deriving DecidableEq

namespace Strategy

/-- The strategy of a scope entered at a depth.  An inner scope of a resource that takes part has
to be asked for. -/
def select (native : Bool) (depth : Nat) (nesting : Bool) : Except TransactionError Strategy :=
  match native, depth with
  | true, 0 => .ok base
  | true, _ + 1 => if nesting then .ok nested else .error .nestedTransaction
  | false, 0 => .ok mockBase
  | false, _ + 1 => .ok mockNested

def isReal : Strategy → Bool
  | base => true
  | _ => false

def title : Strategy → String
  | base => "Base"
  | nested => "Nested"
  | mockBase => "MockBase"
  | mockNested => "MockNested"

def ofTitle? (text : String) : Option Strategy :=
  [base, nested, mockBase, mockNested].find? fun strategy => decide (strategy.title = text)

end Strategy

/-- The correlation token of an outermost transaction and the scopes within it. -/
structure Token where
  raw : Nat
  deriving DecidableEq

structure ScopeId where
  raw : Nat
  deriving DecidableEq

structure ThreadId where
  raw : Nat
  deriving DecidableEq

inductive ResourceId where
  | graph (id : GraphId)
  | external (number : Nat)
  deriving DecidableEq

structure ContextKey where
  thread : ThreadId
  resource : ResourceId
  deriving DecidableEq

namespace Token

def text (token : Token) : String := "tx" ++ token.raw.repr

end Token

namespace ResourceId

/-- Graphs come first, and like is ordered by number. -/
def order : ResourceId → ResourceId → Ordering
  | graph first, graph second => compare first second
  | graph _, external _ => .lt
  | external _, graph _ => .gt
  | external first, external second => compare first second

instance : Ord ResourceId := ⟨order⟩

end ResourceId

namespace ContextKey

instance : Ord ContextKey :=
  ⟨fun first second =>
    (compare first.thread.raw second.thread.raw).then (compare first.resource second.resource)⟩

end ContextKey

/-- The open scopes of one thread on one resource. -/
structure Context where
  depth : Nat
  token : Option Token
  /-- The strategies of the open scopes, innermost last. -/
  strategies : List Strategy
  /-- The identities of the open scopes, innermost last. -/
  scopes : List ScopeId
  deriving DecidableEq

namespace Context

def vacant : Context := ⟨0, none, [], []⟩

/-- The strategy of the innermost scope. -/
def innermost? (context : Context) : Option Strategy := context.strategies.getLast?

/-- Whether a scope is open at a depth; the outermost one has depth one. -/
def isOpen (context : Context) (scope : ScopeId) (depth : Nat) : Bool :=
  decide (0 < depth) && decide (context.scopes[depth - 1]? = some scope)

def deepen (context : Context) : Context := { context with depth := context.depth + 1 }

/-- Note the token, strategy and identity of the scope just entered. -/
def bind (context : Context) (token : Token) (strategy : Strategy) (scope : ScopeId) : Context :=
  { context with
    token := some token
    strategies := context.strategies ++ [strategy]
    scopes := context.scopes ++ [scope] }

/-- One scope fewer, or nothing once the last one is left. -/
def leave? (context : Context) : Option Context :=
  let depth := context.depth - 1
  if depth = 0 then none
  else
    some
      { context with
        depth := depth
        strategies := context.strategies.take depth
        scopes := context.scopes.take depth }

end Context

structure Registry where
  contexts : Dict ContextKey Context

namespace Registry

def empty : Registry := ⟨Dict.empty⟩

instance : Inhabited Registry := ⟨empty⟩

def snapshot? (registry : Registry) (key : ContextKey) : Option Context :=
  registry.contexts.get? key

/-- The context under a key, vacant if there is none. -/
def context (registry : Registry) (key : ContextKey) : Context :=
  registry.contexts.getD key Context.vacant

def depth (registry : Registry) (key : ContextKey) : Nat := (registry.context key).depth

def token? (registry : Registry) (key : ContextKey) : Option Token := (registry.context key).token

def size (registry : Registry) : Nat := registry.contexts.size

def isEmpty (registry : Registry) : Bool := registry.contexts.isEmpty

/-- Enter a scope, and answer the depth before. -/
def enter (registry : Registry) (key : ContextKey) : Nat × Registry :=
  let former := registry.context key
  (former.depth, ⟨registry.contexts.insert key former.deepen⟩)

/-- Leave a scope; without a context nothing happens. -/
def exit (registry : Registry) (key : ContextKey) : Registry :=
  match registry.contexts.get? key with
  | none => registry
  | some former =>
      match former.leave? with
      | none => ⟨registry.contexts.erase key⟩
      | some rest => ⟨registry.contexts.insert key rest⟩

/-- Note the token, strategy and identity of the scope just entered. -/
def bind (registry : Registry) (key : ContextKey) (token : Token) (strategy : Strategy)
    (scope : ScopeId) : Registry :=
  ⟨registry.contexts.insert key ((registry.context key).bind token strategy scope)⟩

inductive Op where
  | enter
  | exit
  | bind (token : Token) (strategy : Strategy) (scope : ScopeId)
  | depth
  | token
  | snapshot
  deriving DecidableEq

inductive Answer where
  | done
  | depth (depth : Nat)
  | token (token : Option Token)
  | snapshot (context : Option Context)
  deriving DecidableEq

def apply (registry : Registry) (key : ContextKey) : Op → Answer × Registry
  | .enter =>
      let (previous, entered) := registry.enter key
      (.depth previous, entered)
  | .exit => (.done, registry.exit key)
  | .bind token strategy scope => (.done, registry.bind key token strategy scope)
  | .depth => (.depth (registry.depth key), registry)
  | .token => (.token (registry.token? key), registry)
  | .snapshot => (.snapshot (registry.snapshot? key), registry)

/-- Make calls one after the other, each under its own key. -/
def run (registry : Registry) : List (ContextKey × Op) → List Answer × Registry
  | [] => ([], registry)
  | (key, op) :: rest =>
      let (answer, next) := registry.apply key op
      let (answers, final) := next.run rest
      (answer :: answers, final)

end Registry

end RoutedGraph
