import RoutedGraph.Json

/-!
# Configuration of transactions

A configuration says whether transactions are disabled, and what becomes of
pending writes when an outermost transaction starts.  It is written as a JSON
object and read from an object or from an array in the order of the fields.
-/

namespace RoutedGraph

/-- What an outermost transaction does with the writes that are pending when it starts. -/
inductive ImplicitPolicy where
  | commit
  | rollback
  | ignore
  deriving DecidableEq

namespace ImplicitPolicy

def name : ImplicitPolicy → String
  | commit => "commit"
  | rollback => "rollback"
  | ignore => "ignore"

def title : ImplicitPolicy → String
  | commit => "Commit"
  | rollback => "Rollback"
  | ignore => "Ignore"

def ofName? (text : String) : Option ImplicitPolicy :=
  [commit, rollback, ignore].find? fun policy => decide (policy.name = text)

@[simp]
theorem ofName?_name (policy : ImplicitPolicy) : ofName? policy.name = some policy := by
  cases policy <;> decide

/-- A policy is read from its name, or from an object with the name and null. -/
def ofJson? : Json → Option ImplicitPolicy
  | .text (some text) => ofName? text
  | .object [(some text, .null)] => ofName? text
  | _ => none

end ImplicitPolicy

structure TransactionConfig where
  disabled : Bool
  implicit : ImplicitPolicy
  deriving DecidableEq

namespace TransactionConfig

/-- Transactions are enabled, and start with a commit of what is pending. -/
def standard : TransactionConfig := ⟨false, .commit⟩

instance : Inhabited TransactionConfig := ⟨standard⟩

/-- The name of the first field. -/
def disabledField : String := "disable_transactions"

/-- The name of the second field. -/
def implicitField : String := "implicit_transaction"

def flagText (flag : Bool) : String := if flag then "true" else "false"

def json (config : TransactionConfig) : String :=
  "\x7b\"" ++ disabledField ++ "\":" ++ flagText config.disabled ++ ",\"" ++ implicitField ++
    "\":\"" ++ config.implicit.name ++ "\"\x7d"

def text (config : TransactionConfig) : String :=
  "TransactionConfig \x7b " ++ disabledField ++ ": " ++ flagText config.disabled ++ ", " ++
    implicitField ++ ": " ++ config.implicit.title ++ " \x7d"

def flagOfJson? : Json → Option Bool
  | .bool flag => some flag
  | _ => none

/-- The fields found so far while an object is read. -/
structure Fields where
  disabled : Option Bool
  implicit : Option ImplicitPolicy

/-- Take in one member of an object.  A field may come once; a member that is no field does not
matter, as long as its name can be read. -/
def Fields.add (found : Fields) : Option String × Json → Option Fields
  | (none, _) => none
  | (some name, value) =>
      if name = disabledField then
        if found.disabled.isSome then none
        else (flagOfJson? value).map fun flag => { found with disabled := some flag }
      else if name = implicitField then
        if found.implicit.isSome then none
        else (ImplicitPolicy.ofJson? value).map fun policy => { found with implicit := some policy }
      else some found

/-- Missing fields have their standard values. -/
def Fields.config (found : Fields) : TransactionConfig :=
  ⟨found.disabled.getD standard.disabled, found.implicit.getD standard.implicit⟩

def ofJson? : Json → Option TransactionConfig
  | .array [] => some standard
  | .array [flag] => do
      return { standard with disabled := ← flagOfJson? flag }
  | .array [flag, policy] => do
      return ⟨← flagOfJson? flag, ← ImplicitPolicy.ofJson? policy⟩
  | .object members => (members.foldlM Fields.add ⟨none, none⟩).map Fields.config
  | _ => none

def parse? (source : String) : Option TransactionConfig := (Json.parse? source).bind ofJson?

end TransactionConfig

end RoutedGraph
