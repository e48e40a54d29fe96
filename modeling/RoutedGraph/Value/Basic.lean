import RoutedGraph.Binary64
import RoutedGraph.Dict

/-!
# Property values

A value is null, a truth value, a 64-bit integer, a double-precision number, a
text, a list or a map from texts.  Equality is structural and numeric at its
leaves: a NaN anywhere makes a value differ from itself, and an integer never
equals a double-precision number.  In the text of a value, texts stand between
quotation marks without escaping, lists between brackets and maps between
braces, with bare keys in ascending order.
-/

namespace RoutedGraph

/-- A value that a property or a payload can hold. -/
inductive Value where
  | null
  | bool (flag : Bool)
  | int (number : Int64)
  | float (number : Binary64)
  | string (text : String)
  | list (items : List Value)
  | map (entries : Dict String Value)

abbrev Properties := Dict String Value

namespace Value

instance : Inhabited Value := ⟨null⟩

def isNull : Value → Bool
  | null => true
  | _ => false

def asBool? : Value → Option Bool
  | bool flag => some flag
  | _ => none

def asInt? : Value → Option Int64
  | int number => some number
  | _ => none

def asFloat? : Value → Option Binary64
  | float number => some number
  | _ => none

def asString? : Value → Option String
  | string text => some text
  | _ => none

mutual

/-- Structural equality with numeric equality at the leaves. -/
def equal : Value → Value → Bool
  | null, null => true
  | bool first, bool second => first == second
  | int first, int second => decide (first = second)
  | float first, float second => first.numericEq second
  | string first, string second => decide (first = second)
  | list first, list second => equalItems first second
  | map ⟨first⟩, map ⟨second⟩ => equalEntries first second
  | _, _ => false

def equalItems : List Value → List Value → Bool
  | [], [] => true
  | first :: firstRest, second :: secondRest =>
      first.equal second && equalItems firstRest secondRest
  | _, _ => false

/-- Equality of maps in key order, entry by entry. -/
def equalEntries : List (String × Value) → List (String × Value) → Bool
  | [], [] => true
  | (firstKey, first) :: firstRest, (secondKey, second) :: secondRest =>
      decide (firstKey = secondKey) && first.equal second && equalEntries firstRest secondRest
  | _, _ => false

end

def equalProperties (first second : Properties) : Bool :=
  equalEntries first.entries second.entries

def equalOptions : Option Value → Option Value → Bool
  | none, none => true
  | some first, some second => first.equal second
  | _, _ => false

def joinTexts (texts : List String) : String := ", ".intercalate texts

mutual

def text : Value → String
  | null => "null"
  | bool flag => if flag then "true" else "false"
  | int number => number.toInt.repr
  | float number => number.text
  | string content => "\"" ++ content ++ "\""
  | list items => "[" ++ joinTexts (itemTexts items) ++ "]"
  | map ⟨entries⟩ => "\x7b" ++ joinTexts (entryTexts entries) ++ "\x7d"

def itemTexts : List Value → List String
  | [] => []
  | item :: rest => item.text :: itemTexts rest

def entryTexts : List (String × Value) → List String
  | [] => []
  | (key, value) :: rest => (key ++ ": " ++ value.text) :: entryTexts rest

end

end Value

end RoutedGraph
