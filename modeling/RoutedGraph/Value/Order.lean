import RoutedGraph.Value.Basic

/-!
# The sort order of values

Values of different kinds order by kind: null, truth values, numbers, texts,
lists, maps.  Numbers compare across integers and double-precision numbers,
where an integer stands for the nearest double-precision number.  Lists compare
lexicographically, and maps by size alone.
-/

namespace RoutedGraph

namespace Value

/-- The place of a value's kind in the order. -/
def kindRank : Value → Nat
  | null => 0
  | bool _ => 1
  | int _ => 2
  | float _ => 2
  | string _ => 3
  | list _ => 4
  | map _ => 5

mutual

def sortOrder : Value → Value → Ordering
  | bool first, bool second => compare first second
  | int first, int second => compare first.toInt second.toInt
  | float first, float second => first.totalOrder second
  | int first, float second => (Binary64.ofInt first.toInt).totalOrder second
  | float first, int second => first.totalOrder (Binary64.ofInt second.toInt)
  | string first, string second => compare first second
  | list first, list second => sortOrderItems first second
  | map first, map second => compare first.size second.size
  | first, second => compare first.kindRank second.kindRank

/-- The lexicographic order of lists; a list comes after what it continues. -/
def sortOrderItems : List Value → List Value → Ordering
  | [], [] => .eq
  | [], _ :: _ => .lt
  | _ :: _, [] => .gt
  | first :: firstRest, second :: secondRest =>
      (first.sortOrder second).then (sortOrderItems firstRest secondRest)

end

end Value

/-- A value used as a sort key: two keys are the same when neither sorts before the other. -/
structure SortKey where
  value : Value

namespace SortKey

def order (first second : SortKey) : Ordering := first.value.sortOrder second.value

instance : Ord SortKey := ⟨order⟩

instance : BEq SortKey := ⟨fun first second => first.order second == .eq⟩

/-- Whether the first key sorts strictly before the second. -/
def before (first second : SortKey) : Bool := first.order second == .lt

end SortKey

def Value.sort (values : List Value) : List Value :=
  values.mergeSort fun first second => first.sortOrder second != .gt

end RoutedGraph
