import Mathlib.Data.Set.Insert
import RoutedGraph.Proofs.Binary64
import RoutedGraph.Value.Order

/-!
# The sort order is a total preorder

Every value is equal to itself in the sort order, and turning two values around
turns their order around.  The order is transitive wherever the numbers compare
by their places on one line: this holds for integers alone, and for integers
that are double-precision numbers among those.  Among greater integers it
fails, because several of them have one nearest double-precision number.
-/

namespace RoutedGraph

/-- A comparison along a chain that does not descend is the first one that tells its ends apart. -/
theorem compare_chain {α : Type} [Ord α] [Std.TransOrd α] {first second third : α}
    (lower : (compare first second).isLE) (higher : (compare second third).isLE) :
    compare first third = (compare first second).then (compare second third) := by
  cases former : compare first second with
  | lt => exact Std.TransCmp.lt_of_lt_of_isLE former higher
  | eq => exact Std.TransCmp.congr_left former
  | gt => simp [former] at lower

namespace Value

mutual

/-- The parts of a value outside lists: the items of lists, at every depth.  A map is one part. -/
def leaves : Value → List Value
  | list items => leavesOfItems items
  | value => [value]

def leavesOfItems : List Value → List Value
  | [] => []
  | first :: rest => first.leaves ++ leavesOfItems rest

end

/-- Outside maps, no double-precision number occurs in some values, or all integers that occur in
them are double-precision numbers. -/
def Unmixed (values : Set Value) : Prop :=
  (∀ value ∈ values, ∀ leaf ∈ value.leaves, leaf.asFloat? = none) ∨
    ∀ value ∈ values, ∀ leaf ∈ value.leaves, ∀ number, leaf.asInt? = some number →
      number.toInt.natAbs ≤ 2 ^ 53

section Kinds

variable {value first second : Value}

theorem eq_null (kind : value.kindRank = 0) : value = null := by
  cases value <;> first | rfl | cases kind

theorem eq_bool (kind : value.kindRank = 1) : ∃ flag, value = bool flag := by
  cases value <;> first | exact ⟨_, rfl⟩ | cases kind

theorem eq_string (kind : value.kindRank = 3) : ∃ text, value = string text := by
  cases value <;> first | exact ⟨_, rfl⟩ | cases kind

theorem eq_list (kind : value.kindRank = 4) : ∃ items, value = list items := by
  cases value <;> first | exact ⟨_, rfl⟩ | cases kind

theorem eq_map (kind : value.kindRank = 5) : ∃ entries, value = map entries := by
  cases value <;> first | exact ⟨_, rfl⟩ | cases kind

/-- Values of different kinds compare by kind. -/
theorem sortOrder_of_ne (kinds : first.kindRank ≠ second.kindRank) :
    first.sortOrder second = compare first.kindRank second.kindRank := by
  cases first <;> cases second <;> simp_all [sortOrder, kindRank]

theorem sortOrder_of_lt (kinds : first.kindRank < second.kindRank) :
    first.sortOrder second = .lt := by
  rw [sortOrder_of_ne (Nat.ne_of_lt kinds)]
  exact Nat.compare_eq_lt.mpr kinds

theorem kindRank_le (lower : (first.sortOrder second).isLE) :
    first.kindRank ≤ second.kindRank := by
  by_cases kinds : first.kindRank = second.kindRank
  · exact Nat.le_of_eq kinds
  · rw [sortOrder_of_ne kinds] at lower
    exact Nat.isLE_compare.mp lower

end Kinds

mutual

/-- Turning two values around turns their order around. -/
theorem sortOrder_swap (first second : Value) :
    second.sortOrder first = (first.sortOrder second).swap := by
  cases first with
  | list items =>
      cases second with
      | list others => exact sortOrderItems_swap items others
      | _ => rfl
  | _ => cases second <;> exact Std.OrientedOrd.eq_swap

theorem sortOrderItems_swap (first second : List Value) :
    sortOrderItems second first = (sortOrderItems first second).swap := by
  match first, second with
  | [], [] => rfl
  | [], _ :: _ => rfl
  | _ :: _, [] => rfl
  | one :: ones, two :: twos =>
      rw [sortOrderItems, sortOrderItems, sortOrder_swap one two, sortOrderItems_swap ones twos,
        Ordering.swap_then]

end

theorem sortOrder_self (value : Value) : value.sortOrder value = .eq := by
  have turned := value.sortOrder_swap value
  cases order : value.sortOrder value <;> simp_all

/-- Numbers that compare by their places on one line. -/
structure Scale where
  admits : Value → Prop
  place : Value → Int
  compares : ∀ {first second : Value}, admits first → admits second → first.kindRank = 2 →
    second.kindRank = 2 → first.sortOrder second = compare (place first) (place second)

namespace Scale

/-- Integers alone. -/
def integers : Scale where
  admits value := value.asFloat? = none
  place
    | int number => number.toInt
    | _ => 0
  compares {first second} firstInt secondInt firstKind secondKind := by
    cases first <;> cases second <;> simp_all [kindRank, asFloat?, sortOrder]

/-- Double-precision numbers and the integers among them. -/
def doubles : Scale where
  admits value := ∀ number, value.asInt? = some number → number.toInt.natAbs ≤ 2 ^ 53
  place
    | int number => (Binary64.ofInt number.toInt).rank
    | float number => number.rank
    | _ => 0
  compares {first second} firstSmall secondSmall firstKind secondKind := by
    cases first <;> cases second <;> first | rfl | simp [kindRank] at firstKind secondKind
    exact Binary64.compare_eq_totalOrder (firstSmall _ rfl) (secondSmall _ rfl)

/-- All parts of a value outside lists are admitted. -/
def Admits (scale : Scale) (value : Value) : Prop := ∀ leaf ∈ value.leaves, scale.admits leaf

def AdmitsItems (scale : Scale) (items : List Value) : Prop :=
  ∀ leaf ∈ leavesOfItems items, scale.admits leaf

variable {scale : Scale}

theorem Admits.number {value : Value} (admitted : scale.Admits value)
    (number : value.kindRank = 2) : scale.admits value := by
  cases value <;> first | exact admitted _ (List.mem_singleton_self _) | cases number

theorem AdmitsItems.head {first : Value} {rest : List Value}
    (admitted : scale.AdmitsItems (first :: rest)) : scale.Admits first :=
  fun leaf member => admitted leaf (List.mem_append_left _ member)

theorem AdmitsItems.tail {first : Value} {rest : List Value}
    (admitted : scale.AdmitsItems (first :: rest)) : scale.AdmitsItems rest :=
  fun leaf member => admitted leaf (List.mem_append_right _ member)

end Scale

variable {scale : Scale}

mutual

/-- The order along a chain that does not descend is the first one that tells its ends apart. -/
theorem sortOrder_chain {first second third : Value} (firstAdmitted : scale.Admits first)
    (secondAdmitted : scale.Admits second) (thirdAdmitted : scale.Admits third)
    (lower : (first.sortOrder second).isLE) (higher : (second.sortOrder third).isLE) :
    first.sortOrder third = (first.sortOrder second).then (second.sortOrder third) := by
  rcases Nat.lt_or_eq_of_le (kindRank_le lower) with below | firstKinds
  · rw [sortOrder_of_lt below,
      sortOrder_of_lt (Nat.lt_of_lt_of_le below (kindRank_le higher)), Ordering.lt_then]
  rcases Nat.lt_or_eq_of_le (kindRank_le higher) with above | secondKinds
  · rw [sortOrder_of_lt above, sortOrder_of_lt (firstKinds ▸ above)]
    cases former : first.sortOrder second <;> simp_all
  by_cases number : first.kindRank = 2
  · have secondNumber := firstKinds.symm.trans number
    have thirdNumber := secondKinds.symm.trans secondNumber
    have one := firstAdmitted.number number
    have two := secondAdmitted.number secondNumber
    have three := thirdAdmitted.number thirdNumber
    rw [scale.compares one two number secondNumber] at lower ⊢
    rw [scale.compares two three secondNumber thirdNumber] at higher ⊢
    rw [scale.compares one three number thirdNumber]
    exact compare_chain lower higher
  cases first with
  | null =>
      obtain rfl := eq_null firstKinds.symm
      obtain rfl := eq_null secondKinds.symm
      rfl
  | bool flag =>
      obtain ⟨other, rfl⟩ := eq_bool firstKinds.symm
      obtain ⟨last, rfl⟩ := eq_bool secondKinds.symm
      exact compare_chain lower higher
  | int content => exact absurd rfl number
  | float content => exact absurd rfl number
  | string text =>
      obtain ⟨other, rfl⟩ := eq_string firstKinds.symm
      obtain ⟨last, rfl⟩ := eq_string secondKinds.symm
      exact compare_chain lower higher
  | list items =>
      obtain ⟨others, rfl⟩ := eq_list firstKinds.symm
      obtain ⟨lasts, rfl⟩ := eq_list secondKinds.symm
      exact sortOrderItems_chain firstAdmitted secondAdmitted thirdAdmitted lower higher
  | map entries =>
      obtain ⟨others, rfl⟩ := eq_map firstKinds.symm
      obtain ⟨lasts, rfl⟩ := eq_map secondKinds.symm
      exact compare_chain lower higher

theorem sortOrderItems_chain {first second third : List Value}
    (firstAdmitted : scale.AdmitsItems first) (secondAdmitted : scale.AdmitsItems second)
    (thirdAdmitted : scale.AdmitsItems third)
    (lower : (sortOrderItems first second).isLE) (higher : (sortOrderItems second third).isLE) :
    sortOrderItems first third =
      (sortOrderItems first second).then (sortOrderItems second third) := by
  match first, second, third with
  | [], [], third => rfl
  | [], _ :: _, _ :: _ => rfl
  | _ :: _, [], _ => simp [sortOrderItems] at lower
  | _, _ :: _, [] => simp [sortOrderItems] at higher
  | one :: ones, two :: twos, three :: threes =>
      rw [sortOrderItems] at lower higher
      obtain ⟨headLower, tailLower⟩ := Ordering.isLE_then_iff_and.mp lower
      obtain ⟨headHigher, tailHigher⟩ := Ordering.isLE_then_iff_and.mp higher
      have heads := sortOrder_chain firstAdmitted.head secondAdmitted.head thirdAdmitted.head
        headLower headHigher
      rw [sortOrderItems, sortOrderItems, sortOrderItems, heads]
      -- Only if neither step tells the heads apart do the tails decide.
      cases former : one.sortOrder two with
      | lt => rfl
      | gt => simp [former] at headLower
      | eq =>
          cases latter : two.sortOrder three with
          | lt =>
              have tail : (sortOrderItems ones twos).isLE := by simpa [former] using tailLower
              cases decided : sortOrderItems ones twos <;> simp_all
          | gt => simp [latter] at headHigher
          | eq =>
              exact sortOrderItems_chain firstAdmitted.tail secondAdmitted.tail
                thirdAdmitted.tail (by simpa [former] using tailLower)
                (by simpa [latter] using tailHigher)

end

/-- Values that do not mix double-precision numbers with greater integers are on one scale. -/
theorem Unmixed.exists_scale {values : Set Value} (unmixed : Unmixed values) :
    ∃ scale : Scale, ∀ value ∈ values, scale.Admits value := by
  rcases unmixed with noFloat | small
  · exact ⟨Scale.integers, noFloat⟩
  · exact ⟨Scale.doubles, small⟩

section Keys

variable {first second third : Value}

theorem key_beq_iff : (SortKey.mk first == SortKey.mk second) = true ↔
    first.sortOrder second = .eq := by
  change (first.sortOrder second == .eq) = true ↔ _
  exact beq_iff_eq

theorem key_beq_symm (same : (SortKey.mk first == SortKey.mk second) = true) :
    (SortKey.mk second == SortKey.mk first) = true := by
  rw [key_beq_iff] at same ⊢
  rw [sortOrder_swap first second, same]
  rfl

/-- Values that sort alike compare alike with every third one on their scale. -/
theorem sortOrder_congr (firstAdmitted : scale.Admits first) (secondAdmitted : scale.Admits second)
    (thirdAdmitted : scale.Admits third) (same : first.sortOrder second = .eq) :
    first.sortOrder third = second.sortOrder third := by
  have turned : second.sortOrder first = .eq := by rw [sortOrder_swap first second, same]; rfl
  by_cases higher : (second.sortOrder third).isLE
  · rw [sortOrder_chain firstAdmitted secondAdmitted thirdAdmitted (by simp [same]) higher, same]
    rfl
  · -- The third value is below both, and the chain runs upwards from it.
    have lower : (third.sortOrder second).isLE := by
      rw [sortOrder_swap second third]
      cases order : second.sortOrder third <;> simp_all
    have chain := sortOrder_chain thirdAdmitted secondAdmitted firstAdmitted lower
      (by simp [turned])
    rw [turned, Ordering.then_eq] at chain
    rw [sortOrder_swap third first, sortOrder_swap third second, chain]

end Keys

/-- On values that do not mix double-precision numbers with greater integers, the sort order is a
total preorder, and the equality of sort keys is the equivalence that belongs to it. -/
theorem sortOrder_totalPreorder :
    (∀ value : Value, value.sortOrder value = .eq) ∧
    (∀ first second : Value, second.sortOrder first = (first.sortOrder second).swap) ∧
    ∀ values : Set Value, Unmixed values →
      (∀ first ∈ values, ∀ second ∈ values, ∀ third ∈ values,
        (first.sortOrder second).isLE → (second.sortOrder third).isLE →
          (first.sortOrder third).isLE ∧
          (first.sortOrder second = .lt ∨ second.sortOrder third = .lt →
            first.sortOrder third = .lt)) ∧
      (Equivalence fun first second : values =>
        (SortKey.mk first == SortKey.mk second) = true) ∧
      ∀ first ∈ values, ∀ second ∈ values, ∀ third ∈ values,
        (SortKey.mk first == SortKey.mk second) = true →
          (SortKey.mk first).order ⟨third⟩ = (SortKey.mk second).order ⟨third⟩ ∧
          (SortKey.mk third).order ⟨first⟩ = (SortKey.mk third).order ⟨second⟩ := by
  refine ⟨sortOrder_self, sortOrder_swap, fun values unmixed => ?_⟩
  obtain ⟨scale, admits⟩ := unmixed.exists_scale
  refine ⟨?_, ⟨?_, ?_, ?_⟩, ?_⟩
  · intro first firstMember second secondMember third thirdMember lower higher
    rw [sortOrder_chain (admits _ firstMember) (admits _ secondMember) (admits _ thirdMember)
      lower higher]
    cases former : first.sortOrder second <;> cases latter : second.sortOrder third <;> simp_all
  · exact fun value => key_beq_iff.mpr (sortOrder_self value.val)
  · exact fun same => key_beq_symm same
  · intro first second third former latter
    rw [key_beq_iff] at former latter ⊢
    rw [sortOrder_congr (admits _ first.property) (admits _ second.property)
      (admits _ third.property) former, latter]
  · intro first firstMember second secondMember third thirdMember same
    have alike := sortOrder_congr (admits _ firstMember) (admits _ secondMember)
      (admits _ thirdMember) (key_beq_iff.mp same)
    refine ⟨alike, ?_⟩
    change third.sortOrder first = third.sortOrder second
    rw [sortOrder_swap first third, sortOrder_swap second third, alike]

/-- The same list with its number as an integer and as a double-precision number, each with a NaN
behind it, and a list with a NaN of the other sign. -/
theorem sortOrder_totalPreorder_exactLimit :
    let whole := list [int 9007199254740992, float ⟨0x7ff8000000000001⟩]
    let rounded := list [float ⟨0x4340000000000000⟩, float ⟨0x7ff8000000000001⟩]
    let lowest := list [float ⟨0xfff8000000000000⟩, null]
    let values : Set Value := {whole, rounded, lowest}
    Unmixed values ∧ (SortKey.mk whole == SortKey.mk rounded) = true ∧
      lowest.sortOrder whole = .lt ∧ lowest.sortOrder rounded = .lt := by
  intro whole rounded lowest values
  have unmixed : Unmixed values := by
    refine .inr ?_
    rintro value (rfl | rfl | rfl) leaf member number found
    · obtain rfl | rfl : leaf = int 9007199254740992 ∨ leaf = float ⟨0x7ff8000000000001⟩ := by
        simpa [whole, leaves, leavesOfItems] using member
      · obtain rfl : 9007199254740992 = number := by simpa [asInt?] using found
        decide
      · cases found
    · obtain rfl | rfl :
          leaf = float ⟨0x4340000000000000⟩ ∨ leaf = float ⟨0x7ff8000000000001⟩ := by
        simpa [rounded, leaves, leavesOfItems] using member
      all_goals cases found
    · obtain rfl | rfl : leaf = float ⟨0xfff8000000000000⟩ ∨ leaf = null := by
        simpa [lowest, leaves, leavesOfItems] using member
      all_goals cases found
  have same : (SortKey.mk whole == SortKey.mk rounded) = true := by decide
  have below : lowest.sortOrder whole = .lt := by decide
  have order := sortOrder_totalPreorder.2.2 values unmixed
  refine ⟨unmixed, same, below, ?_⟩
  exact ((order.2.2 whole (by simp [values]) rounded (by simp [values]) lowest
    (by simp [values]) same).2).symm.trans below

/-- Among greater integers the order is not transitive: two of them are alike to one number. -/
example :
    (int 9007199254740993).sortOrder (float ⟨0x4340000000000000⟩) = .eq ∧
      (float ⟨0x4340000000000000⟩).sortOrder (int 9007199254740992) = .eq ∧
      (int 9007199254740993).sortOrder (int 9007199254740992) = .gt := by
  decide

end Value

end RoutedGraph
