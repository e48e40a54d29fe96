import Mathlib.Algebra.Group.Nat.Defs
import RoutedGraph.Binary64

/-!
# Integers among the double-precision numbers

Up to the 53rd power of two, integers are double-precision numbers, and their
words are in the order of the integers.  The words with one exponent are in a
row, and a greater exponent begins where the row ends.
-/

namespace RoutedGraph

namespace Binary64

/-- The greatest magnitude up to which every integer is a double-precision number. -/
def exactLimit : Nat := Nat.pow 2 53

theorem exponentUnit_eq : exponentUnit = 2 ^ 52 := rfl

theorem signWeight_eq : signWeight = 2 ^ 63 := rfl

section Magnitude

variable {number : Nat}

theorem log2_le (bounded : number ≤ exactLimit) : number.log2 ≤ 53 := by
  by_cases zero : number = 0
  · simp [zero]
  · have below : 2 ^ number.log2 ≤ 2 ^ 53 := Nat.le_trans (Nat.log2_self_le zero) bounded
    exact (Nat.pow_le_pow_iff_right (by decide)).mp below

/-- The fraction is shifted up to the unit of its exponent. -/
theorem magnitudeOfNat_of_log2_le (positive : number ≠ 0) (small : number.log2 ≤ 52) :
    magnitudeOfNat number =
      (number.log2 + 1023) * exponentUnit +
        (number * 2 ^ (52 - number.log2) - exponentUnit) := by
  simp only [magnitudeOfNat, if_neg positive, if_pos small]
  rfl

theorem magnitudeOfNat_exactLimit : magnitudeOfNat exactLimit = 1076 * exponentUnit := by
  decide

/-- The shifted fraction lies between the unit and its double. -/
theorem shifted_bounds (positive : number ≠ 0) (small : number.log2 ≤ 52) :
    exponentUnit ≤ number * 2 ^ (52 - number.log2) ∧
      number * 2 ^ (52 - number.log2) < 2 * exponentUnit := by
  have split : 2 ^ number.log2 * 2 ^ (52 - number.log2) = exponentUnit := by
    rw [← Nat.pow_add, Nat.add_sub_cancel' small, exponentUnit_eq]
  have above : number < 2 * 2 ^ number.log2 := by
    rw [← Nat.pow_succ']
    exact Nat.lt_log2_self
  constructor
  · rw [← split]
    exact Nat.mul_le_mul_right _ (Nat.log2_self_le positive)
  · rw [← split, ← Nat.mul_assoc]
    exact Nat.mul_lt_mul_of_pos_right above (Nat.two_pow_pos _)

/-- A magnitude lies in the row of its exponent. -/
theorem magnitudeOfNat_bounds (positive : number ≠ 0) (bounded : number ≤ exactLimit) :
    (number.log2 + 1023) * exponentUnit ≤ magnitudeOfNat number ∧
      magnitudeOfNat number < (number.log2 + 1024) * exponentUnit := by
  by_cases small : number.log2 ≤ 52
  · obtain ⟨least, greatest⟩ := shifted_bounds positive small
    rw [magnitudeOfNat_of_log2_le positive small]
    generalize number * 2 ^ (52 - number.log2) = shifted at least greatest ⊢
    have next : (number.log2 + 1024) * exponentUnit =
        (number.log2 + 1023) * exponentUnit + exponentUnit := Nat.succ_mul _ _
    omega
  · have top : number.log2 = 53 := Nat.le_antisymm (log2_le bounded) (by omega)
    have limit : number = exactLimit := by
      refine Nat.le_antisymm bounded ?_
      have least := Nat.log2_self_le positive
      rwa [top] at least
    rw [top, limit, magnitudeOfNat_exactLimit]
    decide

end Magnitude

/-- Up to the limit, a greater number has a greater magnitude. -/
theorem magnitudeOfNat_lt {lesser greater : Nat} (less : lesser < greater)
    (bounded : greater ≤ exactLimit) : magnitudeOfNat lesser < magnitudeOfNat greater := by
  have positive : greater ≠ 0 := Nat.ne_zero_of_lt less
  obtain ⟨least, -⟩ := magnitudeOfNat_bounds positive bounded
  by_cases zero : lesser = 0
  · have unit : 0 < exponentUnit := by decide
    have row : 0 < (greater.log2 + 1023) * exponentUnit := Nat.mul_pos (Nat.succ_pos _) unit
    rw [zero, magnitudeOfNat, if_pos rfl]
    omega
  · have lesserBounded : lesser ≤ exactLimit := Nat.le_of_lt (Nat.lt_of_lt_of_le less bounded)
    obtain ⟨-, greatest⟩ := magnitudeOfNat_bounds zero lesserBounded
    rcases Nat.lt_or_ge lesser.log2 greater.log2 with lower | same
    · -- The row of the lesser exponent ends before the other one begins.
      have rows : (lesser.log2 + 1024) * exponentUnit ≤ (greater.log2 + 1023) * exponentUnit :=
        Nat.mul_le_mul_right _ (by omega)
      omega
    · have equal : lesser.log2 = greater.log2 := by
        refine Nat.le_antisymm ?_ same
        refine (Nat.le_log2 positive).mpr ?_
        exact Nat.le_trans (Nat.log2_self_le zero) (Nat.le_of_lt less)
      have small : lesser.log2 ≤ 52 := by
        have below : 2 ^ lesser.log2 < 2 ^ 53 :=
          Nat.lt_of_le_of_lt (Nat.log2_self_le zero) (Nat.lt_of_lt_of_le less bounded)
        exact Nat.le_of_lt_succ ((Nat.pow_lt_pow_iff_right (by decide)).mp below)
      have unit := (shifted_bounds zero small).1
      have shifted : lesser * 2 ^ (52 - lesser.log2) < greater * 2 ^ (52 - lesser.log2) :=
        Nat.mul_lt_mul_of_pos_right less (Nat.two_pow_pos _)
      rw [magnitudeOfNat_of_log2_le zero small,
        magnitudeOfNat_of_log2_le positive (equal ▸ small), ← equal]
      omega

theorem magnitudeOfNat_lt_signWeight {number : Nat} (bounded : number ≤ exactLimit) :
    magnitudeOfNat number < signWeight := by
  by_cases zero : number = 0
  · rw [zero]
    decide
  · obtain ⟨-, greatest⟩ := magnitudeOfNat_bounds zero bounded
    have row : (number.log2 + 1024) * exponentUnit ≤ 1077 * exponentUnit :=
      Nat.mul_le_mul_right _ (by have := log2_le bounded; omega)
    have room : 1077 * exponentUnit < signWeight := by decide
    omega

section Rank

variable {number : Int}

/-- The place of an integer in the total order. -/
theorem rank_ofInt (bounded : number.natAbs ≤ exactLimit) :
    (ofInt number).rank =
      if number < 0 then -1 - (magnitudeOfNat number.natAbs : Int)
      else (magnitudeOfNat number.natAbs : Int) := by
  have room := magnitudeOfNat_lt_signWeight bounded
  rw [signWeight_eq] at room
  by_cases negative : number < 0
  · have word : (ofInt number).bits.toNat = signWeight + magnitudeOfNat number.natAbs := by
      simp only [ofInt, if_pos negative, UInt64.toNat_ofNat', signWeight_eq]
      omega
    have own : (ofInt number).magnitude = magnitudeOfNat number.natAbs := by
      rw [magnitude, word, signWeight_eq]
      omega
    have sign : (ofInt number).isNegative = true := by
      simp [isNegative, word]
    rw [rank, sign, own, if_pos rfl, if_pos negative]
  · have word : (ofInt number).bits.toNat = magnitudeOfNat number.natAbs := by
      simp only [ofInt, if_neg negative, UInt64.toNat_ofNat']
      omega
    have own : (ofInt number).magnitude = magnitudeOfNat number.natAbs := by
      rw [magnitude, word, signWeight_eq]
      omega
    have sign : (ofInt number).isNegative = false := by
      simp only [isNegative, word, signWeight_eq, decide_eq_false_iff_not]
      omega
    rw [rank, sign, own, if_neg negative]
    rfl

theorem rank_ofInt_lt {lesser greater : Int} (less : lesser < greater)
    (lesserBounded : lesser.natAbs ≤ exactLimit) (greaterBounded : greater.natAbs ≤ exactLimit) :
    (ofInt lesser).rank < (ofInt greater).rank := by
  rw [rank_ofInt lesserBounded, rank_ofInt greaterBounded]
  rcases Int.lt_or_le greater 0 with below | nonnegative
  · -- Of two negative integers, the lesser one has the greater magnitude.
    have magnitudes := magnitudeOfNat_lt (by omega : greater.natAbs < lesser.natAbs) lesserBounded
    rw [if_pos (by omega), if_pos below]
    omega
  · rcases Int.lt_or_le lesser 0 with negative | both
    · rw [if_pos negative, if_neg (by omega)]
      omega
    · have magnitudes := magnitudeOfNat_lt (by omega : lesser.natAbs < greater.natAbs)
        greaterBounded
      rw [if_neg (by omega), if_neg (by omega)]
      omega

/-- Up to the limit, integers compare as the double-precision numbers do that they become. -/
theorem compare_eq_totalOrder {first second : Int} (firstBounded : first.natAbs ≤ exactLimit)
    (secondBounded : second.natAbs ≤ exactLimit) :
    compare first second = (ofInt first).totalOrder (ofInt second) := by
  rw [totalOrder]
  rcases Int.lt_trichotomy first second with less | equal | greater
  · have ranks := rank_ofInt_lt less firstBounded secondBounded
    rw [Int.compare_eq_lt.mpr less, Int.compare_eq_lt.mpr ranks]
  · rw [equal, Int.compare_eq_eq.mpr rfl, Int.compare_eq_eq.mpr rfl]
  · have ranks := rank_ofInt_lt greater secondBounded firstBounded
    rw [Int.compare_eq_gt.mpr greater, Int.compare_eq_gt.mpr ranks]

end Rank

end Binary64

end RoutedGraph
