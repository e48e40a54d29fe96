/-!
# Double-precision numbers as words

A number is its 64-bit word: a sign, eleven exponent bits and 52 fraction bits.
Two relations on words are needed.  Numeric equality identifies the two zeros
and no NaN with anything.  The total order ranks every word, NaNs of every
payload included, and tells the two zeros apart.

A finite number is written with the fewest digits that read back as it.  Of two
candidates with equally many digits the nearer one is taken, and of two equally
near ones the greater.  The text is positional at every size, and a whole
number carries no point.  All arithmetic on the way is exact: the number and
the two ends of the interval of reals that round to it are natural numbers over
one common denominator.
-/

namespace RoutedGraph

/-- A double-precision number, given by its word. -/
structure Binary64 where
  bits : UInt64
  deriving DecidableEq

namespace Binary64

def exponentUnit : Nat := Nat.pow 2 52

def signWeight : Nat := Nat.pow 2 63

/-- The word without its sign: exponent field above fraction field. -/
def magnitude (number : Binary64) : Nat := number.bits.toNat % signWeight

def isNegative (number : Binary64) : Bool := decide (signWeight ≤ number.bits.toNat)

def exponent (number : Binary64) : Nat := number.magnitude / exponentUnit

def fraction (number : Binary64) : Nat := number.magnitude % exponentUnit

/-- The magnitude of the two infinities; NaNs lie above it. -/
def infinityMagnitude : Nat := 2047 * exponentUnit

def isNaN (number : Binary64) : Bool := decide (infinityMagnitude < number.magnitude)

def isInfinite (number : Binary64) : Bool := decide (number.magnitude = infinityMagnitude)

def isZero (number : Binary64) : Bool := decide (number.magnitude = 0)

/-- Numeric equality: a NaN equals nothing, and the two zeros are equal. -/
def numericEq (first second : Binary64) : Bool :=
  !first.isNaN && !second.isNaN && (decide (first = second) || (first.isZero && second.isZero))

/-- The place of a word in the total order: negative words count downwards from minus one. -/
def rank (number : Binary64) : Int :=
  if number.isNegative then -1 - (number.magnitude : Int) else (number.magnitude : Int)

def totalOrder (first second : Binary64) : Ordering := compare first.rank second.rank

/-- Round a natural number to a magnitude, to nearest with ties to the even fraction.
A carry out of the fraction lands in the exponent field, where it belongs. -/
def magnitudeOfNat (number : Nat) : Nat :=
  if number = 0 then 0
  else
    let position := number.log2
    let base := (position + 1023) * exponentUnit
    if position ≤ 52 then base + (number * Nat.pow 2 (52 - position) - exponentUnit)
    else
      let step := Nat.pow 2 (position - 52)
      let quotient := number / step
      let remainder := number % step
      let roundsUp := step < 2 * remainder ∨ (step = 2 * remainder ∧ quotient % 2 = 1)
      base + (quotient - exponentUnit) + if roundsUp then 1 else 0

def ofInt (number : Int) : Binary64 :=
  let magnitude := magnitudeOfNat number.natAbs
  ⟨UInt64.ofNat (if number < 0 then signWeight + magnitude else magnitude)⟩

/-- A nonnegative decimal: `digits` scaled by a power of ten. -/
structure Decimal where
  digits : Nat
  scale : Int
  deriving DecidableEq

/-- The reals that round to a number, with the number itself, over one denominator. -/
structure RoundingInterval where
  lower : Nat
  center : Nat
  upper : Nat
  denominator : Nat
  /-- Whether the two ends round to the number as well. -/
  closed : Bool

/-- The significand of a finite number and the power of two that scales it. -/
def significand (number : Binary64) : Nat × Int :=
  if number.exponent = 0 then (number.fraction, -1074)
  else (exponentUnit + number.fraction, (number.exponent : Int) - 1075)

/-- Half a step above and below, but a quarter of a step below at a power of two, where the
numbers below lie twice as dense. -/
def roundingInterval (number : Binary64) : RoundingInterval :=
  let (whole, power) := number.significand
  let narrow := number.fraction = 0 ∧ 1 < number.exponent
  let unit := Nat.pow 2 (power - 2).toNat
  { lower := (4 * whole - if narrow then 1 else 2) * unit
    center := 4 * whole * unit
    upper := (4 * whole + 2) * unit
    denominator := Nat.pow 2 (2 - power).toNat
    closed := whole % 2 = 0 }

namespace RoundingInterval

/-- The same interval measured in units of a power of ten. -/
def inUnitsOf (interval : RoundingInterval) (scale : Int) : RoundingInterval :=
  let factor := Nat.pow 10 (-scale).toNat
  { interval with
    lower := interval.lower * factor
    center := interval.center * factor
    upper := interval.upper * factor
    denominator := interval.denominator * Nat.pow 10 scale.toNat }

/-- Whether a whole number of units lies in the interval. -/
def admits (interval : RoundingInterval) (units : Nat) : Bool :=
  let point := units * interval.denominator
  if interval.closed then decide (interval.lower ≤ point ∧ point ≤ interval.upper)
  else decide (interval.lower < point ∧ point < interval.upper)

/-- The nearest whole number of units in the interval, the greater one of two equally near. -/
def nearest? (interval : RoundingInterval) : Option Nat :=
  let below := interval.center / interval.denominator
  let remainder := interval.center % interval.denominator
  match interval.admits below, interval.admits (below + 1) with
  | true, true => some (if interval.denominator ≤ 2 * remainder then below + 1 else below)
  | true, false => some below
  | false, true => some (below + 1)
  | false, false => none

/-- How many digits stand before the point; not positive for numbers below a tenth. -/
def magnitudeDigits (interval : RoundingInterval) : Int :=
  let whole := interval.center / interval.denominator
  if whole = 0 then
    let leading := (List.range 400).find? fun zeros =>
      decide (interval.denominator ≤ interval.center * Nat.pow 10 zeros)
    1 - (leading.getD 400 : Int)
  else ((Nat.toDigits 10 whole).length : Int)

/-- The decimal with this many digits, if one rounds to the number. -/
def withDigits? (interval : RoundingInterval) (count : Nat) : Option Decimal :=
  let scale := interval.magnitudeDigits - count
  ((interval.inUnitsOf scale).nearest?).map fun digits =>
    if digits = Nat.pow 10 count then ⟨1, scale + count⟩ else ⟨digits, scale⟩

end RoundingInterval

/-- The decimal with the fewest digits that rounds to a finite nonzero number. -/
def shortest (number : Binary64) : Decimal :=
  let interval := number.roundingInterval
  ((List.range 17).findSome? fun count => interval.withDigits? (count + 1)).getD ⟨0, 0⟩

/-- Positional notation, without a point when the scale asks for no places. -/
def Decimal.positional (decimal : Decimal) : String :=
  let digits := Nat.toDigits 10 decimal.digits
  if 0 ≤ decimal.scale then String.ofList (digits ++ List.replicate decimal.scale.toNat '0')
  else
    let places := (-decimal.scale).toNat
    if places < digits.length then
      let whole := digits.length - places
      String.ofList (digits.take whole ++ '.' :: digits.drop whole)
    else String.ofList ('0' :: '.' :: List.replicate (places - digits.length) '0' ++ digits)

def text (number : Binary64) : String :=
  if number.isNaN then "NaN"
  else
    let unsigned :=
      if number.isInfinite then "inf"
      else if number.isZero then "0"
      else number.shortest.positional
    if number.isNegative then "-" ++ unsigned else unsigned

end Binary64

end RoutedGraph
