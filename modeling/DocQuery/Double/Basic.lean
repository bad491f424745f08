/-!
# Binary floating point in 64 bits

A double is the word that stores it: one sign bit, eleven exponent bits and fifty-two fraction
bits. Everything here is exact arithmetic on natural numbers and integers, so that the order of
doubles, the rounding of integers and the sum of two doubles can be reasoned about.

## Main definitions

* `Double.scaled`: the value of a finite double, in units of `2 ^ (-1074)`
* `Double.ofRatio`: the double nearest to a quotient of two natural numbers, ties to even
* `Double.ofInt`: the double nearest to an integer
* `Double.orderKey`, `Double.totalCompare`: the total order on words, in which a NaN stands beyond
  the infinity of its sign and the negative zero below the positive one
* `Double.numEq`: numeric equality, in which a NaN differs from itself and the two zeros agree

## Design notes

The unit `2 ^ (-1074)` is the smallest positive double. Every finite double is a whole number of
units, so sums are sums of integers and one rounding function serves every operation.

Powers are those of the core library even where a monoid brings powers of its own, so that a
definition is the same term in every module.
-/

attribute [instance (20000), default_instance 20000] instPowNat

namespace DocQuery

/-- A double-precision number, as the word that stores it. -/
structure Double where
  /-- Sign, exponent and fraction, from the most significant bit down. -/
  bits : UInt64
  deriving DecidableEq, Inhabited

namespace Double

/-! ## The fields of a word -/

/-- The word as a natural number. -/
def word (x : Double) : Nat := x.bits.toNat

/-- The number of units `2 ^ (-1074)` in one. -/
def unitsPerOne : Nat := 2 ^ 1074

/-- The word without its sign bit. -/
def magnitudeBits (x : Double) : Nat := x.word % 2 ^ 63

/-- Whether the sign bit is set. -/
def negative (x : Double) : Bool := decide (2 ^ 63 ≤ x.word)

/-- The biased exponent. -/
def exponentField (x : Double) : Nat := x.magnitudeBits / 2 ^ 52

/-- The fraction bits. -/
def fraction (x : Double) : Nat := x.word % 2 ^ 52

/-- Whether the word stands for no number. -/
def isNaN (x : Double) : Bool := decide (2047 * 2 ^ 52 < x.magnitudeBits)

/-- Whether the word stands for one of the two infinities. -/
def isInfinite (x : Double) : Bool := decide (x.magnitudeBits = 2047 * 2 ^ 52)

/-- Whether the word stands for a number. -/
def isFinite (x : Double) : Bool := decide (x.magnitudeBits < 2047 * 2 ^ 52)

/-- Whether the word stands for one of the two zeros. -/
def isZero (x : Double) : Bool := decide (x.magnitudeBits = 0)

/-- The significand of a finite double, with its hidden bit. -/
def significand (x : Double) : Nat :=
  if x.exponentField = 0 then x.fraction else 2 ^ 52 + x.fraction

/-- The power of two that a unit of the significand is worth, in units `2 ^ (-1074)`. -/
def shift (x : Double) : Nat := x.exponentField - 1

/-- The absolute value of a finite double, in units `2 ^ (-1074)`. -/
def magnitude (x : Double) : Nat := x.significand * 2 ^ x.shift

/-- The value of a finite double, in units `2 ^ (-1074)`. -/
def scaled (x : Double) : Int :=
  if x.negative then -(x.magnitude : Int) else x.magnitude

/-! ## Words with a name -/

/-- The word with the given sign and the given other bits. -/
def ofParts (negative : Bool) (magnitudeBits : Nat) : Double :=
  ⟨UInt64.ofNat ((if negative then 2 ^ 63 else 0) + magnitudeBits)⟩

/-- Zero with a positive sign. -/
def zero : Double := ⟨0⟩

/-- Zero with a negative sign. -/
def negZero : Double := ofParts true 0

/-- The infinity of the given sign. -/
def infinity (negative : Bool) : Double := ofParts negative (2047 * 2 ^ 52)

/-- The quiet NaN of the given sign. -/
def nan (negative : Bool) : Double := ofParts negative (2047 * 2 ^ 52 + 2 ^ 51)

/-- The quiet NaN with the sign and the payload of a NaN. -/
def quiet (x : Double) : Double := ofParts x.negative (x.magnitudeBits ||| 2 ^ 51)

/-! ## Rounding -/

/-- The quotient of `num` and `den`, rounded to the nearest natural number, ties to even. -/
def roundQuotient (num den : Nat) : Nat :=
  let quotient := num / den
  let twice := 2 * (num % den)
  if den < twice ∨ (den = twice ∧ quotient % 2 = 1) then quotient + 1 else quotient

/-- The bits, sign aside, of the double nearest to `num / den`, ties to even, and those of infinity
from the point on where the nearest double would exceed the largest finite one.

With `shift` binary places dropped the significand has at most fifty-three bits, and the sum in the
last line carries a significand that rounds up to `2 ^ 53` into the exponent. -/
def magnitudeOfRatio (num den : Nat) : Nat :=
  let units := num * unitsPerOne
  let shift := (units / den).log2 - 52
  let significand := roundQuotient units (den * 2 ^ shift)
  min (shift * 2 ^ 52 + significand) (2047 * 2 ^ 52)

/-- The double of the given sign nearest to `num / den` in absolute value, ties to even. -/
def ofRatio (negative : Bool) (num den : Nat) : Double :=
  ofParts negative (magnitudeOfRatio num den)

/-- The double nearest to an integer, ties to even. -/
def ofInt (n : Int) : Double := ofRatio (decide (n < 0)) n.natAbs 1

/-! ## Order and equality -/

/-- An integer for each word, in the total order of words. -/
def orderKey (x : Double) : Int :=
  if x.negative then -(x.magnitudeBits : Int) - 1 else x.magnitudeBits

/-- Compares two words in the total order: negative NaNs, negative infinity, negative numbers, the
negative zero, the positive zero, positive numbers, positive infinity, positive NaNs. -/
def totalCompare (x y : Double) : Ordering := compare x.orderKey y.orderKey

/-- Numeric equality: a NaN equals nothing, and the two zeros are equal. -/
def numEq (x y : Double) : Bool :=
  !x.isNaN && !y.isNaN && (x.bits == y.bits || (x.isZero && y.isZero))

/-- Whether the double is a number below zero. -/
def isBelowZero (x : Double) : Bool := !x.isNaN && x.negative && !x.isZero

/-- Whether the double is a number that is zero or more. -/
def isAtLeastZero (x : Double) : Bool := !x.isNaN && (!x.negative || x.isZero)

/-! ## Arithmetic -/

/-- The sum of two doubles. A NaN operand is handed on, the first one before the second; opposite
infinities have no sum, and a sum that is zero is negative only if both operands are. -/
def add (x y : Double) : Double :=
  if x.isNaN then x.quiet
  else if y.isNaN then y.quiet
  else if x.isInfinite then
    if y.isInfinite && x.negative != y.negative then nan true else x
  else if y.isInfinite then y
  else
    let sum := x.scaled + y.scaled
    if sum = 0 then (if x.negative && y.negative then negZero else zero)
    else ofRatio (decide (sum < 0)) sum.natAbs unitsPerOne

/-- The product of two finite doubles. -/
def mulFinite (x y : Double) : Double :=
  ofRatio (x.negative != y.negative) (x.magnitude * y.magnitude) (unitsPerOne * unitsPerOne)

/-- The quotient of a finite double and a finite double that is not zero. -/
def divFinite (x y : Double) : Double :=
  ofRatio (x.negative != y.negative) x.magnitude y.magnitude

/-- The quotient of a double and a positive whole number. -/
def divCount (x : Double) (n : Nat) : Double :=
  if x.isNaN then x.quiet
  else if x.isInfinite then x
  else x.divFinite (ofInt n)

/-- The sum of a list of doubles, from the left, starting with the negative zero, which is neutral
for addition. -/
def sum (xs : List Double) : Double := xs.foldl add negZero

/-! ## Whole parts -/

/-- Whether a double is a whole number. -/
def isWhole (x : Double) : Bool := x.isFinite && x.magnitude % unitsPerOne == 0

/-- The absolute value of a finite double, with its fraction cut off. -/
def wholePart (x : Double) : Nat := x.magnitude / unitsPerOne

/-- The number of items that a double asks for: its whole part, at most `2 ^ 64 - 1`, and zero for a
NaN and for a negative number. -/
def toCount (x : Double) : Nat :=
  if x.isNaN || x.negative then 0
  else if x.isInfinite then 2 ^ 64 - 1
  else min x.wholePart (2 ^ 64 - 1)

/-- Whether a double is less than `2 ^ (-52)` away from a natural number. -/
def isNear (x : Double) (n : Nat) : Bool :=
  x.isFinite &&
    decide ((((ofInt n).scaled - x.scaled).natAbs) * 2 ^ 52 < unitsPerOne)

end Double

end DocQuery
