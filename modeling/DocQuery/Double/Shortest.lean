import DocQuery.Double.Basic

/-!
# The shortest decimal that reads back

The decimal text of a double carries as few digits as possible: the first of the grids with one,
two, ... significant digits that has a point in the interval of reals that round to the double,
and on that grid the point nearest to the double. Two points can be equally near, and then it is
for the format to choose.

## Main definitions

* `Decimal`: a coefficient and a power of ten
* `Tie`: the choice between two points that are equally near
* `Double.Interval`: the reals that round to a double
* `Double.shortest`: the shortest decimal that reads back as the given double

## Design notes

All comparisons are between natural numbers in quarters of the unit `2 ^ (-1074)`: the bounds of
the interval lie half-way to the neighbours, and below a power of two the lower neighbour is only
half as far away.
-/

namespace DocQuery

/-- The number `coefficient * 10 ^ exponent`. -/
structure Decimal where
  coefficient : Nat
  exponent : Int
  deriving DecidableEq, Inhabited

namespace Decimal

/-- The decimal digits of the coefficient, most significant first. -/
def digits (d : Decimal) : List Char := Nat.toDigits 10 d.coefficient

/-- The exponent of the first digit: the number is at least `10 ^ leading` and below ten times
that. -/
def leading (d : Decimal) : Int := d.digits.length + d.exponent - 1

end Decimal

/-- Which of two decimals next to each other a number half-way between them goes to. -/
inductive Tie where
  | up
  /-- To the one whose last digit is even. -/
  | even
  deriving DecidableEq

/-- Whether a tie goes to the lower of two coefficients. -/
def Tie.isBelow : Tie → Nat → Bool
  | up, _ => false
  | even, below => below % 2 == 0

namespace Double

/-- The reals that round to one double, in quarter units. -/
structure Interval where
  low : Nat
  middle : Nat
  high : Nat
  /-- Whether the bounds themselves round to the double. -/
  closed : Bool

/-- The interval of a positive finite double. -/
def interval (x : Double) : Interval :=
  let gap := 2 ^ x.shift
  let lowGap := if x.fraction = 0 ∧ 1 < x.exponentField then gap else 2 * gap
  { low := 4 * x.magnitude - lowGap
    middle := 4 * x.magnitude
    high := 4 * x.magnitude + 2 * gap
    closed := x.significand % 2 == 0 }

/-- The number of quarter units in one. -/
def quartersPerOne : Nat := 4 * unitsPerOne

namespace Interval

/-- Whether `num / den`, in quarter units, lies in the interval. -/
def contains (i : Interval) (num den : Nat) : Bool :=
  if i.closed then decide (i.low * den ≤ num) && decide (num ≤ i.high * den)
  else decide (i.low * den < num) && decide (num < i.high * den)

/-- The point of the grid `10 ^ exponent` that lies in the interval and is nearest to its middle,
if one of the two grid points around the middle lies in the interval. Where both are equally near,
`tie` tells which one it is. -/
def nearestOnGrid (tie : Tie) (i : Interval) (exponent : Int) : Option Decimal :=
  let stepNum := quartersPerOne * 10 ^ exponent.toNat
  let stepDen := 10 ^ (-exponent).toNat
  let below := i.middle * stepDen / stepNum
  let above := below + 1
  let hitBelow := i.contains (below * stepNum) stepDen
  let hitAbove := i.contains (above * stepNum) stepDen
  let toBelow := i.middle * stepDen - below * stepNum
  let toAbove := above * stepNum - i.middle * stepDen
  let isBelow := toBelow < toAbove || (toBelow == toAbove && tie.isBelow below)
  if hitBelow && (isBelow || !hitAbove) then some ⟨below, exponent⟩
  else if hitAbove then some ⟨above, exponent⟩
  else none

end Interval

/-- The least `k` with `x < 10 ^ k`, for a positive finite double. The binary exponent times
`log 2` bounds `k` from below, and at most two steps upwards are needed. -/
def decimalPoint (x : Double) : Int :=
  let estimate := ((x.magnitude.log2 : Int) - 1074) * 30103 / 100000
  let isBelow (k : Int) : Bool :=
    decide (x.magnitude * 10 ^ (-k).toNat < unitsPerOne * 10 ^ k.toNat)
  if isBelow estimate then estimate
  else if isBelow (estimate + 1) then estimate + 1
  else estimate + 2

/-- The digits of a decimal without the zeros at its end. -/
def trimZeros (d : Decimal) : Nat → Decimal
  | 0 => d
  | fuel + 1 =>
    if d.coefficient % 10 = 0 ∧ d.coefficient ≠ 0 then
      trimZeros ⟨d.coefficient / 10, d.exponent + 1⟩ fuel
    else d

/-- The shortest decimal that reads back as the absolute value of a finite double that is not
zero. Seventeen digits always suffice. -/
def shortest (tie : Tie) (x : Double) : Decimal :=
  let point := x.decimalPoint
  let onGrid (count : Nat) := x.interval.nearestOnGrid tie (point - (count + 1))
  match (List.range 17).findSome? onGrid with
  | some d => trimZeros d 17
  | none => ⟨x.magnitude, 0⟩

end Double

end DocQuery
