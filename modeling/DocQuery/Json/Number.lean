import DocQuery.Json.Basic
import DocQuery.Text.Integer

/-!
# Numbers in JSON text

An integer of at most sixty-four bits is read as it stands. Every other number is read as a double in
two steps: the digits are collected into a significand of sixty-four bits, and the significand is
multiplied with, or divided by, a power of ten. Both steps round, so the result can differ from the
nearest double in its last bit.

## Main definitions

* `Json.scale?`: a significand times a power of ten, in two steps
* `Json.readNumber?`: the number at the start of a text, and the rest
-/

namespace DocQuery.Json

/-- The numbers that a significand holds are below this bound. -/
def significandBound : Nat := 2 ^ 64

/-- The greatest power of ten that one step multiplies with or divides by. -/
def maxPower : Nat := 308

/-- Divides by powers of ten, several times if the power is too large for one step. A double that
has become zero stays zero, so a bounded number of steps suffices. -/
def divideByPower (x : Double) (power : Nat) : Nat → Double
  | 0 => x
  | fuel + 1 =>
    if power ≤ maxPower then x.divFinite (Double.ofRatio false (10 ^ power) 1)
    else if x.isZero then x
    else divideByPower (x.divFinite (Double.ofRatio false (10 ^ maxPower) 1)) (power - maxPower) fuel

/-- A significand times a power of ten, unless it exceeds the greatest double. -/
def scale? (significand : Nat) (exponent : Int) : Option Double :=
  let x := Double.ofInt significand
  if exponent < 0 then some (divideByPower x exponent.natAbs 8)
  else if exponent ≤ maxPower then
    let y := x.mulFinite (Double.ofRatio false (10 ^ exponent.toNat) 1)
    if y.isInfinite then none else some y
  else if significand = 0 then some x
  else none

/-- Adds digits to a significand as long as it stays below its bound. Returns the significand and
the number of digits that it takes in. -/
def collect : Nat → Nat → List Char → Nat × Nat
  | significand, taken, [] => (significand, taken)
  | significand, taken, c :: rest =>
    let next := 10 * significand + (c.toNat - '0'.toNat)
    if next < significandBound then collect next (taken + 1) rest else (significand, taken)

/-- An exponent with its mark and its sign, and the rest. Without a mark the exponent is zero. -/
def readExponent? : List Char → Option (Int × List Char)
  | c :: rest =>
    if c = 'e' ∨ c = 'E' then
      let (negative, rest) := match rest with
        | '-' :: more => (true, more)
        | '+' :: more => (false, more)
        | more => (false, more)
      let (digits, rest) := Integer.takeDigits rest
      if digits.isEmpty then none
      else
        let n := Integer.digitsValue digits
        some (if negative then -(n : Int) else n, rest)
    else some (0, c :: rest)
  | [] => some (0, [])

/-- The digits behind a point, if there is one, and the rest. -/
def readFraction? : List Char → Option (Option (List Char) × List Char)
  | '.' :: rest =>
    let (digits, rest) := Integer.takeDigits rest
    if digits.isEmpty then none else some (some digits, rest)
  | rest => some (none, rest)

/-- The double that digits, a fraction and an exponent write. Digits of the whole part that the
significand does not take in count as powers of ten, and those of the fraction are dropped. -/
def readDouble? (whole fraction : List Char) (exponent : Int) : Option Double :=
  let (significand, taken) := collect 0 0 whole
  let dropped := whole.length - taken
  if dropped = 0 then
    let (significand, taken) := collect significand 0 fraction
    scale? significand (exponent - taken)
  else
    let (significand, taken) := collect significand 0 fraction
    scale? significand (exponent + dropped - taken)

/-- A double with the other sign. -/
def negate (x : Double) : Double := Double.ofParts (!x.negative) x.magnitudeBits

/-- The number at the start of a text, and the rest. A minus zero is a double. -/
def readNumber? (chars : List Char) : Option (Json × List Char) := do
  let (negative, chars) := match chars with
    | '-' :: rest => (true, rest)
    | _ => (false, chars)
  let (whole, rest) := Integer.takeDigits chars
  if whole.isEmpty || (whole.head? == some '0' && whole.length != 1) then none
  let (fraction?, rest) ← readFraction? rest
  let hasExponent := rest.head? == some 'e' || rest.head? == some 'E'
  let (exponent, rest) ← readExponent? rest
  let n := Integer.digitsValue whole
  let isInteger := fraction?.isNone && !hasExponent &&
    (if negative then decide (0 < n ∧ n ≤ 2 ^ 63) else decide (n < significandBound))
  if isInteger then
    return (.int (if negative then -(n : Int) else n), rest)
  let x ← readDouble? whole (fraction?.getD []) exponent
  return (.double (if negative then negate x else x), rest)

end DocQuery.Json
