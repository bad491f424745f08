import DocQuery.Double.Basic
import DocQuery.Text.Integer

/-!
# Reading doubles

The double nearest to a number in decimal notation, which may have a sign, a fraction and an
exponent. Infinity and NaN are read from their names, in any case.

## Main definitions

* `Double.ofDecimal`: the double nearest to a coefficient times a power of ten
* `Double.read?`: the double that a whole text writes
-/

namespace DocQuery.Double

/-- The double nearest to `coefficient * 10 ^ exponent`. Powers of ten that are out of range by far
are not computed. -/
def ofDecimal (negative : Bool) (coefficient : Nat) (exponent : Int) : Double :=
  let digits : Int := (Nat.toDigits 10 coefficient).length
  if coefficient = 0 ∨ exponent + digits < -400 then ofParts negative 0
  else if 400 < exponent + digits then infinity negative
  else ofRatio negative (coefficient * 10 ^ exponent.toNat) (10 ^ (-exponent).toNat)

/-- The exponent behind an `e`, or zero if the text is empty. -/
def readExponent? : List Char → Option Int
  | [] => some 0
  | c :: rest => if c = 'e' ∨ c = 'E' then Integer.readSigned? rest else none

/-- The digits behind a point, if there is one, and the rest. -/
def takeFraction : List Char → List Char × List Char
  | '.' :: rest => Integer.takeDigits rest
  | rest => ([], rest)

/-- The double that an unsigned number writes. A digit has to stand before or behind the point. -/
def readUnsigned? (negative : Bool) (chars : List Char) : Option Double := do
  let (whole, rest) := Integer.takeDigits chars
  let (fraction, rest) := takeFraction rest
  let exponent ← readExponent? rest
  let digits := whole ++ fraction
  if digits.isEmpty then none
  else some (ofDecimal negative (Integer.digitsValue digits) (exponent - fraction.length))

/-- The double that a name in lower case stands for. -/
def ofName? (negative : Bool) (name : List Char) : Option Double :=
  match String.ofList name with
  | "inf" | "infinity" => some (infinity negative)
  | "nan" => some (nan negative)
  | _ => none

/-- The double that a whole text writes. -/
def read? (text : String) : Option Double :=
  let (negative, chars) := match text.toList with
    | '-' :: rest => (true, rest)
    | '+' :: rest => (false, rest)
    | chars => (false, chars)
  ofName? negative (chars.map Char.toLower) <|> readUnsigned? negative chars

end DocQuery.Double
