import DocQuery.Text.Integer
import DocQuery.Value.Basic

/-!
# Reading decimal numbers

A decimal number in 128 bits has a coefficient of at most thirty-four digits and a bounded exponent.
A text whose number does not fit is adapted only where that changes nothing about its value: zeros
are moved between coefficient and exponent.

## Main definitions

* `Decimal128.ofParts`: the word for a sign, a coefficient and an exponent
* `Decimal128.read?`: the decimal number that a text writes
-/

namespace DocQuery.Decimal128

/-- The greatest number of digits of a coefficient. -/
def maxDigits : Nat := 34

/-- The least exponent. -/
def minExponent : Int := -6176

/-- The greatest exponent. -/
def maxExponent : Int := 6111

/-- The word with the given sign and the given other bits. -/
def ofSignAndBits (negative : Bool) (bits : Nat) : Decimal128 :=
  ⟨BitVec.ofNat 128 ((if negative then 2 ^ 127 else 0) + bits)⟩

/-- The word for a sign, a coefficient and an exponent that fit. -/
def ofParts (negative : Bool) (coefficient : Nat) (exponent : Int) : Decimal128 :=
  ofSignAndBits negative ((exponent - minExponent).toNat * 2 ^ 113 + coefficient)

/-- The first digits of a text, if the others are zeros. -/
def truncate? (digits : List Char) (count : Nat) : Option (List Char) :=
  if (digits.drop count).all (· == '0') then some (digits.take count) else none

/-- The decimal number of digits and an exponent, if it fits. -/
def ofDigits? (negative : Bool) (digits : List Char) (exponent : Int) : Option Decimal128 := do
  let trimmed := digits.dropWhile (· == '0')
  let digits := if trimmed.isEmpty && !digits.isEmpty then ['0'] else trimmed
  let kept ← if maxDigits < digits.length then truncate? digits maxDigits else some digits
  let exponent := exponent + (digits.length - kept.length : Nat)
  let isZero := kept == ['0']
  let (kept, exponent) ←
    if exponent < minExponent then
      if isZero then some (kept, minExponent)
      else
        let excess := (minExponent - exponent).toNat
        if kept.length < excess then none
        else (truncate? kept (kept.length - excess)).map (·, minExponent)
    else if maxExponent < exponent then
      if isZero then some (kept, maxExponent)
      else
        let missing := (exponent - maxExponent).toNat
        if maxDigits < kept.length + missing then none
        else some (kept ++ List.replicate missing '0', maxExponent)
    else some (kept, exponent)
  let coefficient ← Integer.readUnsigned? kept
  return ofParts negative coefficient exponent

/-- The parts of a text before and behind the first place of a character. -/
def splitAtChar (mark : Char) (chars : List Char) : List Char × Option (List Char) :=
  match chars.span (· != mark) with
  | (before, _ :: behind) => (before, some behind)
  | (before, []) => (before, none)

/-- The decimal number of a text without a sign, in lower case. -/
def readUnsigned? (negative : Bool) (chars : List Char) : Option Decimal128 :=
  match String.ofList chars with
  | "nan" => some (ofSignAndBits negative (31 * 2 ^ 122))
  | "snan" => some (ofSignAndBits negative (63 * 2 ^ 121))
  | "infinity" | "inf" => some (ofSignAndBits negative (30 * 2 ^ 122))
  | _ => do
    let (mantissa, exponentText?) := splitAtChar 'e' chars
    let exponent ← match exponentText? with
      | some text => Integer.readSigned? text
      | none => some 0
    if exponent < -(2 ^ 15) ∨ 2 ^ 15 ≤ exponent then none
    let (whole, fraction?) := splitAtChar '.' mantissa
    let fraction := fraction?.getD []
    ofDigits? negative (whole ++ fraction) (exponent - fraction.length)

/-- The decimal number that a text writes. -/
def read? (text : String) : Option Decimal128 :=
  match text.toList with
  | '-' :: rest => readUnsigned? true (rest.map Char.toLower)
  | '+' :: rest => readUnsigned? false (rest.map Char.toLower)
  | chars => readUnsigned? false (chars.map Char.toLower)

end DocQuery.Decimal128
