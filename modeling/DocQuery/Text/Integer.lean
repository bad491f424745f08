/-!
# Decimal integers

Integers as decimal digits, with an optional sign in front.

## Main definitions

* `Integer.digitsValue`: the number that digits stand for
* `Integer.readUnsigned?`, `Integer.readSigned?`: the integers that whole texts write
* `Integer.takeDigits`: the digits at the start of a text
-/

namespace DocQuery.Integer

/-- The number that decimal digits stand for. -/
def digitsValue (digits : List Char) : Nat :=
  digits.foldl (fun acc c => 10 * acc + (c.toNat - '0'.toNat)) 0

/-- The number that a non-empty list of decimal digits stands for. -/
def readDigits? (chars : List Char) : Option Nat :=
  if chars.isEmpty || !chars.all Char.isDigit then none else some (digitsValue chars)

/-- The number that a text writes: digits, with or without a plus sign. -/
def readUnsigned? : List Char → Option Nat
  | '+' :: digits => readDigits? digits
  | digits => readDigits? digits

/-- The integer that a text writes: digits, with or without a sign. -/
def readSigned? : List Char → Option Int
  | '-' :: digits => (readDigits? digits).map fun n => -(n : Int)
  | chars => (readUnsigned? chars).map Int.ofNat

/-- The digits at the start of a text, and the rest. -/
def takeDigits (chars : List Char) : List Char × List Char := chars.span Char.isDigit

end DocQuery.Integer
