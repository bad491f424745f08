import DocQuery.Double.Reader
import DocQuery.Text.Hex
import DocQuery.Time.Calendar

/-!
# Scalars in TOML

Whether a word is a number or a date. Which one it is does not matter to anyone who reads settings,
so the values are not kept; but an integer has to fit into a hundred and twenty-eight bits, and a
floating-point number must not exceed the greatest double.

## Main definitions

* `TomlScalar.isNumber`: integers of four bases and floating-point numbers
* `TomlScalar.isDateTime`: dates, times of day and points in time
-/

namespace DocQuery.TomlScalar

/-- Whether a text is digits, of which underscores can separate two. -/
def isDigitGroup (isDigit : Char → Bool) : List Char → Bool
  | [] => false
  | [c] => isDigit c
  | c :: '_' :: rest => isDigit c && isDigitGroup isDigit rest
  | c :: rest => isDigit c && isDigitGroup isDigit rest

/-- A text without the sign at its start. -/
def dropSign : List Char → List Char
  | '+' :: rest => rest
  | '-' :: rest => rest
  | chars => chars

/-- A text without the underscores that separate digits. -/
def dropUnderscores (chars : List Char) : List Char := chars.filter (· != '_')

/-- Whether a whole number is in the range of words of a hundred and twenty-eight bits, with a sign
if it is negative. -/
def isInRange (negative : Bool) (n : Nat) : Bool :=
  if negative then decide (n ≤ 2 ^ 127) else decide (n < 2 ^ 128)

/-- Whether a text is a whole number in the given base. -/
def isWholeIn (base : Nat) (chars : List Char) : Bool :=
  let isDigit (c : Char) : Bool := (Hex.digitValue? c).any fun d => decide (d < base)
  isDigitGroup isDigit chars &&
    isInRange false ((dropUnderscores chars).foldl
      (fun n c => base * n + (Hex.digitValue? c).getD 0) 0)

/-- Whether a text is decimal digits without a superfluous zero at the start. -/
def isWhole (chars : List Char) : Bool :=
  isDigitGroup Char.isDigit chars && (chars.head? != some '0' || chars.length == 1)

/-- Whether a text is an integer in decimal notation, with or without a sign. -/
def isInteger (chars : List Char) : Bool :=
  let digits := dropSign chars
  isWhole digits &&
    isInRange (chars.head? == some '-') (Integer.digitsValue (dropUnderscores digits))

/-- Whether a text is an exponent behind its mark: digits with or without a sign. -/
def isExponent (chars : List Char) : Bool := isDigitGroup Char.isDigit (dropSign chars)

/-- Whether a text is a decimal number with a fraction, an exponent or both. -/
def isFractional (chars : List Char) : Bool :=
  let (mantissa, exponent) := (dropSign chars).span fun c => c != 'e' && c != 'E'
  let (whole, fraction) := mantissa.span (· != '.')
  isWhole whole && (!fraction.isEmpty || !exponent.isEmpty) &&
    (fraction.isEmpty || isDigitGroup Char.isDigit (fraction.drop 1)) &&
    (exponent.isEmpty || isExponent (exponent.drop 1)) &&
    (Double.read? (String.ofList (dropUnderscores chars))).any Double.isFinite

/-- Whether a text is an integer or a floating-point number. -/
def isNumber (chars : List Char) : Bool :=
  match chars with
  | '0' :: 'x' :: digits => isWholeIn 16 digits
  | '0' :: 'o' :: digits => isWholeIn 8 digits
  | '0' :: 'b' :: digits => isWholeIn 2 digits
  | _ =>
    let name := dropSign chars
    name == ['i', 'n', 'f'] || name == ['n', 'a', 'n'] || isInteger chars || isFractional chars

/-- The number that exactly `count` decimal digits write, and the rest. -/
def fixed? (count : Nat) (chars : List Char) : Option (Nat × List Char) :=
  let digits := chars.take count
  if digits.length = count ∧ digits.all Char.isDigit then
    some (Integer.digitsValue digits, chars.drop count)
  else none

/-- The number that two digits behind a mark write, and the rest. -/
def marked? (mark : Char) : List Char → Option (Nat × List Char)
  | c :: rest => if c = mark then fixed? 2 rest else none
  | [] => none

/-- The rest behind a date. -/
def skipDate? (chars : List Char) : Option (List Char) := do
  let (year, rest) ← fixed? 4 chars
  let (month, rest) ← marked? '-' rest
  let (day, rest) ← marked? '-' rest
  if 1 ≤ month ∧ month ≤ 12 ∧ 1 ≤ day ∧ day ≤ CivilTime.daysInMonth year month then some rest
  else none

/-- The rest behind a time of day, whose seconds can be left out. -/
def skipTime? (chars : List Char) : Option (List Char) := do
  let (hour, rest) ← fixed? 2 chars
  let (minute, rest) ← marked? ':' rest
  if 23 < hour ∨ 59 < minute then none
  match rest with
  | ':' :: _ =>
    let (second, rest) ← marked? ':' rest
    if 60 < second then none
    match rest with
    | '.' :: more =>
      let (digits, rest) := Integer.takeDigits more
      if digits.isEmpty then none else some rest
    | rest => some rest
  | rest => some rest

/-- Whether a text is an offset from UTC. -/
def isOffset : List Char → Bool
  | ['Z'] | ['z'] => true
  | c :: rest =>
    (c == '+' || c == '-') &&
      match fixed? 2 rest with
      | some (hours, rest) =>
        match marked? ':' rest with
        | some (minutes, rest) => decide (hours ≤ 23) && decide (minutes ≤ 59) && rest.isEmpty
        | none => false
      | none => false
  | [] => false

/-- Whether a text is a date, a time of day, or both, with or without an offset from UTC. -/
def isDateTime (chars : List Char) : Bool :=
  match skipDate? chars with
  | some [] => true
  | some (separator :: rest) =>
    (separator == 'T' || separator == 't' || separator == ' ') &&
      match skipTime? rest with
      | some rest => rest.isEmpty || isOffset rest
      | none => false
  | none => skipTime? chars == some []

end DocQuery.TomlScalar
