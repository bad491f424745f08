import DocQuery.Double.Shortest

/-!
# Decimal text of doubles

Two places write doubles: messages and keys, where a whole number has no fraction and no exponent
ever appears, and JSON, where a whole number ends in `.0` and very large and very small numbers
have an exponent. Both write the digits of the shortest decimal that reads back.

## Main definitions

* `Double.Layout`: what a format decides about the text of a number
* `Double.plainLayout`, `Double.jsonLayout`: the two formats
* `Double.plainText`: the text in messages and keys
* `Double.jsonText?`: the text in JSON, if JSON has one
-/

namespace DocQuery.Double

/-- What a format decides about the text of a finite number. -/
structure Layout where
  /-- What follows the digits of a whole number. -/
  wholeEnd : String
  /-- Whether a number whose first digit has this exponent is written without an exponent. -/
  isPositional : Int → Bool
  /-- Which of two equally short decimals is written for a number half-way between them. -/
  tie : Tie

/-- Messages and keys: never an exponent, nothing after a whole number, and a tie goes up. -/
def plainLayout : Layout := ⟨"", fun _ => true, .up⟩

/-- JSON: positional from `10 ^ (-5)` up to below `10 ^ 16`, a whole number ends in `.0`, and a tie
goes to the even digit. -/
def jsonLayout : Layout :=
  ⟨".0", fun leading => decide (-5 ≤ leading) && decide (leading < 16), .even⟩

namespace Layout

/-- Digits with the point where the exponent puts it. -/
def positional (l : Layout) (d : Decimal) : String :=
  let digits := d.digits
  let point := d.leading + 1
  if 0 ≤ d.exponent then
    String.ofList (digits ++ List.replicate d.exponent.toNat '0') ++ l.wholeEnd
  else if 0 < point then
    String.ofList (digits.take point.toNat) ++ "." ++ String.ofList (digits.drop point.toNat)
  else
    "0." ++ String.ofList (List.replicate (-point).toNat '0' ++ digits)

/-- One digit, the other digits behind a point, and the exponent with its sign. -/
def scientific (d : Decimal) : String :=
  let rest := d.digits.drop 1
  let fraction := if rest.isEmpty then "" else "." ++ String.ofList rest
  let sign := if d.leading < 0 then "-" else "+"
  String.ofList (d.digits.take 1) ++ fraction ++ "e" ++ sign ++ toString d.leading.natAbs

/-- The text of a finite double. -/
def finiteText (l : Layout) (x : Double) : String :=
  let sign := if x.negative then "-" else ""
  if x.isZero then sign ++ "0" ++ l.wholeEnd
  else
    let d := x.shortest l.tie
    sign ++ (if l.isPositional d.leading then l.positional d else scientific d)

end Layout

/-- The text of a double in messages and keys. -/
def plainText (x : Double) : String :=
  if x.isNaN then "NaN"
  else if x.isInfinite then (if x.negative then "-inf" else "inf")
  else plainLayout.finiteText x

/-- The text of a double in JSON, which has none for a NaN and for the infinities. -/
def jsonText? (x : Double) : Option String :=
  if x.isFinite then some (jsonLayout.finiteText x) else none

end DocQuery.Double
