import DocQuery.Double.Text
import DocQuery.Text.Base64
import DocQuery.Text.Hex
import DocQuery.Time.Calendar
import DocQuery.Value.Basic

/-!
# Text of values

The text of a value in messages, in trace lines and, for most kinds, in the keys of indexed rows.
Strings stand in quotes without any escaping.

## Main definitions

* `ObjectId.hex`: the twenty-four digits of an identifier
* `Decimal128.text`: a decimal number in scientific notation where it needs an exponent
* `Value.text`, `Document.text`: the text of a value and of a document
* `Value.keyText`: the plain text under which a row is indexed
-/

namespace DocQuery

/-- The twenty-four hexadecimal digits of an identifier. -/
def ObjectId.hex (id : ObjectId) : String := String.ofList (Hex.ofNat 24 id.bits.toNat)

namespace Decimal128

/-- The text of a decimal number: plain digits while the exponent is not positive and at most six
zeros follow the point, else one digit before the point and an exponent with its sign. A coefficient
of more than thirty-four digits stands for zero. -/
def text (x : Decimal128) : String :=
  let word := x.bits.toNat
  let sign := if 2 ^ 127 ≤ word then "-" else ""
  let top := word / 2 ^ 122 % 32
  if top = 31 then "NaN"
  else if top = 30 then sign ++ "Infinity"
  else
    let large := word / 2 ^ 125 % 4 = 3
    let biased : Nat := if large then word / 2 ^ 111 % 2 ^ 14 else word / 2 ^ 113 % 2 ^ 14
    let raw : Nat := if large then 10 ^ 34 else word % 2 ^ 113
    let coefficient := if 10 ^ 34 ≤ raw then 0 else raw
    let d : Decimal := ⟨coefficient, (biased : Int) - 6176⟩
    if 0 < d.exponent ∨ d.leading < -6 then
      let rest := d.digits.drop 1
      let fraction := if rest.isEmpty then "" else "." ++ String.ofList rest
      let mark := if d.leading < 0 then "E-" else "E+"
      sign ++ String.ofList (d.digits.take 1) ++ fraction ++ mark ++ toString d.leading.natAbs
    else if d.exponent = 0 then sign ++ String.ofList d.digits
    else sign ++ Double.plainLayout.positional d

end Decimal128

/-- Field texts in braces, with blanks inside the braces of a document that is not empty. -/
def Value.bracedFields (texts : List String) : String :=
  if texts.isEmpty then "\x7b\x7d" else "\x7b " ++ ", ".intercalate texts ++ " \x7d"

mutual

/-- The text of a value in messages and trace lines. -/
def Value.text (v : Value) : String :=
  match v with
  | .minKey => "MinKey"
  | .undefined => "undefined"
  | .null => "null"
  | .boolean b => if b then "true" else "false"
  | .int32 n => toString n.toInt
  | .int64 n => toString n.toInt
  | .double x => x.plainText
  | .decimal128 x => x.text
  | .string s => "\"" ++ s ++ "\""
  | .symbol s => "Symbol(\"" ++ s ++ "\")"
  | .document fields => Value.bracedFields (Value.fieldTexts fields)
  | .array items => "[" ++ ", ".intercalate (Value.itemTexts items) ++ "]"
  | .binary subtype bytes =>
    "Binary(0x" ++ String.ofList (Nat.toDigits 16 subtype.toNat) ++ ", " ++
      String.ofList (Base64.encode bytes) ++ ")"
  | .objectId id => "ObjectId(\"" ++ id.hex ++ "\")"
  | .dateTime millis => "DateTime(\"" ++ CivilTime.display millis.toInt ++ "\")"
  | .timestamp time increment =>
    "Timestamp(" ++ toString time.toNat ++ ", " ++ toString increment.toNat ++ ")"
  | .regularExpression pattern options => "/" ++ pattern ++ "/" ++ options
  | .dbPointer collection id => "DbPointer(" ++ collection ++ ", " ++ id.hex ++ ")"
  | .javaScript code => code
  | .javaScriptWithScope code _ => code
  | .maxKey => "MaxKey"
termination_by structural v

/-- The texts of the items of an array. -/
def Value.itemTexts (items : List Value) : List String :=
  match items with
  | [] => []
  | item :: rest => Value.text item :: Value.itemTexts rest
termination_by structural items

/-- The texts of the fields of a document, each with its key. -/
def Value.fieldTexts (fields : List (String × Value)) : List String :=
  match fields with
  | [] => []
  | (key, value) :: rest => ("\"" ++ key ++ "\": " ++ Value.text value) :: Value.fieldTexts rest
termination_by structural fields

end

/-- The text of a document in messages and trace lines. -/
def Document.text (d : Document) : String := Value.text (.document d)

/-- The plain text under which a row is indexed: strings without quotes, identifiers as digits and
dates in RFC 3339. -/
def Value.keyText : Value → String
  | .string s => s
  | .objectId id => id.hex
  | .dateTime millis => CivilTime.rfc3339 millis.toInt
  | v => v.text

end DocQuery
