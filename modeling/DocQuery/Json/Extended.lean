import DocQuery.Double.Reader
import DocQuery.Json.Basic
import DocQuery.QueryError
import DocQuery.Time.Rfc3339
import DocQuery.Value.Decimal

/-!
# Values as JSON

Values that JSON has no notation for are written as objects with a marked name, such as `$oid` or
`$date`. Inside a document such objects are read back as the values they stand for; what has a
marked name and a wrong shape is refused. The members of the outermost object are never read in this
way as a whole.

## Main definitions

* `Value.toJson`, `Document.toJson`: the JSON form of a value and of a document
* `Json.toValue?`: the value that JSON stands for
* `Json.toDocument`: the document that a JSON object stands for
-/

namespace DocQuery

/-! ## Writing -/

/-- The bytes of a decimal number, least significant first. -/
def Decimal128.bytes (x : Decimal128) : List Nat :=
  (List.range 16).map fun i => x.bits.toNat / 256 ^ i % 256

mutual

/-- The JSON form of a value, with the members of documents in their order. -/
def Value.toJson (v : Value) : Json :=
  match v with
  | .minKey => .object [("$minKey", .int 1)]
  | .undefined => .object [("$undefined", .bool true)]
  | .null => .null
  | .boolean b => .bool b
  | .int32 n => .int n.toInt
  | .int64 n => .int n.toInt
  | .double x => if x.isFinite then .double x else .null
  | .decimal128 x =>
    .object [("$numberDecimalBytes", .array (x.bytes.map fun (b : Nat) => .int b))]
  | .string s => .string s
  | .symbol s => .object [("$symbol", .string s)]
  | .document fields => .object (Value.fieldsToJson fields)
  | .array items => .array (Value.itemsToJson items)
  | .binary subtype bytes =>
    if subtype = 0 then .array (bytes.map fun b => .int b.toNat)
    else
      .object [("$binary", .object
        [("base64", .string (String.ofList (Base64.encode bytes))),
         ("subType", .string (String.ofList (Hex.ofNat 2 subtype.toNat)))])]
  | .objectId id => .object [("$oid", .string id.hex)]
  | .dateTime millis =>
    .object [("$date", .object [("$numberLong", .string (toString millis.toInt))])]
  | .timestamp time increment =>
    .object [("$timestamp", .object [("t", .int time.toNat), ("i", .int increment.toNat)])]
  | .regularExpression pattern options =>
    .object [("$regularExpression", .object
      [("pattern", .string pattern), ("options", .string options)])]
  | .dbPointer collection id =>
    .object [("$dbPointer", .object
      [("$ref", .string collection), ("$id", .object [("$oid", .string id.hex)])])]
  | .javaScript code => .object [("$code", .string code)]
  | .javaScriptWithScope code scope =>
    .object [("$code", .string code), ("$scope", .object (Value.fieldsToJson scope))]
  | .maxKey => .object [("$maxKey", .int 1)]
termination_by structural v

/-- The JSON forms of the items of an array. -/
def Value.itemsToJson (items : List Value) : List Json :=
  match items with
  | [] => []
  | item :: rest => item.toJson :: Value.itemsToJson rest
termination_by structural items

/-- The JSON forms of the fields of a document. -/
def Value.fieldsToJson (fields : List (String × Value)) : List (String × Json) :=
  match fields with
  | [] => []
  | (key, value) :: rest => (key, value.toJson) :: Value.fieldsToJson rest
termination_by structural fields

end

/-- The JSON form of a document. -/
def Document.toJson (d : Document) : Json := .object (Value.fieldsToJson d)

/-! ## Reading -/

namespace Json

/-- An integer in the narrowest form that holds it: thirty-two bits, sixty-four bits or a double. -/
def integerValue (n : Int) : Value :=
  if -(2 ^ 31) ≤ n ∧ n < 2 ^ 31 then .int32 (Int32.ofInt n)
  else if -(2 ^ 63) ≤ n ∧ n < 2 ^ 63 then .int64 (Int64.ofInt n)
  else .double (Double.ofInt n)

/-- The integer that a text writes, if it is in the range of signed words of the given width. -/
def boundedInteger? (width : Nat) (s : String) : Option Int := do
  let n ← Integer.readSigned? s.toList
  if -(2 ^ (width - 1)) ≤ n ∧ n < 2 ^ (width - 1) then some n else none

/-- The identifier that twenty-four hexadecimal digits write. -/
def objectId? (s : String) : Option ObjectId :=
  if s.length = 24 then (Hex.toNat? s.toList).map fun n => ⟨BitVec.ofNat 96 n⟩ else none

/-- The bytes that a universal identifier writes: thirty-two hexadecimal digits, or the same in
five groups with hyphens, which can stand in braces or behind `urn:uuid:`. -/
def uuidBytes? (s : String) : Option (List UInt8) :=
  let chars := s.toList
  let simple? (digits : List Char) : Option (List UInt8) :=
    if digits.length = 32 then Hex.toBytes? digits else none
  let hyphenated? (text : List Char) : Option (List UInt8) :=
    let marks := [8, 13, 18, 23].map fun i => text[i]?
    if text.length = 36 ∧ marks.all (· == some '-') then simple? (text.filter (· != '-')) else none
  let braced? : Option (List UInt8) :=
    if chars.length = 38 ∧ chars.head? = some '\x7b' ∧ chars.getLast? = some '\x7d' then
      hyphenated? ((chars.drop 1).take 36)
    else none
  let urn := "urn:uuid:".toList
  let named? : Option (List UInt8) :=
    if urn.isPrefixOf chars then hyphenated? (chars.drop urn.length) else none
  simple? chars <|> hyphenated? chars <|> braced? <|> named?

/-- The double that a text stands for. -/
def double? (s : String) : Option Double :=
  match s with
  | "Infinity" => some (Double.infinity false)
  | "-Infinity" => some (Double.infinity true)
  | "NaN" => some (Double.nan false)
  | _ => Double.read? s

/-- A text with its characters in order. -/
def sortChars (s : String) : String :=
  let put (c : Char) (sorted : List Char) : List Char :=
    sorted.takeWhile (· < c) ++ c :: sorted.dropWhile (· < c)
  String.ofList (s.toList.foldr put [])

/-- A number of milliseconds, as a point in time. -/
def dateTime? (n : Int) : Option Value :=
  if -(2 ^ 63) ≤ n ∧ n < 2 ^ 63 then some (.dateTime (Int64.ofInt n)) else none

/-- The point in time that the operand of `$date` stands for. -/
def date? : Json → Option Value
  | .object [("$numberLong", .string s)] => do dateTime? (← boundedInteger? 64 s)
  | .string s => do dateTime? (← CivilTime.ofRfc3339? s)
  | .int n => dateTime? n
  | _ => none

/-- A number of thirty-two bits without a sign. -/
def word? (n : Int) : Option UInt32 :=
  if 0 ≤ n ∧ n < 2 ^ 32 then some (UInt32.ofNat n.toNat) else none

/-- The names that mark an object as a value, in the order in which they are looked for, with the
value that the members of such an object stand for. The members are in the order of their names. -/
def marks : List (String × (List (String × Json) → Option Value)) :=
  [("$oid", fun
      | [(_, .string s)] => (objectId? s).map .objectId
      | _ => none),
   ("$symbol", fun
      | [(_, .string s)] => some (.symbol s)
      | _ => none),
   ("$regularExpression", fun
      | [(_, .object [("options", .string options), ("pattern", .string pattern)])] =>
        if pattern.toList.contains '\x00' || options.toList.contains '\x00' then none
        else some (.regularExpression pattern (sortChars options))
      | _ => none),
   ("$numberInt", fun
      | [(_, .string s)] => (boundedInteger? 32 s).map fun n => .int32 (Int32.ofInt n)
      | _ => none),
   ("$numberLong", fun
      | [(_, .string s)] => (boundedInteger? 64 s).map fun n => .int64 (Int64.ofInt n)
      | _ => none),
   ("$numberDouble", fun
      | [(_, .string s)] => (double? s).map .double
      | _ => none),
   ("$numberDecimal", fun
      | [(_, .string s)] => (Decimal128.read? s).map .decimal128
      | _ => none),
   ("$binary", fun
      | [(_, .object [("base64", .string text), ("subType", .string subtype)])] => do
        let bytes ← Base64.decode? text.toList
        match ← Hex.toBytes? subtype.toList with
        | [b] => return .binary b bytes
        | _ => none
      | _ => none),
   ("$uuid", fun
      | [(_, .string s)] => (uuidBytes? s).map (.binary 4)
      | _ => none),
   ("$code", fun
      | [(_, .string code)] => some (.javaScript code)
      | [(_, .string code), ("$scope", .null)] => some (.javaScript code)
      | _ => none),
   ("$timestamp", fun
      | [(_, .object [("i", .int increment), ("t", .int time)])] => do
        return .timestamp (← word? time) (← word? increment)
      | _ => none),
   ("$date", fun
      | [(_, operand)] => date? operand
      | _ => none),
   ("$minKey", fun
      | [(_, .int 1)] => some .minKey
      | _ => none),
   ("$maxKey", fun
      | [(_, .int 1)] => some .maxKey
      | _ => none),
   ("$dbPointer", fun
      | [(_, .object [("$id", .object [("$oid", .string s)]), ("$ref", .string collection)])] =>
        (objectId? s).map (.dbPointer collection)
      | _ => none),
   ("$undefined", fun
      | [(_, .bool true)] => some .undefined
      | _ => none)]

/-- What the first mark among the members of an object makes of them, if there is a mark. -/
def marked? (members : List (String × Json)) : Option (Option Value) :=
  (marks.find? fun mark => members.any fun m => m.1 == mark.1).map fun mark => mark.2 members

mutual

/-- The value that JSON stands for. The members of objects have to be in the order of their
names. -/
def toValue? (v : Json) : Option Value :=
  match v with
  | .null => some .null
  | .bool b => some (.boolean b)
  | .int n => some (integerValue n)
  | .double x => some (.double x)
  | .string s => some (.string s)
  | .array items => return .array (← toValues? items)
  | .object [("$code", .string code), ("$scope", .object scope)] =>
    return .javaScriptWithScope code (← toFields? scope)
  | .object members =>
    match marked? members with
    | some result => result
    | none => return .document (← toFields? members)
termination_by structural v

/-- The values that the items of an array stand for. -/
def toValues? (items : List Json) : Option (List Value) :=
  match items with
  | [] => some []
  | item :: rest => return (← toValue? item) :: (← toValues? rest)
termination_by structural items

/-- The fields that the members of an object stand for. -/
def toFields? (members : List (String × Json)) : Option Document :=
  match members with
  | [] => some []
  | (name, value) :: rest => return (name, ← toValue? value) :: (← toFields? rest)
termination_by structural members

end

/-- The document that a JSON object stands for. -/
def toDocument (v : Json) : Except QueryError Document :=
  match v with
  | .object members =>
    match toFields? members with
    | some d => .ok d
    | none => .error .unfit
  | _ => .error .notObject

end Json

end DocQuery
