import DocQuery.Json.Number

/-!
# Reading JSON text

The grammar of JSON, without extensions: values nest up to a fixed depth, strings contain no bare
control characters, and surrogates in escapes come in pairs.

## Main definitions

* `Json.readValue?`: the value at the start of a text, and the rest
* `Json.read?`: the value that a whole text writes, with the members of objects in the order of their
  names

## Design notes

Every loop takes one step of fuel for each character, which the length of the text bounds.
-/

namespace DocQuery.Json

/-- How deeply arrays and objects can nest. -/
def maxDepth : Nat := 127

/-- A text without the blanks at its start. -/
def skipBlanks (chars : List Char) : List Char :=
  chars.dropWhile fun c => c = ' ' ∨ c = '\n' ∨ c = '\t' ∨ c = '\r'

/-- The number that four hexadecimal digits write, and the rest. -/
def readUnit? : List Char → Option (Nat × List Char)
  | a :: b :: c :: d :: rest => (Hex.toNat? [a, b, c, d]).map (·, rest)
  | _ => none

/-- The character behind `\u`, which two escapes write if it needs surrogates, and the rest. -/
def readUnicodeEscape? (chars : List Char) : Option (Char × List Char) := do
  let (unit, rest) ← readUnit? chars
  if 0xdc00 ≤ unit ∧ unit ≤ 0xdfff then none
  else if 0xd800 ≤ unit ∧ unit ≤ 0xdbff then
    match rest with
    | '\\' :: 'u' :: more =>
      let (low, rest) ← readUnit? more
      if 0xdc00 ≤ low ∧ low ≤ 0xdfff then
        some (Char.ofNat (0x10000 + (unit - 0xd800) * 0x400 + (low - 0xdc00)), rest)
      else none
    | _ => none
  else some (Char.ofNat unit, rest)

/-- The character behind a backslash, and the rest. -/
def readEscape? : List Char → Option (Char × List Char)
  | '"' :: rest => some ('"', rest)
  | '\\' :: rest => some ('\\', rest)
  | '/' :: rest => some ('/', rest)
  | 'b' :: rest => some ('\x08', rest)
  | 'f' :: rest => some ('\x0c', rest)
  | 'n' :: rest => some ('\n', rest)
  | 'r' :: rest => some ('\r', rest)
  | 't' :: rest => some ('\t', rest)
  | 'u' :: rest => readUnicodeEscape? rest
  | _ => none

/-- The characters of a string up to its closing quote, and the rest. -/
def readChars? : Nat → List Char → Option (List Char × List Char)
  | 0, _ => none
  | _ + 1, [] => none
  | fuel + 1, c :: rest =>
    if c = '"' then some ([], rest)
    else if c = '\\' then do
      let (c, rest) ← readEscape? rest
      let (chars, rest) ← readChars? fuel rest
      return (c :: chars, rest)
    else if c.toNat < 32 then none
    else do
      let (chars, rest) ← readChars? fuel rest
      return (c :: chars, rest)

/-- A string behind its opening quote, and the rest. -/
def readString? (chars : List Char) : Option (String × List Char) := do
  let (content, rest) ← readChars? (chars.length + 1) chars
  return (String.ofList content, rest)

/-- The rest of a text that starts with a given word. -/
def readWord? (word : String) (chars : List Char) : Option (List Char) :=
  if word.toList.isPrefixOf chars then some (chars.drop word.length) else none

mutual

/-- The value at the start of a text, and the rest. -/
def readValue? : Nat → Nat → List Char → Option (Json × List Char)
  | 0, _, _ => none
  | fuel + 1, depth, chars =>
    match skipBlanks chars with
    | [] => none
    | 'n' :: rest => (readWord? "ull" rest).map (.null, ·)
    | 't' :: rest => (readWord? "rue" rest).map (.bool true, ·)
    | 'f' :: rest => (readWord? "alse" rest).map (.bool false, ·)
    | '"' :: rest => (readString? rest).map fun (s, rest) => (.string s, rest)
    | '[' :: rest => do
      if depth = 0 then none
      match skipBlanks rest with
      | ']' :: rest => return (.array [], rest)
      | rest =>
        let (items, rest) ← readItems? fuel (depth - 1) rest
        return (.array items, rest)
    | '\x7b' :: rest => do
      if depth = 0 then none
      match skipBlanks rest with
      | '\x7d' :: rest => return (.object [], rest)
      | rest =>
        let (members, rest) ← readMembers? fuel (depth - 1) rest
        return (ofMembers members, rest)
    | chars => readNumber? chars

/-- The items of an array up to its closing bracket, and the rest. -/
def readItems? : Nat → Nat → List Char → Option (List Json × List Char)
  | 0, _, _ => none
  | fuel + 1, depth, chars => do
    let (item, rest) ← readValue? fuel depth chars
    match skipBlanks rest with
    | ',' :: rest =>
      let (items, rest) ← readItems? fuel depth rest
      return (item :: items, rest)
    | ']' :: rest => return ([item], rest)
    | _ => none

/-- The members of an object up to its closing brace, and the rest. -/
def readMembers? : Nat → Nat → List Char → Option (List (String × Json) × List Char)
  | 0, _, _ => none
  | fuel + 1, depth, chars => do
    match skipBlanks chars with
    | '"' :: rest =>
      let (name, rest) ← readString? rest
      match skipBlanks rest with
      | ':' :: rest =>
        let (value, rest) ← readValue? fuel depth rest
        match skipBlanks rest with
        | ',' :: rest =>
          let (members, rest) ← readMembers? fuel depth rest
          return ((name, value) :: members, rest)
        | '\x7d' :: rest => return ([(name, value)], rest)
        | _ => none
      | _ => none
    | _ => none

end

/-- The value that a whole text writes. -/
def read? (text : String) : Option Json := do
  let chars := text.toList
  let (value, rest) ← readValue? (2 * chars.length + 2) maxDepth chars
  if (skipBlanks rest).isEmpty then some value else none

end DocQuery.Json
