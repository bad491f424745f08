import DocQuery.Text.Hex
import DocQuery.Toml.Basic
import DocQuery.Toml.Scalar

/-!
# Reading TOML

The grammar of TOML documents: comments, headers, and keys with values, one to a line.

## Main definitions

* `Toml.readValue?`: the value at the start of a text, and the rest
* `Toml.readDocument?`: the table that a whole text writes

## Design notes

Every loop takes one step of fuel for each character, which the length of the text bounds.
-/

namespace DocQuery.Toml

/-! ## Blanks and comments -/

/-- Whether a character is a blank inside a line. -/
def isBlank (c : Char) : Bool := c == ' ' || c == '\t'

/-- Whether a character can stand in a line as it is: no control except the tabulator. -/
def isPlain (c : Char) : Bool := c == '\t' || (decide (32 ≤ c.toNat) && c.toNat != 127)

/-- A text without the blanks at its start. -/
def skipBlanks (chars : List Char) : List Char := chars.dropWhile isBlank

/-- The rest behind a line end. -/
def skipNewline? : List Char → Option (List Char)
  | '\n' :: rest => some rest
  | '\r' :: '\n' :: rest => some rest
  | _ => none

/-- A text without the comment at its start, if there is one. -/
def skipComment : List Char → List Char
  | '#' :: rest => rest.dropWhile isPlain
  | chars => chars

/-- The rest behind blanks, a comment and the end of the line or of the text. -/
def skipLineEnd? (chars : List Char) : Option (List Char) :=
  match skipComment (skipBlanks chars) with
  | [] => some []
  | rest => skipNewline? rest

/-- A text without the blanks, comments and line ends at its start. -/
def skipSpace : Nat → List Char → List Char
  | 0, chars => chars
  | fuel + 1, chars =>
    let rest := skipComment (skipBlanks chars)
    match skipNewline? rest with
    | some more => skipSpace fuel more
    | none => rest

/-! ## Strings -/

/-- The character that `count` hexadecimal digits write, and the rest. -/
def readCodePoint? (count : Nat) (chars : List Char) : Option (Char × List Char) := do
  let digits := chars.take count
  if digits.length ≠ count then none
  let n ← Hex.toNat? digits
  if n < 0xd800 ∨ (0xdfff < n ∧ n < 0x110000) then some (Char.ofNat n, chars.drop count) else none

/-- The character behind a backslash, and the rest. -/
def readEscape? : List Char → Option (Char × List Char)
  | 'b' :: rest => some ('\x08', rest)
  | 't' :: rest => some ('\t', rest)
  | 'n' :: rest => some ('\n', rest)
  | 'f' :: rest => some ('\x0c', rest)
  | 'r' :: rest => some ('\r', rest)
  | 'e' :: rest => some ('\x1b', rest)
  | '"' :: rest => some ('"', rest)
  | '\\' :: rest => some ('\\', rest)
  | 'x' :: rest => readCodePoint? 2 rest
  | 'u' :: rest => readCodePoint? 4 rest
  | 'U' :: rest => readCodePoint? 8 rest
  | _ => none

/-- The characters of a string of one line up to its closing quote, and the rest. A string in
double quotes has escapes, one in single quotes has none. -/
def readLine? (quote : Char) : Nat → List Char → Option (List Char × List Char)
  | 0, _ => none
  | _ + 1, [] => none
  | fuel + 1, c :: rest =>
    if c = quote then some ([], rest)
    else if c = '\\' ∧ quote = '"' then do
      let (c, rest) ← readEscape? rest
      let (chars, rest) ← readLine? quote fuel rest
      return (c :: chars, rest)
    else if isPlain c then do
      let (chars, rest) ← readLine? quote fuel rest
      return (c :: chars, rest)
    else none

/-- The quotes at the start of a text that closes a string of many lines: the last three close it,
and up to two before them belong to the string. -/
def closingQuotes? (quote : Char) (chars : List Char) : Option (Nat × List Char) :=
  let count := min (chars.takeWhile (· == quote)).length 5
  if 3 ≤ count then some (count - 3, chars.drop count) else none

/-- The characters of a string of many lines up to its closing quotes, and the rest. A backslash at
the end of a line takes away the blanks and line ends behind it. -/
def readLines? (quote : Char) : Nat → List Char → Option (List Char × List Char)
  | 0, _ => none
  | _ + 1, [] => none
  | fuel + 1, c :: rest =>
    match closingQuotes? quote (c :: rest) with
    | some (extra, rest) => some (List.replicate extra quote, rest)
    | none =>
      if c = '\\' ∧ quote = '"' then
        match skipNewline? (skipBlanks rest) with
        | some more =>
          readLines? quote fuel
            (more.dropWhile fun c => isBlank c || c == '\n' || c == '\r')
        | none => do
          let (c, rest) ← readEscape? rest
          let (chars, rest) ← readLines? quote fuel rest
          return (c :: chars, rest)
      else
        match skipNewline? (c :: rest) with
        | some more => do
          let (chars, rest) ← readLines? quote fuel more
          return ('\n' :: chars, rest)
        | none =>
          if isPlain c then do
            let (chars, rest) ← readLines? quote fuel rest
            return (c :: chars, rest)
          else none

/-- A string of one line behind its opening quote, and the rest. -/
def readLineString? (quote : Char) (chars : List Char) : Option (String × List Char) :=
  (readLine? quote (chars.length + 1) chars).map fun (content, rest) =>
    (String.ofList content, rest)

/-- A string of one or of many lines, from its first quote on, and the rest. A line end right
behind the opening quotes does not count. -/
def readString? (quote : Char) : List Char → Option (String × List Char)
  | a :: b :: c :: rest =>
    if a = quote ∧ b = quote ∧ c = quote then
      let body := (skipNewline? rest).getD rest
      (readLines? quote (body.length + 1) body).map fun (content, rest) =>
        (String.ofList content, rest)
    else if a = quote then readLineString? quote (b :: c :: rest)
    else none
  | a :: rest => if a = quote then readLineString? quote rest else none
  | [] => none

/-! ## Keys -/

/-- Whether a character can stand in a key without quotes. -/
def isBareKeyChar (c : Char) : Bool := c.isAlphanum || c == '_' || c == '-'

/-- One part of a dotted key, and the rest. -/
def readKeyPart? (chars : List Char) : Option (String × List Char) :=
  match chars with
  | '"' :: rest => readLineString? '"' rest
  | '\'' :: rest => readLineString? '\'' rest
  | _ =>
    let (name, rest) := chars.span isBareKeyChar
    if name.isEmpty then none else some (String.ofList name, rest)

/-- A dotted key, and the rest without blanks at its start. -/
def readKey? : Nat → List Char → Option (List String × List Char)
  | 0, _ => none
  | fuel + 1, chars => do
    let (part, rest) ← readKeyPart? (skipBlanks chars)
    match skipBlanks rest with
    | '.' :: rest =>
      let (parts, rest) ← readKey? fuel rest
      return (part :: parts, rest)
    | rest => return ([part], rest)

/-! ## Values -/

/-- Whether a character can stand in a number, a date or a truth value. -/
def isWordChar (c : Char) : Bool := isBareKeyChar c || c == '+' || c == '.' || c == ':'

/-- The word at the start of a text, and the rest. A date and a time of day can stand apart. -/
def takeWord (chars : List Char) : List Char × List Char :=
  let (word, rest) := chars.span isWordChar
  match rest with
  | ' ' :: digit :: _ =>
    if digit.isDigit && (TomlScalar.skipDate? word == some []) then
      let (time, rest) := (rest.drop 1).span isWordChar
      (word ++ ' ' :: time, rest)
    else (word, rest)
  | _ => (word, rest)

/-- The truth value, the number or the date at the start of a text, and the rest. -/
def readWord? (chars : List Char) : Option (Toml × List Char) :=
  let (word, rest) := takeWord chars
  if word == "true".toList then some (.boolean true, rest)
  else if word == "false".toList then some (.boolean false, rest)
  else if TomlScalar.isNumber word || TomlScalar.isDateTime word then some (.scalar, rest)
  else none

mutual

/-- The value at the start of a text, and the rest. -/
def readValue? : Nat → List Char → Option (Toml × List Char)
  | 0, _ => none
  | fuel + 1, chars =>
    match chars with
    | '"' :: _ => (readString? '"' chars).map fun (s, rest) => (.string s, rest)
    | '\'' :: _ => (readString? '\'' chars).map fun (s, rest) => (.string s, rest)
    | '[' :: rest => (readItems? fuel rest).map fun (items, rest) => (.array items, rest)
    | '\x7b' :: rest =>
      (readEntries? fuel [] rest).map fun (entries, rest) => (.table .inline entries, rest)
    | _ => readWord? chars

/-- The items of an array up to its closing bracket, and the rest. -/
def readItems? : Nat → List Char → Option (List Toml × List Char)
  | 0, _ => none
  | fuel + 1, chars =>
    match skipSpace (chars.length + 1) chars with
    | ']' :: rest => some ([], rest)
    | chars => do
      let (item, rest) ← readValue? fuel chars
      match skipSpace (rest.length + 1) rest with
      | ',' :: rest =>
        let (items, rest) ← readItems? fuel rest
        return (item :: items, rest)
      | ']' :: rest => return ([item], rest)
      | _ => none

/-- The entries of an inline table up to its closing brace, added to those before, and the rest. -/
def readEntries? : Nat → Entries → List Char → Option (Entries × List Char)
  | 0, _, _ => none
  | fuel + 1, entries, chars =>
    match skipSpace (chars.length + 1) chars with
    | '\x7d' :: rest => some (entries, rest)
    | chars => do
      let (keys, rest) ← readKey? (chars.length + 1) chars
      match rest with
      | '=' :: rest =>
        let (value, rest) ← readValue? fuel (skipBlanks rest)
        let entries ← put? entries keys value
        match skipSpace (rest.length + 1) rest with
        | ',' :: rest => readEntries? fuel entries rest
        | '\x7d' :: rest => return (entries, rest)
        | _ => none
      | _ => none

end

/-! ## Documents -/

/-- The table read so far, and the path of the header above the next line. -/
structure Draft where
  root : Entries
  path : List String

/-- A header of a table behind its first bracket, and the rest of its line. -/
def readHeader? (draft : Draft) (chars : List Char) : Option (Draft × List Char) :=
  match chars with
  | '[' :: rest => do
    let (keys, rest) ← readKey? (rest.length + 1) rest
    match rest with
    | ']' :: ']' :: rest => return (⟨← openArray? draft.root keys, keys⟩, rest)
    | _ => none
  | _ => do
    let (keys, rest) ← readKey? (chars.length + 1) chars
    match rest with
    | ']' :: rest => return (⟨← openTable? draft.root keys, keys⟩, rest)
    | _ => none

/-- A key with its value, and the rest of its line. -/
def readEntry? (draft : Draft) (chars : List Char) : Option (Draft × List Char) := do
  let (keys, rest) ← readKey? (chars.length + 1) chars
  match rest with
  | '=' :: rest =>
    let (value, rest) ← readValue? (rest.length + 2) (skipBlanks rest)
    let root ← modifyAt? draft.root draft.path fun entries => put? entries keys value
    return (⟨root, draft.path⟩, rest)
  | _ => none

/-- The table of the remaining lines, added to the table read so far. -/
def readLinesOf? : Nat → Draft → List Char → Option Entries
  | 0, _, _ => none
  | fuel + 1, draft, chars =>
    match skipSpace (chars.length + 1) chars with
    | [] => some draft.root
    | '[' :: rest => do
      let (draft, rest) ← readHeader? draft rest
      readLinesOf? fuel draft (← skipLineEnd? rest)
    | chars => do
      let (draft, rest) ← readEntry? draft chars
      readLinesOf? fuel draft (← skipLineEnd? rest)

/-- The table that a whole text writes. A byte-order mark at the start does not count. -/
def readDocument? (text : String) : Option Entries :=
  let chars := match text.toList with
    | '\ufeff' :: rest => rest
    | chars => chars
  readLinesOf? (chars.length + 1) ⟨[], []⟩ chars

end DocQuery.Toml
