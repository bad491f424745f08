import DocQuery.Regex.Pattern

/-!
# Reading patterns

The grammar of patterns: alternation, concatenation, repetition, groups with flags, bracketed classes
with set operations, escapes for characters, classes and assertions. Look-around and references to
earlier groups are refused, as is every escape that has no meaning.

## Main definitions

* `Flags`: what flags decide about the meaning of the characters that follow
* `ReadState`: the characters still to read, the flags in force and the group names so far
* `readPattern?`: the pattern that a text writes

## Design notes

A pattern that nests too deeply is refused, so every part carries the depth of its nesting. All
loops take one step of fuel for each character, which the length of the text bounds.
-/

namespace DocQuery.Regex

/-- What flags decide about the meaning of the characters that follow. -/
structure Flags where
  ignoreCase : Bool
  multiLine : Bool
  dotAll : Bool
  unicode : Bool
  crlf : Bool
  /-- Blanks and comments between the parts of a pattern are skipped. -/
  extended : Bool

/-- The state of reading. -/
structure ReadState where
  rest : List Char
  flags : Flags
  names : List String

/-- A step of reading, which fails or returns a result and the state behind it. -/
abbrev Read (α : Type) := StateT ReadState Option α

/-- A part of a pattern. -/
structure Part where
  pattern : Pattern
  /-- How deeply the part nests. -/
  depth : Nat
  /-- Whether a repetition can follow; flags cannot be repeated. -/
  repeatable : Bool

/-- A class being read, with how deeply it nests. -/
structure ClassPart where
  members : CharClass
  depth : Nat

/-- The set operations between the parts of a bracketed class. -/
inductive ClassOp where
  | inter
  | diff
  | symmDiff

/-- What an escape stands for. -/
inductive Escape where
  | char (c : Char)
  | members (c : CharClass)
  | assertion (a : Assertion)

/-- The greatest depth of nesting. -/
def maxNesting : Nat := 250

/-! ## Characters -/

/-- The next character, if there is one. -/
def peek? : Read (Option Char) := return (← get).rest.head?

/-- Whether the text ahead starts with the given one. -/
def startsWith (s : String) : Read Bool := return s.toList.isPrefixOf (← get).rest

/-- Passes a number of characters. -/
def skip (count : Nat) : Read Unit := modify fun st => { st with rest := st.rest.drop count }

/-- The next character, which is passed. -/
def next : Read Char := do
  match (← get).rest with
  | [] => failure
  | c :: rest => modify fun st => { st with rest }; return c

/-- A text without the blanks and comments at its start. A comment ends with its line. -/
def dropBlanks (inComment : Bool) : List Char → List Char
  | [] => []
  | c :: rest =>
    if inComment then dropBlanks (c != '\n') rest
    else if Unicode.isWhitespace c then dropBlanks false rest
    else if c = '#' then dropBlanks true rest
    else c :: rest

/-- Passes blanks and comments where the flags say that they do not count. -/
def skipBlanks : Read Unit := modify fun st =>
  if st.flags.extended then { st with rest := dropBlanks false st.rest } else st

/-- Passes one character and the blanks behind it; something must follow. -/
def skipToNext : Read Unit := do
  skip 1
  skipBlanks
  if (← peek?).isNone then failure

/-- The character of a code point, if it is one. -/
def charOfNat? (n : Nat) : Option Char :=
  if n < 0xd800 ∨ (0xdfff < n ∧ n < 0x110000) then some (Char.ofNat n) else none

/-- The number that a hexadecimal digit stands for. -/
def hexDigit? (c : Char) : Option Nat :=
  if '0' ≤ c ∧ c ≤ '9' then some (c.toNat - '0'.toNat)
  else if 'a' ≤ c ∧ c ≤ 'f' then some (c.toNat - 'a'.toNat + 10)
  else if 'A' ≤ c ∧ c ≤ 'F' then some (c.toNat - 'A'.toNat + 10)
  else none

/-! ## Classes under flags -/

namespace Flags

/-- A class together with the other cases of its members, where case does not count. Without
Unicode only ASCII letters have another case. -/
def fold (f : Flags) (c : CharClass) : CharClass :=
  if f.ignoreCase then
    (if f.unicode then .folded c else .inter (.folded c) (.range '\x00' '\x7f'))
  else c

/-- A class or its complement. Without Unicode a complement would hold bytes that are no
characters, and is refused. -/
def complementIf? (f : Flags) (negated : Bool) (c : CharClass) : Option CharClass :=
  if negated then (if f.unicode then some (.complement c) else none) else some c

/-- The classes of the one-letter escapes, without Unicode those of ASCII. -/
def perlClass? (f : Flags) : Char → Option CharClass
  | 'd' => some (if f.unicode then .digit else .range '0' '9')
  | 's' => some (if f.unicode then .space else .union (.range '\t' '\r') (.single ' '))
  | 'w' => some (if f.unicode then .word else CharClass.asciiWord)
  | _ => none

/-- The pattern of one character. -/
def char (f : Flags) (c : Char) : Pattern := .one (f.fold (.single c))

/-- The pattern of a dot: any character, or any that does not end a line. -/
def dot? (f : Flags) : Option Pattern :=
  if !f.unicode then none
  else if f.dotAll then some (.one .all)
  else if f.crlf then some (.one (.complement (.union (.single '\r') (.single '\n'))))
  else some (.one (.complement (.single '\n')))

/-- The flag of a letter, set or cleared; swapping greed has no bearing on whether a text
matches. -/
def set? (f : Flags) (letter : Char) (value : Bool) : Option Flags :=
  match letter with
  | 'i' => some { f with ignoreCase := value }
  | 'm' => some { f with multiLine := value }
  | 's' => some { f with dotAll := value }
  | 'U' => some f
  | 'u' => some { f with unicode := value }
  | 'R' => some { f with crlf := value }
  | 'x' => some { f with extended := value }
  | _ => none

end Flags

/-! ## Properties by name -/

/-- The class of a property that has no value, in lower case and without separators. -/
def propertyOfName? (name : String) : Option CharClass :=
  match name with
  | "alphabetic" | "alpha" => some .alphabetic
  | "uppercase" | "upper" => some .uppercase
  | "lowercase" | "lower" => some .lowercase
  | "whitespace" | "wspace" | "space" => some .space
  | _ =>
    match Unicode.categoryOfName? name with
    | some category => some (.category category)
    | none => (Unicode.scriptOfName? name).map .script

/-- The class of a property with a value. -/
def propertyOfValue? (name value : String) : Option CharClass :=
  if name == "gc" || name == "generalcategory" || name == "category" then
    (Unicode.categoryOfName? value).map .category
  else if name == "sc" || name == "script" || name == "scx" || name == "scriptextensions" then
    (Unicode.scriptOfName? value).map .script
  else none

/-- A name in lower case, without separators and without a leading `is`. -/
def propertyName (name : List Char) : String :=
  let loose := (Unicode.looseName name).toList
  match loose with
  | 'i' :: 's' :: rest => if rest.isEmpty then "is" else String.ofList rest
  | _ => String.ofList loose

/-- The parts of a text before and behind the first place where a text stands. -/
def splitAt? (mark : List Char) : List Char → Option (List Char × List Char)
  | [] => none
  | c :: rest =>
    if mark.isPrefixOf (c :: rest) then some ([], (c :: rest).drop mark.length)
    else (splitAt? mark rest).map fun (before, behind) => (c :: before, behind)

/-- The class that the text between the braces of a property escape names, and whether the text
asks for its complement. -/
def propertyOfText? (text : List Char) : Option (CharClass × Bool) :=
  match splitAt? ['!', '='] text with
  | some (name, value) =>
    (propertyOfValue? (propertyName name) (propertyName value)).map (·, true)
  | none =>
    match splitAt? [':'] text <|> splitAt? ['='] text with
    | some (name, value) =>
      (propertyOfValue? (propertyName name) (propertyName value)).map (·, false)
    | none => (propertyOfName? (propertyName text)).map (·, false)

/-! ## Escapes -/

/-- Hexadecimal digits, the given number of them, with blanks between where those do not count. -/
def readHexDigits : Nat → Nat → Read Nat
  | 0, value => return value
  | count + 1, value => do
    let digit ← hexDigit? (← next)
    if count != 0 then
      skipBlanks
    readHexDigits count (16 * value + digit)

/-- Characters up to a closing brace, which is passed. -/
def readToBrace : Nat → Read (List Char)
  | 0 => failure
  | fuel + 1 => do
    skipBlanks
    let c ← next
    if c = '\x7d' then return []
    else return c :: (← readToBrace fuel)

/-- The character of a hexadecimal escape, behind its letter. -/
def readHexChar (letter : Char) : Read Char := do
  skipBlanks
  let st ← get
  if st.rest.head? = some '\x7b' then
    skip 1
    let digits ← readToBrace (st.rest.length + 1)
    if digits.isEmpty then failure
    let value ← digits.foldlM (fun acc c => (hexDigit? c).map (16 * acc + ·)) 0
    let c ← charOfNat? value
    skipBlanks
    return c
  else
    let count := if letter = 'x' then 2 else if letter = 'u' then 4 else 8
    let value ← readHexDigits count 0
    if letter = 'x' && !st.flags.unicode && 128 ≤ value then failure
    let c ← charOfNat? value
    skipBlanks
    return c

/-- The class of a property escape, behind its letter. -/
def readProperty (negated : Bool) : Read CharClass := do
  skipBlanks
  let st ← get
  if !st.flags.unicode then failure
  let text ←
    if st.rest.head? = some '\x7b' then do
      skip 1
      readToBrace (st.rest.length + 1)
    else do
      let c ← next
      if c = '\\' then failure else pure [c]
  let (found, reversed) ← propertyOfText? text
  st.flags.complementIf? (negated != reversed) (st.flags.fold found)

/-- Characters that have a meaning of their own, and that an escape turns into themselves. -/
def metaCharacters : List Char := "\\.+*?()|[]\x7b\x7d^$#&-~".toList

/-- Whether an escape turns a character into itself. -/
def isEscapable (c : Char) : Bool :=
  metaCharacters.contains c || (decide (c.toNat < 128) && !(c.isAlphanum || c == '<' || c == '>'))

/-- Letters and hyphens at the start of a text, with blanks between where those do not count. -/
def readBoundaryName : Nat → Read (List Char)
  | 0 => failure
  | fuel + 1 => do
    match ← peek? with
    | some c =>
      if c.isAlpha || c == '-' then
        skip 1
        skipBlanks
        return c :: (← readBoundaryName fuel)
      else return []
    | none => return []

/-- The assertion behind `\b`: a word boundary, or one of the four kinds that braces name. Braces
that hold something else belong to a repetition. -/
def readBoundary : Read Assertion := do
  let st ← get
  let u := st.flags.unicode
  if st.rest.head? != some '\x7b' then return .wordBoundary u
  skipToNext
  let isName := (← peek?).any fun c => c.isAlpha || c == '-'
  if !isName then
    set st
    return .wordBoundary u
  let name ← readBoundaryName (st.rest.length + 1)
  if (← next) != '\x7d' then failure
  match String.ofList name with
  | "start" => return .wordStart u
  | "end" => return .wordEnd u
  | "start-half" => return .wordStartHalf u
  | "end-half" => return .wordEndHalf u
  | _ => failure

/-- An escape, behind the backslash. -/
def readEscape : Read Escape := do
  let f := (← get).flags
  let c ← next
  if isEscapable c then return .char c
  match c with
  | 'x' | 'u' | 'U' => return .char (← readHexChar c)
  | 'p' => return .members (← readProperty false)
  | 'P' => return .members (← readProperty true)
  | 'd' | 's' | 'w' => return .members (← f.perlClass? c)
  | 'D' | 'S' | 'W' => return .members (← f.complementIf? true (← f.perlClass? c.toLower))
  | 'a' => return .char '\x07'
  | 'f' => return .char '\x0c'
  | 't' => return .char '\t'
  | 'n' => return .char '\n'
  | 'r' => return .char '\r'
  | 'v' => return .char '\x0b'
  | 'A' => return .assertion .textStart
  | 'z' => return .assertion .textEnd
  | 'b' => return .assertion (← readBoundary)
  | 'B' => return .assertion (.notWordBoundary f.unicode)
  | '<' => return .assertion (.wordStart f.unicode)
  | '>' => return .assertion (.wordEnd f.unicode)
  | _ => failure

/-! ## Bracketed classes -/

/-- One item of a class: a character, or a class with a name. -/
def readClassItem : Read Escape := do
  let c ← next
  if c = '\\' then readEscape else return .char c

/-- The character that an item is, as a bound of a range. -/
def Escape.char? : Escape → Option Char
  | .char c => some c
  | _ => none

/-- A range, or an item that no range follows. -/
def readClassRange : Read ClassPart := do
  let unicode := (← get).flags.unicode
  let item ← readClassItem
  skipBlanks
  let st ← get
  let behind := match st.rest with
    | '-' :: rest => (if st.flags.extended then dropBlanks false rest else rest).head?
    | _ => some ']'
  if st.rest.isEmpty then failure
  if behind = some ']' || behind = some '-' then
    match item with
    | .char c => if !unicode && 128 ≤ c.toNat then failure else return ⟨.single c, 0⟩
    | .members c => return ⟨c, 0⟩
    | .assertion _ => failure
  else
    skipToNext
    let low ← item.char?
    let high ← (← readClassItem).char?
    if high < low || (!unicode && 128 ≤ high.toNat) then failure
    return ⟨.range low high, 0⟩

/-- A named ASCII class in a bracketed class, if one stands here. -/
def readAsciiClass? : Read (Option ClassPart) := do
  let st ← get
  match st.rest with
  | '[' :: ':' :: rest =>
    let negated := rest.head? = some '^'
    let inner := if negated then rest.drop 1 else rest
    let name := inner.takeWhile (· != ':')
    match inner.drop name.length with
    | ':' :: ']' :: behind =>
      match CharClass.ascii? (String.ofList name) with
      | some members =>
        let part ← st.flags.complementIf? negated (st.flags.fold members)
        set { st with rest := behind }
        return some ⟨part, 0⟩
      | none => return none
    | _ => return none
  | _ => return none

/-- The union of parts. -/
def ClassPart.union (parts : List ClassPart) : ClassPart :=
  match parts with
  | [part] => part
  | [] => ⟨.none, 0⟩
  | _ => ⟨CharClass.ofList (parts.map (·.members)), (parts.map (·.depth)).foldl max 0 + 1⟩

/-- A union of parts, joined to what stands before it by a set operation. -/
def ClassPart.join (f : Flags) (left? : Option (ClassOp × ClassPart)) (parts : List ClassPart) :
    ClassPart :=
  let right := union parts
  match left? with
  | none => right
  | some (op, left) =>
    let a := f.fold left.members
    let b := f.fold right.members
    let members := match op with
      | .inter => CharClass.inter a b
      | .diff => .diff a b
      | .symmDiff => .symmDiff a b
    ⟨members, max left.depth right.depth + 1⟩

/-- Passes the opening of a bracketed class: an optional complement sign, then hyphens, or a closing
bracket, that stand for themselves. Returns whether there is the sign, and those characters. -/
def readClassOpening : Read (Bool × List ClassPart) := do
  skipToNext
  let negated := (← peek?) = some '^'
  if negated then skipToNext
  let st ← get
  let rec hyphens : Nat → Read Nat
    | 0 => failure
    | fuel + 1 => do
      if (← peek?) = some '-' then
        skipToNext
        return (← hyphens fuel) + 1
      else return 0
  let count ← hyphens (st.rest.length + 1)
  if count = 0 && (← peek?) = some ']' then
    skipToNext
    return (negated, [⟨.single ']', 0⟩])
  else return (negated, List.replicate count ⟨.single '-', 0⟩)

mutual

/-- A bracketed class. -/
def readBracket : Nat → Read ClassPart
  | 0 => failure
  | fuel + 1 => do
    let f := (← get).flags
    let (negated, first) ← readClassOpening
    let set ← readClassRest fuel none first
    let members ← f.complementIf? negated (f.fold set.members)
    return ⟨members, set.depth + 1⟩

/-- The parts of a bracketed class up to its closing bracket. `left?` is what a set operation joins
to them, and `parts` are the parts so far, last first. -/
def readClassRest : Nat → Option (ClassOp × ClassPart) → List ClassPart → Read ClassPart
  | 0, _, _ => failure
  | fuel + 1, left?, parts => do
    skipBlanks
    let st ← get
    let operation (op : ClassOp) : Read ClassPart := do
      skip 2
      readClassRest fuel (some (op, ClassPart.join st.flags left? parts)) []
    match st.rest with
    | [] => failure
    | ']' :: _ =>
      skip 1
      return ClassPart.join st.flags left? parts
    | '[' :: _ =>
      match ← readAsciiClass? with
      | some part => readClassRest fuel left? (part :: parts)
      | none =>
        let part ← readBracket fuel
        readClassRest fuel left? (part :: parts)
    | '&' :: '&' :: _ => operation .inter
    | '-' :: '-' :: _ => operation .diff
    | '~' :: '~' :: _ => operation .symmDiff
    | _ =>
      let part ← readClassRange
      readClassRest fuel left? (part :: parts)

end

/-! ## Groups and repetitions -/

/-- The parts of a sequence, last first, as one part. -/
def Part.seq (parts : List Part) : Part :=
  match parts with
  | [] => ⟨.empty, 0, true⟩
  | [part] => part
  | _ =>
    ⟨.seqAll (parts.reverse.map (·.pattern)), (parts.map (·.depth)).foldl max 0 + 1, true⟩

/-- The branches of an alternation, last first, as one part. -/
def Part.alt (branches : List Part) : Part :=
  match branches with
  | [] => ⟨.empty, 0, true⟩
  | [part] => part
  | _ =>
    ⟨.altAll (branches.reverse.map (·.pattern)), (branches.map (·.depth)).foldl max 0 + 1, true⟩

/-- A repetition of the last part. -/
def repeatLast (least : Nat) (most? : Option Nat) : List Part → Option (List Part)
  | part :: before =>
    if part.repeatable then some (⟨.rep part.pattern least most?, part.depth + 1, true⟩ :: before)
    else none
  | [] => none

/-- Passes a question mark that asks for short matches. -/
def skipLazy : Read Unit := do
  if (← peek?) = some '?' then skip 1

/-- Decimal digits with blanks around them: their number, or none if there is no digit. Numbers of
more than thirty-two bits are refused. -/
def readCount : Read (Option Nat) := do
  modify fun st => { st with rest := st.rest.dropWhile Unicode.isWhitespace }
  let rec digits : Nat → Option Nat → Read (Option Nat)
    | 0, _ => failure
    | fuel + 1, value => do
      match ← peek? with
      | some c =>
        if c.isDigit then
          skip 1
          skipBlanks
          digits fuel (some (10 * value.getD 0 + (c.toNat - '0'.toNat)))
        else return value
      | none => return value
  let st ← get
  let value ← digits (st.rest.length + 1) none
  modify fun st => { st with rest := st.rest.dropWhile Unicode.isWhitespace }
  skipBlanks
  if value.any (2 ^ 32 ≤ ·) then failure
  return value

/-- The bounds of a counted repetition, from its opening brace on. -/
def readBounds : Read (Nat × Option Nat) := do
  skipToNext
  let least ← readCount
  let bounds ←
    if (← peek?) = some ',' then do
      skipToNext
      if (← peek?) = some '\x7d' then pure (← least, none)
      else
        let least ← least
        let most ← (← readCount)
        pure (least, some most)
    else pure (← least, some (← least))
  if (← next) != '\x7d' then failure
  skipBlanks
  if bounds.2.any (· < bounds.1) then failure
  return bounds

/-- Flag letters up to a colon or a closing parenthesis, which is passed and returned. `seen` holds
the letters so far, and `clear` tells whether they stand behind a minus sign. -/
def readFlags : Nat → List Char → Bool → Flags → Read (Flags × List Char × Char)
  | 0, _, _, _ => failure
  | fuel + 1, seen, clear, f => do
    let c ← next
    if c = ':' || c = ')' then
      if seen.head? = some '-' then failure
      return (f, seen, c)
    if seen.contains c then failure
    if c = '-' then readFlags fuel (c :: seen) true f
    else
      let f ← f.set? c (!clear)
      readFlags fuel (c :: seen) clear f

/-- Whether a character can be part of the name of a group. -/
def isNameChar (first : Bool) (c : Char) : Bool :=
  c == '_' || Unicode.isAlphabetic c ||
    (!first && (Unicode.isNumeric c || c == '.' || c == '[' || c == ']'))

/-- The name of a group, up to the closing angle bracket. No two groups share a name. -/
def readGroupName : Read Unit := do
  let st ← get
  let name := st.rest.takeWhile (· != '>')
  let valid := match name with
    | [] => false
    | c :: more => isNameChar true c && more.all (isNameChar false)
  let text := String.ofList name
  if !valid || st.names.contains text || (st.rest.drop name.length).isEmpty then failure
  set { st with rest := st.rest.drop (name.length + 1), names := text :: st.names }

/-- What opens a group: flags that hold up to the end of the surrounding group, or flags that hold
inside. -/
inductive Opening where
  | flags (f : Flags)
  | inner (f : Flags)

/-- Passes the opening of a group. -/
def readOpening : Read Opening := do
  skip 1
  skipBlanks
  let f := (← get).flags
  if (← startsWith "?=") || (← startsWith "?!") || (← startsWith "?<=") ||
      (← startsWith "?<!") then failure
  if ← startsWith "?P<" then
    skip 3
    readGroupName
    return .inner f
  else if ← startsWith "?<" then
    skip 2
    readGroupName
    return .inner f
  else if ← startsWith "?" then
    skip 1
    let (flags, seen, stop) ← readFlags ((← get).rest.length + 1) [] false f
    if stop = ')' then
      if seen.isEmpty then failure
      return .flags flags
    else return .inner flags
  else return .inner f

/-- A part that is neither a group nor a class nor a repetition. -/
def readPrimitive : Read Part := do
  let f := (← get).flags
  let part (p : Pattern) : Part := ⟨p, 0, true⟩
  let c ← next
  match c with
  | '\\' =>
    match ← readEscape with
    | .char c => return part (f.char c)
    | .members members => return part (.one members)
    | .assertion a => return part (.assert a)
  | '.' => return part (← f.dot?)
  | '^' => return part (.assert (if f.multiLine then .lineStart f.crlf else .textStart))
  | '$' => return part (.assert (if f.multiLine then .lineEnd f.crlf else .textEnd))
  | c => return part (f.char c)

/-- An alternation up to the end of its group. `branches` are the branches so far and `parts` the
parts of the current one, both last first. -/
def readAlternation : Nat → List Part → List Part → Read Part
  | 0, _, _ => failure
  | fuel + 1, branches, parts => do
    skipBlanks
    let again (least : Nat) (most? : Option Nat) : Read Part := do
      skip 1
      skipLazy
      let parts ← repeatLast least most? parts
      readAlternation fuel branches parts
    match ← peek? with
    | none | some ')' => return Part.alt (Part.seq parts :: branches)
    | some '|' =>
      skip 1
      readAlternation fuel (Part.seq parts :: branches) []
    | some '(' =>
      let outer := (← get).flags
      match ← readOpening with
      | .flags f =>
        modify fun st => { st with flags := f }
        readAlternation fuel branches (⟨.empty, 0, false⟩ :: parts)
      | .inner f =>
        modify fun st => { st with flags := f }
        let inner ← readAlternation fuel [] []
        if (← next) != ')' then failure
        modify fun st => { st with flags := outer }
        readAlternation fuel branches (⟨inner.pattern, inner.depth + 1, true⟩ :: parts)
    | some '[' =>
      let set ← readBracket fuel
      readAlternation fuel branches (⟨.one set.members, set.depth, true⟩ :: parts)
    | some '?' => again 0 (some 1)
    | some '*' => again 0 none
    | some '+' => again 1 none
    | some '\x7b' =>
      let (least, most?) ← readBounds
      skipLazy
      let parts ← repeatLast least most? parts
      readAlternation fuel branches parts
    | some _ =>
      let part ← readPrimitive
      readAlternation fuel branches (part :: parts)

/-- The pattern that a text writes, with the flags that hold at its start. -/
def readPattern? (source : String) (flags : Flags) : Option Pattern := do
  let chars := source.toList
  let (part, st) ← (readAlternation (2 * chars.length + 2) [] []).run ⟨chars, flags, []⟩
  if st.rest.isEmpty && part.depth ≤ maxNesting then some part.pattern else none

end DocQuery.Regex
