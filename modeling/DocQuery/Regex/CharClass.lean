import DocQuery.Unicode.Category
import DocQuery.Unicode.Folding
import DocQuery.Unicode.Property
import DocQuery.Unicode.Script

/-!
# Classes of characters

A class is built from ranges and named properties by set operations. Folding a class adds every
character that differs from one of its members in case alone.

## Main definitions

* `CharClass`: the classes
* `CharClass.contains`: membership
-/

namespace DocQuery.Regex

/-- The classes of characters. -/
inductive CharClass where
  /-- The class without members. -/
  | none
  | range (low high : Char)
  | digit
  | space
  | word
  | category (name : String)
  | script (name : String)
  | alphabetic
  | uppercase
  | lowercase
  | complement (a : CharClass)
  | union (a b : CharClass)
  | inter (a b : CharClass)
  | diff (a b : CharClass)
  | symmDiff (a b : CharClass)
  /-- The class together with the characters that differ from a member in case alone. -/
  | folded (a : CharClass)
  deriving DecidableEq

namespace CharClass

/-- Whether a character is a member. -/
def contains : CharClass → Char → Bool
  | none, _ => false
  | range low high, c => decide (low ≤ c) && decide (c ≤ high)
  | digit, c => Unicode.isDecimalDigit c
  | space, c => Unicode.isWhitespace c
  | word, c => Unicode.isWord c
  | category name, c => Unicode.inCategory name c
  | script name, c => Unicode.script c == name
  | alphabetic, c => Unicode.isAlphabetic c
  | uppercase, c => Unicode.isUppercase c
  | lowercase, c => Unicode.isLowercase c
  | complement a, c => !a.contains c
  | union a b, c => a.contains c || b.contains c
  | inter a b, c => a.contains c && b.contains c
  | diff a b, c => a.contains c && !b.contains c
  | symmDiff a b, c => a.contains c != b.contains c
  | folded a, c => a.contains c || (Unicode.foldOrbit c.toNat).any fun n => a.contains (Char.ofNat n)

/-- The class of one character. -/
def single (c : Char) : CharClass := range c c

/-- The class of every character. -/
def all : CharClass := complement none

/-- The union of a list of classes. -/
def ofList (classes : List CharClass) : CharClass := classes.foldr union none

/-- The ASCII class with the given name. -/
def ascii? : String → Option CharClass
  | "alnum" => some (ofList [range '0' '9', range 'A' 'Z', range 'a' 'z'])
  | "alpha" => some (union (range 'A' 'Z') (range 'a' 'z'))
  | "ascii" => some (range '\x00' '\x7f')
  | "blank" => some (union (single '\t') (single ' '))
  | "cntrl" => some (union (range '\x00' '\x1f') (single '\x7f'))
  | "digit" => some (range '0' '9')
  | "graph" => some (range '!' '~')
  | "lower" => some (range 'a' 'z')
  | "print" => some (range ' ' '~')
  | "punct" => some (ofList [range '!' '/', range ':' '@', range '[' (Char.ofNat 96), range '\x7b' '~'])
  | "space" => some (union (range '\t' '\r') (single ' '))
  | "upper" => some (range 'A' 'Z')
  | "word" => some (ofList [range '0' '9', range 'A' 'Z', single '_', range 'a' 'z'])
  | "xdigit" => some (ofList [range '0' '9', range 'A' 'F', range 'a' 'f'])
  | _ => Option.none

/-- The ASCII class of word characters. -/
def asciiWord : CharClass := ofList [range '0' '9', range 'A' 'Z', single '_', range 'a' 'z']

end CharClass

end DocQuery.Regex
