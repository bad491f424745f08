import DocQuery.Regex.CharClass

/-!
# Patterns

The structure of a regular expression, without what does not bear on whether a text matches: groups
do not remember what they matched, and repetitions have no preference.

## Main definitions

* `Assertion`: conditions on a position of a text
* `Pattern`: the patterns
-/

namespace DocQuery.Regex

/-- Conditions on a position of a text. -/
inductive Assertion where
  | textStart
  | textEnd
  /-- The start of a line; lines end in a line feed or, with `crlf`, also in a carriage return. -/
  | lineStart (crlf : Bool)
  | lineEnd (crlf : Bool)
  /-- A word character stands on exactly one side; without `unicode` only ASCII letters count. -/
  | wordBoundary (unicode : Bool)
  | notWordBoundary (unicode : Bool)
  | wordStart (unicode : Bool)
  | wordEnd (unicode : Bool)
  | wordStartHalf (unicode : Bool)
  | wordEndHalf (unicode : Bool)
  deriving DecidableEq

/-- The patterns. -/
inductive Pattern where
  | empty
  /-- One character of a class. -/
  | one (c : CharClass)
  | assert (a : Assertion)
  | seq (p q : Pattern)
  | alt (p q : Pattern)
  /-- At least `least` repetitions and, if there is a bound, at most `most?`. -/
  | rep (p : Pattern) (least : Nat) (most? : Option Nat)
  deriving DecidableEq

namespace Pattern

/-- One pattern after another. -/
def seqAll (ps : List Pattern) : Pattern :=
  match ps with
  | [] => empty
  | [p] => p
  | p :: rest => seq p (seqAll rest)

/-- One of the given patterns. -/
def altAll (ps : List Pattern) : Pattern :=
  match ps with
  | [] => empty
  | [p] => p
  | p :: rest => alt p (altAll rest)

end Pattern

end DocQuery.Regex
