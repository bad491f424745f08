import DocQuery.Regex.Engine
import DocQuery.Regex.Matcher
import DocQuery.Regex.Reader

/-!
# A regular expression engine

An engine for callers that bring none of their own. It reads a pattern to its end and then matches
by sets of positions, and it has no limit on the size of a pattern.

## Main definitions

* `Regex.builtin`: the engine
-/

namespace DocQuery.Regex

/-- The flags at the start of a pattern. -/
def startFlags (ignoreCase multiLine : Bool) : Flags :=
  ⟨ignoreCase, multiLine, false, true, false, false⟩

/-- The text of a pattern that stands for a character as it is: one with a meaning of its own gets a
backslash. -/
def quoted (c : Char) : List Char := if metaCharacters.contains c then ['\\', c] else [c]

/-- An engine that matches by sets of positions. -/
instance builtin : Engine where
  escape text := String.ofList (text.toList.flatMap quoted)
  compile pattern ignoreCase multiLine :=
    match readPattern? pattern (startFlags ignoreCase multiLine) with
    | some p => .ok fun text => (Haystack.ofString text).isMatch p
    | none => .error .malformed

end DocQuery.Regex
