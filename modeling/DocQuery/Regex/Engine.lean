/-!
# Engines for regular expressions

Conditions on text are decided by an engine for regular expressions. Conditions and queries run with
any engine, and all that they ask of one is collected in a class.

## Main definitions

* `Regex.Refusal`: why an engine does not take a pattern
* `Regex.Engine`: quoting a text, and compiling a pattern
-/

namespace DocQuery.Regex

/-- Why an engine does not take a pattern. -/
inductive Refusal where
  /-- The pattern breaks the rules for writing patterns. -/
  | malformed
  /-- The pattern takes more memory than the engine grants. -/
  | tooLarge
  deriving DecidableEq

/-- An engine for regular expressions. -/
class Engine where
  /-- The pattern that stands for a text as it is. -/
  escape (text : String) : String
  /-- The check whether a pattern matches anywhere in a text, or why the pattern is not taken. -/
  compile (pattern : String) (ignoreCase multiLine : Bool) : Except Refusal (String → Bool)

end DocQuery.Regex
