import DocQuery.Json.Basic

/-!
# Typed readings of JSON

Small readers that take a JSON value to a type, and that are put together to read records. A member
that a record does not ask for is ignored.

## Main definitions

* `Json.Decoder`: the readers
* `Json.Decoder.field`, `Json.Decoder.optional`, `Json.Decoder.withDefault`: one member of a record
-/

namespace DocQuery.Json

/-- A reader of a type. -/
abbrev Decoder (α : Type) := Json → Option α

namespace Decoder

/-- Reads a string. -/
def string : Decoder String
  | .string s => some s
  | _ => none

/-- Reads an integer in the range of signed words of the given width. -/
def integer (width : Nat) : Decoder Int
  | .int n => if -(2 ^ (width - 1)) ≤ n ∧ n < 2 ^ (width - 1) then some n else none
  | _ => none

/-- Reads an array with one reader for all of its items. -/
def list {α : Type} (item : Decoder α) : Decoder (List α)
  | .array items => items.mapM item
  | _ => none

/-- Reads null, or else a value. -/
def nullable {α : Type} (item : Decoder α) : Decoder (Option α)
  | .null => some none
  | v => (item v).map some

/-- The member of the given name. -/
def member? (name : String) : Json → Option Json
  | .object members => members.lookup name
  | _ => none

/-- Reads a member that has to be there. -/
def field {α : Type} (name : String) (item : Decoder α) : Decoder α := fun v =>
  (member? name v).bind item

/-- Reads a member that may be missing or null. -/
def optional {α : Type} (name : String) (item : Decoder α) : Decoder (Option α) := fun v =>
  match member? name v with
  | some found => nullable item found
  | none => some none

/-- Reads a member, or takes a default if it is missing. -/
def withDefault {α : Type} (name : String) (default : α) (item : Decoder α) : Decoder α := fun v =>
  match member? name v with
  | some found => item found
  | none => some default

end Decoder

end DocQuery.Json
