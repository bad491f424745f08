import DocQuery.Value.Basic

/-!
# Functions on fields

A function stands for a ready-made piece of a pipeline, of a query or of a mutation, in place of a
plain field or value.

## Main definitions

* `ArrayContains`: a condition on the items of an array
* `Measure`, `Computed`: a length, a number of rows, a greatest or a least value under a new name
* `Increment`, `ArrayPush`, `ArrayPull`: changes of a field
* `SpecialFunction`: all of them
-/

namespace DocQuery

/-- The text that reads a field in an expression. -/
def fieldReference (field : String) : String := "$" ++ field

/-- An array holds at least one of the needles. -/
structure ArrayContains where
  field : String
  needles : List Value

namespace ArrayContains

/-- The condition for the items of an array, or for a single needle. -/
def ofValue (field : String) (needles : Value) : ArrayContains :=
  match needles with
  | .array values => ⟨field, values⟩
  | scalar => ⟨field, [scalar]⟩

/-- The query document. -/
def document (f : ArrayContains) : Document :=
  [(f.field, .document
    [("$exists", .boolean true), ("$elemMatch", .document [("$in", .array f.needles)])])]

end ArrayContains

/-- What a computed field measures. -/
inductive Measure where
  /-- The number of items of an array. -/
  | length
  /-- The number of rows. -/
  | count
  | greatest
  | least
  deriving DecidableEq

/-- What the name of a measured field gets at its end by default. -/
def Measure.suffix : Measure → String
  | length => "_length"
  | count => "_size"
  | greatest => "_max"
  | least => "_min"

/-- A measure of a field, under a name of its own. -/
structure Computed where
  measure : Measure
  field : String
  «alias» : String
  deriving DecidableEq

namespace Computed

/-- A measure under its default name. -/
def ofField (measure : Measure) (field : String) : Computed :=
  ⟨measure, field, field ++ measure.suffix⟩

/-- A stage that makes one group of all rows, with one accumulated value. -/
def groupStage (name accumulator field : String) : Document :=
  [("$group", .document (Document.ofList
    [("_id", .null), (name, .document [(accumulator, .string (fieldReference field))])]))]

/-- The computed field of a length, or the stage of every other measure. -/
def document (c : Computed) : Document :=
  match c.measure with
  | .length => [(c.alias, .document [("$size", .string (fieldReference c.field))])]
  | .count => [("$count", .string c.alias)]
  | .greatest => groupStage c.alias "$max" c.field
  | .least => groupStage c.alias "$min" c.field

end Computed

/-- Adds an amount to a number. -/
structure Increment where
  field : String
  amount : Int64

/-- The mutation document. -/
def Increment.document (f : Increment) : Document :=
  [("$inc", .document [(f.field, .int64 f.amount)])]

/-- Appends values to an array. -/
structure ArrayPush where
  field : String
  values : List Value

/-- The mutation document. -/
def ArrayPush.document (f : ArrayPush) : Document :=
  [("$push", .document [(f.field, .document [("$each", .array f.values)])])]

/-- Removes items from an array. -/
structure ArrayPull where
  field : String
  value : Value

namespace ArrayPull

/-- A value as a condition: a list stands for any of its values. -/
def membership : Value → Value
  | .array values => .document [("$in", .array values)]
  | v => v

/-- The condition on an item: a value to equal, one of several values, or a query document in which
a list stands for any of its values. -/
def condition (f : ArrayPull) : Value :=
  match f.value with
  | .document members => .document (members.map fun field => (field.1, membership field.2))
  | v => membership v

/-- The mutation document. -/
def document (f : ArrayPull) : Document := [("$pull", .document [(f.field, f.condition)])]

end ArrayPull

/-- All functions on fields. -/
inductive SpecialFunction where
  | contains (f : ArrayContains)
  | computed (f : Computed)
  | increment (f : Increment)
  | push (f : ArrayPush)
  | pull (f : ArrayPull)

/-- The piece that a function stands for. -/
def SpecialFunction.document : SpecialFunction → Document
  | contains f => f.document
  | computed f => f.document
  | increment f => f.document
  | push f => f.document
  | pull f => f.document

/-- The name of the computed field of a function that has one. -/
def SpecialFunction.alias? : SpecialFunction → Option String
  | computed f => some f.alias
  | _ => none

end DocQuery
