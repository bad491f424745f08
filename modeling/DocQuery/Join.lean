import DocQuery.Function
import DocQuery.Operator

/-!
# Joins

A join is a lookup stage that compares a field of each row with a field of another collection,
followed by a stage that unwinds the joined array.

## Main definitions

* `Join`: the settings of a join
* `Join.on`, `Join.onOperator`: a join with default names
* `Join.lookupStage`, `Join.unwindStage`: the two stages
* `unwindStage`: an explicit unwind stage
-/

namespace DocQuery

/-- The settings of a join. -/
structure Join where
  collection : String
  /-- The field that receives the joined array. -/
  «alias» : String
  localField : String
  op : String
  foreignField : String
  /-- The variable that stands for the local field. -/
  boundName : String
  deriving DecidableEq

namespace Join

/-- What the name of a collection gets at its end by default. -/
def aliasEnd : String := "#joined"

/-- What the name of a foreign field gets at its end by default. -/
def boundNameEnd : String := "SEQUELMONGOFieldAlias"

/-- The join of equal fields, under default names. -/
def on (collection localField foreignField : String) : Join :=
  { collection
    «alias» := collection ++ aliasEnd
    localField
    op := "$eq"
    foreignField
    boundName := foreignField ++ boundNameEnd }

/-- The join of fields that a comparator token compares, under default names. -/
def onOperator (collection localField token foreignField : String) : Except QueryError Join :=
  return { on collection localField foreignField with op := ← Operator.translate token }

/-- The comparison of the foreign field with the bound variable. -/
def condition (j : Join) : Document :=
  [(j.op, .array
    [.string (fieldReference j.foreignField), .string ("$" ++ fieldReference j.boundName)])]

/-- The stage that puts the matching documents of the other collection into an array. -/
def lookupStage (j : Join) : Document :=
  let filter : Document :=
    [("$match", .document
      [("$expr", .document [("$and", .array [.document j.condition])])])]
  [("$lookup", .document
    [("from", .string j.collection),
     ("let", .document [(j.boundName, .string (fieldReference j.localField))]),
     ("pipeline", .array [.document filter]),
     ("as", .string j.alias)])]

/-- The stage that unwinds the joined array and drops rows without a match. -/
def unwindStage (j : Join) : Document :=
  [("$unwind", .document [("path", .string (fieldReference j.alias))])]

end Join

/-- An explicit unwind stage. -/
def unwindStage (path : String) (indexField? : Option String) (keepsEmpty : Bool) : Document :=
  let base : Document :=
    [("path", .string (fieldReference path)), ("preserveNullAndEmptyArrays", .boolean keepsEmpty)]
  let settings := match indexField? with
    | some field => base ++ [("includeArrayIndex", .string field)]
    | none => base
  [("$unwind", .document settings)]

end DocQuery
