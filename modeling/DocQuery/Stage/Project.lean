import DocQuery.Expression

/-!
# Projections

A projection that only excludes fields removes them. Any other projection builds the row anew, from
the fields that it includes and the expressions that it computes; the identifier comes along unless
the projection mentions it.

## Main definitions

* `Project.isExclusion`, `Project.isInclusion`: the two kinds of flags
* `Project.isInclusive`: whether a projection builds rows anew
* `Project.doc`: the projection of one row
* `Project.addFields`: the row with computed fields written one after another
-/

namespace DocQuery.Project

/-- Whether the value of a projection excludes its field: false or a zero. -/
def isExclusion : Value → Bool
  | .boolean b => !b
  | v => v.toDouble?.any Double.isZero

/-- Whether the value of a projection includes its field: true or a number that is not zero. -/
def isInclusion : Value → Bool
  | .boolean b => b
  | v => v.toDouble?.any fun x => !x.isZero

/-- Whether a projection builds rows anew: some key other than the identifier is no exclusion. -/
def isInclusive (projection : Document) : Bool :=
  projection.any fun field => field.1 != "_id" && !isExclusion field.2

/-- Removes the excluded paths of a row. -/
def exclude (doc : Document) (projection : Document) : Document :=
  projection.foldl
    (fun row field =>
      if isExclusion field.2 then
        match Document.removePath? row field.1 with
        | some (_, left) => left
        | none => row
      else row)
    doc

/-- Writes the included and the computed fields of a row one after another. -/
def includeFields (doc vars : Document) : List (String × Value) → Document → Except StoreError Document
  | [], row => .ok row
  | (path, v) :: rest, row =>
    if isExclusion v then includeFields doc vars rest row
    else if isInclusion v then
      match Document.atPath? doc path with
      | some found => do includeFields doc vars rest (← Document.setPath row path found)
      | none => includeFields doc vars rest row
    else do
      let value ← Expression.eval doc vars v
      includeFields doc vars rest (← Document.setPath row path value)

/-- What a row that is built anew starts with: the identifier, unless the projection mentions it. -/
def start (doc projection : Document) : Document :=
  if Document.contains projection "_id" then []
  else
    match Document.get? doc "_id" with
    | some id => [("_id", id)]
    | none => []

/-- The projection of one row. -/
def doc (d projection vars : Document) : Except StoreError Document :=
  if isInclusive projection then includeFields d vars projection (start d projection)
  else .ok (exclude d projection)

/-- The row with computed fields written one after another; each expression sees the fields written
before it. -/
def addFields (vars : Document) : List (String × Value) → Document → Except StoreError Document
  | [], row => .ok row
  | (path, expr) :: rest, row => do
    let value ← Expression.eval row vars expr
    addFields vars rest (← Document.setPath row path value)

end DocQuery.Project
