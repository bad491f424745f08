import DocQuery.Expression

/-!
# Groups

Rows whose key expressions have the same value form a group, and every group becomes one row of
accumulated values. Groups come in the order of their first rows.

## Main definitions

* `Group.Bucket`: a key and the rows that have it
* `Group.collect`: the buckets of a list of rows
* `Group.accumulate`: the accumulated value of a list of values
* `Group.run`: the rows of the groups
-/

namespace DocQuery.Group

/-- A key and the rows that have it, in order. -/
structure Bucket where
  key : Value
  members : List Document

/-- Adds a row to the first bucket with the same key, or in a new bucket at the end. -/
def place (key : Value) (doc : Document) : List Bucket → List Bucket
  | [] => [⟨key, [doc]⟩]
  | b :: rest =>
    if b.key.same key then { b with members := b.members ++ [doc] } :: rest
    else b :: place key doc rest

/-- The buckets of a list of rows, added to those of earlier rows. -/
def collect (vars : Document) (keyExpr : Value) :
    List Document → List Bucket → Except StoreError (List Bucket)
  | [], buckets => .ok buckets
  | doc :: rest, buckets => do
    let key ← Expression.eval doc vars keyExpr
    collect vars keyExpr rest (place key doc buckets)

/-- The greatest of a list of values, the last one of several. -/
def greatest? : List Value → Option Value
  | [] => none
  | v :: rest => some (rest.foldl (fun best x => if best.compare x == .gt then best else x) v)

/-- The least of a list of values, the first one of several. -/
def least? : List Value → Option Value
  | [] => none
  | v :: rest => some (rest.foldl (fun best x => if best.compare x == .gt then x else best) v)

/-- The numbers among a list of values. -/
def numbers (values : List Value) : List Double := values.filterMap Value.toDouble?

/-- Whether a value is a double. -/
def isDouble : Value → Bool
  | .double _ => true
  | _ => false

/-- The bound below which a sum of integers is kept as an integer. -/
def integerBound : Nat := 9000000000000000

/-- An integer in the narrower of the two widths that holds it. -/
def integerValue (n : Int) : Value :=
  if -(2 ^ 31) ≤ n ∧ n < 2 ^ 31 then .int32 (Int32.ofInt n) else .int64 (Int64.ofInt n)

/-- The sum of the numbers among a list of values: an integer as long as no double is among the
values and the sum is below the bound. -/
def sum (values : List Value) : Value :=
  let total := Double.sum (numbers values)
  if values.all (fun v => !isDouble v) && total.isWhole &&
      decide (total.wholePart < integerBound) then
    integerValue (if total.negative then -(total.wholePart : Int) else total.wholePart)
  else .double total

/-- The mean of the numbers among a list of values. -/
def average (values : List Value) : Value :=
  let xs := numbers values
  if xs.isEmpty then .null else .double ((Double.sum xs).divCount xs.length)

/-- The accumulated value of a list of values. -/
def accumulate (op : String) (values : List Value) : Except StoreError Value :=
  match op with
  | "$max" => .ok ((greatest? (values.filter Value.isPresent)).getD .null)
  | "$min" => .ok ((least? (values.filter Value.isPresent)).getD .null)
  | "$sum" => .ok (sum values)
  | "$avg" => .ok (average values)
  | "$first" => .ok (values.head?.getD .null)
  | "$last" => .ok (values.getLast?.getD .null)
  | "$push" => .ok (.array values)
  | _ => .error (.unsupportedOperator op)

/-- The values of an expression for a list of rows. -/
def evalAll (vars : Document) (expr : Value) : List Document → Except StoreError (List Value)
  | [] => .ok []
  | doc :: rest => return (← Expression.eval doc vars expr) :: (← evalAll vars expr rest)

/-- Writes the accumulated values of a bucket one after another. -/
def accumulateAll (vars : Document) (members : List Document) :
    List (String × Value) → Document → Except StoreError Document
  | [], row => .ok row
  | (name, accumulator) :: rest, row =>
    if name = "_id" then accumulateAll vars members rest row
    else
      match accumulator with
      | .document [(op, expr)] => do
        let value ← accumulate op (← evalAll vars expr members)
        accumulateAll vars members rest (Document.insert row name value)
      | .document _ => .error (.invalidStage (.accumulatorNotOneKey name))
      | _ => .error (.invalidStage (.accumulatorNotDocument name))

/-- The rows of a list of buckets. -/
def rows (vars body : Document) : List Bucket → Except StoreError (List Document)
  | [] => .ok []
  | b :: rest =>
    return (← accumulateAll vars b.members body [("_id", b.key)]) :: (← rows vars body rest)

/-- The rows of the groups of a list of rows. -/
def run (vars body : Document) (docs : List Document) : Except StoreError (List Document) := do
  rows vars body (← collect vars ((Document.get? body "_id").getD .null) docs [])

end DocQuery.Group
