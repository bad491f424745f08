import DocQuery.Value.Equality

/-!
# The order of values

Numbers of every width are compared as doubles, in the total order of words; strings, truth values,
dates and identifiers are compared with their like; all other pairs are compared by the rank of
their kinds alone.

## Main definitions

* `Value.toDouble?`: the double that stands for a number in every comparison
* `Value.rank`: the place of a kind in the order of kinds
* `Value.compare`: the order of values
* `Value.equals`: the equality that queries use, which does not see the width of a number
* `Value.isComparable`: whether range queries compare two values at all
* `Value.isTruthy`: what an expression counts as true
-/

namespace DocQuery.Value

/-- The double that stands for a number, rounded to nearest if the number has more than fifty-three
bits. -/
def toDouble? : Value → Option Double
  | .int32 n => some (Double.ofInt n.toInt)
  | .int64 n => some (Double.ofInt n.toInt)
  | .double x => some x
  | _ => none

/-- Whether a value takes part in comparisons of numbers. -/
def isNumber (v : Value) : Bool := v.toDouble?.isSome

/-- The place of a kind in the order of kinds. -/
def rank : Value → Nat
  | .minKey => 0
  | .null | .undefined => 1
  | .int32 _ | .int64 _ | .double _ | .decimal128 _ => 2
  | .symbol _ | .string _ => 3
  | .document _ => 4
  | .array _ => 5
  | .binary _ _ => 6
  | .objectId _ => 7
  | .boolean _ => 8
  | .dateTime _ => 9
  | .timestamp _ _ => 10
  | .regularExpression _ _ => 11
  | .dbPointer _ _ | .javaScript _ | .javaScriptWithScope _ _ => 12
  | .maxKey => 255

/-- Compares two values: numbers as doubles, some kinds by content, all others by rank. -/
def compare (a b : Value) : Ordering :=
  match a.toDouble?, b.toDouble? with
  | some x, some y => x.totalCompare y
  | _, _ =>
    match a, b with
    | .string x, .string y => Ord.compare x y
    | .boolean x, .boolean y => Ord.compare x y
    | .dateTime x, .dateTime y => Ord.compare x.toInt y.toInt
    | .objectId x, .objectId y => Ord.compare x.bits.toNat y.bits.toNat
    | _, _ => Ord.compare a.rank b.rank

/-- Whether two values are equal for a query: numbers by the order of numbers, all others by
sameness. -/
def equals (a b : Value) : Bool :=
  if a.isNumber && b.isNumber then a.compare b == .eq else a.same b

/-- Whether a range query compares two values at all: both are numbers, or their kinds share a
rank. -/
def isComparable (a b : Value) : Bool :=
  (a.isNumber && b.isNumber) || a.rank == b.rank

/-- Whether an expression counts a value as true: all but null, undefined, false and zero. -/
def isTruthy : Value → Bool
  | .null | .undefined => false
  | .boolean b => b
  | v =>
    match v.toDouble? with
    | some x => !x.isZero
    | none => true

/-- Whether a value is neither null nor undefined. -/
def isPresent : Value → Bool
  | .null | .undefined => false
  | _ => true

end DocQuery.Value
