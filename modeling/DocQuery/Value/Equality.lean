import DocQuery.Value.Basic

/-!
# Sameness of values

Two values are the same if they are of one kind and hold the same thing. The order of the fields of
a document does not matter, at any depth; the order of the items of an array does. A double is the
same as another if the two are equal as numbers, so that a NaN is not the same as itself.

## Main definitions

* `Value.same`: sameness of two values
* `Document.same`: sameness of two documents
-/

namespace DocQuery

mutual

/-- Whether two values are of one kind and hold the same thing, field order aside. -/
def Value.same (a b : Value) : Bool :=
  match a, b with
  | .minKey, .minKey => true
  | .undefined, .undefined => true
  | .null, .null => true
  | .boolean x, .boolean y => x == y
  | .int32 x, .int32 y => x == y
  | .int64 x, .int64 y => x == y
  | .double x, .double y => x.numEq y
  | .decimal128 x, .decimal128 y => x == y
  | .string x, .string y => x == y
  | .symbol x, .symbol y => x == y
  | .document x, .document y => x.length == y.length && Document.sameFields x y
  | .array x, .array y => Value.sameItems x y
  | .binary s x, .binary t y => s == t && x == y
  | .objectId x, .objectId y => x == y
  | .dateTime x, .dateTime y => x == y
  | .timestamp x i, .timestamp y j => x == y && i == j
  | .regularExpression p o, .regularExpression q r => p == q && o == r
  | .dbPointer c x, .dbPointer e y => c == e && x == y
  | .javaScript x, .javaScript y => x == y
  | .javaScriptWithScope x d, .javaScriptWithScope y e =>
    x == y && (d.length == e.length && Document.sameFields d e)
  | .maxKey, .maxKey => true
  | _, _ => false
termination_by structural a

/-- Whether two lists of values have the same items in the same order. -/
def Value.sameItems (xs ys : List Value) : Bool :=
  match xs, ys with
  | [], [] => true
  | x :: xs, y :: ys => Value.same x y && Value.sameItems xs ys
  | _, _ => false
termination_by structural xs

/-- Whether every field of the first document is a field of the second. -/
def Document.sameFields (fields : List (String × Value)) (other : Document) : Bool :=
  match fields with
  | [] => true
  | (key, value) :: rest =>
    (match Document.get? other key with
      | some found => Value.same value found
      | none => false) && Document.sameFields rest other
termination_by structural fields

end

/-- Whether two documents have the same fields, in any order. -/
def Document.same (d e : Document) : Bool := d.length == e.length && Document.sameFields d e

end DocQuery
