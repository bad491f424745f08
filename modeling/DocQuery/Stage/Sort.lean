import DocQuery.Path
import DocQuery.Value.Order

/-!
# Sorting

Rows are ordered by the values at the paths of a sort document, the first path first; a missing
value stands below every other. The direction of a path is descending if its number is negative.
Rows that compare equal keep their order.

## Main definitions

* `Sort.compareDocs`: the order of two rows
* `Sort.stableSort`: insertion from the left, each row behind those that it does not precede
* `Sort.run`: the rows in order
-/

namespace DocQuery.Sort

/-- Compares two values, either of which may be missing. -/
def compareAt : Option Value → Option Value → Ordering
  | some x, some y => x.compare y
  | some _, none => .gt
  | none, some _ => .lt
  | none, none => .eq

/-- Whether the direction of a sort key is descending. -/
def isDescending (direction : Value) : Bool :=
  match direction.toDouble? with
  | some x => x.isBelowZero
  | none => false

/-- Compares two rows by the keys of a sort document, up to the first at which they differ. -/
def compareDocs (a b : Document) : List (String × Value) → Ordering
  | [] => .eq
  | (path, direction) :: rest =>
    match compareAt (Document.atPath? a path) (Document.atPath? b path) with
    | .eq => compareDocs a b rest
    | ord => if isDescending direction then ord.swap else ord

/-- Puts an item into a list whose last item stands first, behind every item that it does not
precede. -/
def insertLast {α : Type} (precedes : α → α → Bool) (x : α) : List α → List α
  | [] => [x]
  | y :: rest => if precedes x y then y :: insertLast precedes x rest else x :: y :: rest

/-- The items in order; items neither of which precedes the other keep their order. -/
def stableSort {α : Type} (precedes : α → α → Bool) (xs : List α) : List α :=
  (xs.foldl (fun sorted x => insertLast precedes x sorted) []).reverse

/-- The rows in the order of a sort document. -/
def run (keys : Document) (docs : List Document) : List Document :=
  stableSort (fun a b => compareDocs a b keys == .lt) docs

end DocQuery.Sort
