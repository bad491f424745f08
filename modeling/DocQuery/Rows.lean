import DocQuery.Json.Decode
import DocQuery.Json.Extended
import DocQuery.Value.Equality

/-!
# Result rows

The rows that a query returns, and the shapes that callers ask for: a single row, one column, rows
by a key, JSON, or values of a type. A cursor hands out rows one at a time.

## Main definitions

* `ResultSet`: rows, with what the query expected of them
* `ResultSet.column`, `ResultSet.indexed`, `ResultSet.toJson`: shapes of rows
* `ResultSet.decodeAll`, `ResultSet.decodeFirst`: rows as values of a type
* `Cursor`: rows that are handed out one at a time
-/

namespace DocQuery

/-- The rows that a query returns. -/
structure ResultSet where
  rows : List Document
  /-- Whether the result stands for many rows. -/
  expectMany : Bool
  /-- The field by which rows are indexed. -/
  indexBy? : Option String

namespace ResultSet

/-- The first row. -/
def single? (r : ResultSet) : Option Document := r.rows.head?

/-- Adds a value at the end, unless the same value is there. -/
def addUnique (values : List Value) (v : Value) : List Value :=
  if values.any (·.same v) then values else values ++ [v]

/-- The values of a field in the rows that have it, on request without repetition. -/
def column (r : ResultSet) (key : String) (unique : Bool) : List Value :=
  let values := r.rows.filterMap (Document.get? · key)
  if unique then values.foldl addUnique [] else values

/-- The key of a row: the text of its index value, or its position. -/
def rowKey (r : ResultSet) (position : Nat) (row : Document) : String :=
  match r.indexBy?.bind (Document.get? row) with
  | some v => v.keyText
  | none => toString position

/-- The document of the given rows by their keys, written one after another into a document. -/
def indexRows (r : ResultSet) : Nat → List Document → Document → Document
  | _, [], acc => acc
  | position, row :: rest, acc =>
    r.indexRows (position + 1) rest (Document.insert acc (r.rowKey position row) (.document row))

/-- The document of the rows by their keys; of several rows with one key the last one stays. A
single result has no keys. -/
def indexed (r : ResultSet) : Except QueryError Document :=
  if r.expectMany then .ok (r.indexRows 0 r.rows []) else .error .indexOnSingleResult

/-- The JSON form: an array of all rows, or the single row or null. -/
def toJson (r : ResultSet) : Json :=
  if r.expectMany then .array (r.rows.map Document.toJson)
  else (r.single?.map Document.toJson).getD .null

/-- A row as a value of a type. -/
def decodeRow {α : Type} (decode : Json.Decoder α) (row : Document) : Except QueryError α :=
  match decode (Document.toJson row).sorted with
  | some x => .ok x
  | none => .error .unfit

/-- The rows as values of a type, up to the first that does not fit. -/
def decodeAll {α : Type} (r : ResultSet) (decode : Json.Decoder α) : Except QueryError (List α) :=
  r.rows.mapM (decodeRow decode)

/-- The first row, if there is one, as a value of a type. -/
def decodeFirst {α : Type} (r : ResultSet) (decode : Json.Decoder α) :
    Except QueryError (Option α) :=
  r.single?.mapM (decodeRow decode)

end ResultSet

/-- Rows that are handed out one at a time. -/
structure Cursor where
  remaining : List Document

namespace Cursor

/-- The next row, if there is one, and the cursor behind it. -/
def advance (c : Cursor) : Option Document × Cursor := (c.remaining.head?, ⟨c.remaining.drop 1⟩)

end Cursor

end DocQuery
