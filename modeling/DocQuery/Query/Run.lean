import DocQuery.Json.Extended
import DocQuery.Query.Basic
import DocQuery.Regex.Basic
import DocQuery.Rows
import DocQuery.Store
import DocQuery.Update

/-!
# Running queries

What a query does to the store behind its collection: finding and counting rows, inserting, updating
and deleting documents.

## Main definitions

* `Query.find`, `Query.findAll`, `Query.count`: the query afterwards, and the rows or their number
* `Query.insert`, `Query.insertRecords`, `Query.update`, `Query.delete`: what is left of the store
* `Record`: a value to insert, with the name of its type

## Design notes

Finding sets a limit of one and counting adds a stage, and both stay in the query. A call emits its
own line before it reaches the store, which emits another one when it succeeds.

Queries run with any engine for regular expressions and any source of identifiers. For a caller that
brings none of its own there are `Regex.builtin` and `IdSource.counting`.
-/

namespace DocQuery

/-- A value to insert, with the name of its type. -/
structure Record where
  typeName : String
  content : Json

namespace Query

variable {κ : Type} [Regex.Engine] [IdSource]

/-- What a call leaves behind that fails before it reaches the store. -/
def failed {α : Type} (s : Store) (e : QueryError) : Store.Effect QueryError α := ⟨s, .error e, []⟩

/-- What a call leaves behind that needs the name of a collection. -/
def withCollection {α : Type} (q : Query κ) (s : Store)
    (call : String → Store.Effect QueryError α) : Store.Effect QueryError α :=
  match q.collection? with
  | some collection => call collection.name
  | none => failed s .noCollection

/-- What a call on the store leaves behind, with an event in front. -/
def traced {α : Type} (event : TraceEvent) (e : Store.Effect StoreError α) :
    Store.Effect QueryError α :=
  let e := e.mapError QueryError.backend
  { e with events := event :: e.events }

/-! ## Rows -/

/-- Runs the stages of a query. -/
def run (q : Query κ) (s : Store) : Store.Effect QueryError ResultSet :=
  q.withCollection s fun collection =>
    let e := traced (.aggregate collection q.stages) (s.aggregate collection q.stages)
    { e with result := e.result.map fun rows => ⟨rows, q.expectMany, q.state.indexBy?⟩ }

/-- The query as finding one row leaves it. -/
def forOne (q : Query κ) : Query κ :=
  { q with expectMany := false, state := { q.state with limit := 1 } }

/-- The query as finding all rows leaves it. -/
def forAll (q : Query κ) : Query κ := { q with expectMany := true }

/-- The query as counting rows leaves it. -/
def forCount (q : Query κ) : Query κ :=
  forAll { q with state := { q.state with count? := some [("$count", .string "count")] } }

/-- Finds the first row. -/
def find (q : Query κ) (s : Store) : Query κ × Store.Effect QueryError ResultSet :=
  (q.forOne, q.forOne.run s)

/-- Finds all rows. -/
def findAll (q : Query κ) (s : Store) : Query κ × Store.Effect QueryError ResultSet :=
  (q.forAll, q.forAll.run s)

/-- The number that a value stands for, at least zero and at most the greatest of sixty-four bits.
What is no number stands for zero. -/
def countOf : Value → Nat
  | .int32 n => n.toInt.toNat
  | .int64 n => n.toInt.toNat
  | .double x => x.toCount
  | _ => 0

/-- The number of rows that the first row of a count gives. -/
def countOfRows (rows : List Document) : Nat :=
  match rows.head?.bind (Document.get? · "count") with
  | some v => countOf v
  | none => 0

/-- Counts rows. -/
def count (q : Query κ) (s : Store) : Query κ × Store.Effect QueryError Nat :=
  let e := q.forCount.run s
  (q.forCount, { e with result := e.result.map fun r => countOfRows r.rows })

/-! ## Changes -/

/-- Inserts documents and reports their identifiers. -/
def insert (q : Query κ) (s : Store) (docs : List Document) :
    Store.Effect QueryError (List Value) :=
  if docs.isEmpty then failed s .emptyInsert
  else
    q.withCollection s fun collection =>
      let (left, ids) := s.insertMany collection docs
      ⟨left, .ok ids, []⟩

/-- The documents of records, up to the first that is none. -/
def recordDocuments : List Record → Except QueryError (List Document)
  | [] => .ok []
  | r :: rest => return (← r.content.toDocument) :: (← recordDocuments rest)

/-- Inserts records and reports their identifiers. Under strict typing all records must share the
type of the first. -/
def insertRecords (q : Query κ) (s : Store) (records : List Record) :
    Store.Effect QueryError (List Value) :=
  match records with
  | [] => failed s .emptyInsert
  | first :: _ =>
    match records.find? (·.typeName != first.typeName) with
    | some other =>
      if q.strictInserts then failed s (.mixedInsertTypes first.typeName other.typeName)
      else insertAll
    | none => insertAll
where
  /-- Inserts the documents of the records, if each record has one. -/
  insertAll : Store.Effect QueryError (List Value) :=
    match recordDocuments records with
    | .error e => failed s e
    | .ok docs => q.insert s docs

/-- Applies an update to every document that satisfies the conditions, of which there has to be at
least one. -/
def update (q : Query κ) (s : Store) (u : Update) : Store.Effect QueryError UpdateReport :=
  if q.state.filters.isEmpty then failed s (.missingFilter .update)
  else
    q.withCollection s fun collection =>
      traced (.update collection q.filter u.decompose)
        (s.updateMany collection q.filter u.decompose)

/-- Deletes every document that satisfies the conditions, of which there has to be at least
one. -/
def delete (q : Query κ) (s : Store) : Store.Effect QueryError Nat :=
  if q.state.filters.isEmpty then failed s (.missingFilter .delete)
  else
    q.withCollection s fun collection =>
      traced (.delete collection q.filter) (s.deleteMany collection q.filter)

end Query

end DocQuery
