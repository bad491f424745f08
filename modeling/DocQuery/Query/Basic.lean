import DocQuery.Join
import DocQuery.Query.Assembly
import DocQuery.Selection

/-!
# Queries

A query collects settings by configuration calls. Calls that can fail leave the query as it was when
they do.

## Main definitions

* `Query`: a query, over a type of connections
* `Query.Call`: the configuration calls, as data
* `Query.apply`: the query after a call
* `Query.applyAll`: the query after a list of calls
* `Query.stages`, `Query.filter`: what the settings come to
* `Query.merge`: many queries as one

## Design notes

A query knows its connection only as a token of the type `κ`: connections are compared and handed
on here, and whoever runs the query knows the store that a token stands for.

The settings of a parenthesised group of conditions are calls on a fresh query, so that calls nest.
-/

namespace DocQuery

/-- A collection of the store behind a connection. -/
structure Collection (κ : Type) where
  connection : κ
  name : String
  deriving DecidableEq

/-- A query. -/
structure Query (κ : Type) where
  connection? : Option κ
  collection? : Option (Collection κ)
  state : QueryState
  /-- Whether the result stands for many rows. -/
  expectMany : Bool
  /-- Whether records of one insertion must share a type. -/
  strictInserts : Bool

namespace Query

variable {κ : Type}

/-- A query without a connection. -/
def empty : Query κ :=
  { connection? := none
    collection? := none
    state := QueryState.empty
    expectMany := true
    strictInserts := true }

/-- The query with another connection. -/
def withConnection (q : Query κ) (connection : κ) : Query κ :=
  { q with connection? := some connection }

/-- The stages that the settings come to. -/
def stages (q : Query κ) : List Document := q.state.assemble

/-- The query document that the conditions come to. -/
def filter (q : Query κ) : Document := q.state.filters.normalized

/-! ## Configuration calls -/

/-- The direction of a sort, as a label or as a number. -/
inductive Direction where
  | label (label : String)
  | number (n : Int)

/-- The order that a direction stands for. -/
def Direction.order : Direction → SortOrder
  | label l => SortOrder.ofLabel l
  | number n => SortOrder.ofInt n

/-- The configuration calls. Every condition comes with its connective. -/
inductive Call (κ : Type) where
  | collection (name : String)
  | collectionHandle (collection : Collection κ)
  | select (fields : List Field)
  | strictInserts (strict : Bool)
  /-- A value to equal, or a comparator token that compares with null. -/
  | compare (connective : Connective) (field : String) (value : Value)
  | compareWith (connective : Connective) (field token : String) (value : Value)
  /-- A comparison with a point in time, in milliseconds. -/
  | compareDate (connective : Connective) (field token : String) (millis : Int64)
  | predicate (connective : Connective) (p : Predicate)
  /-- A group of conditions, by calls on a fresh query. -/
  | group (connective : Connective) (calls : List (Call κ))
  | oneOf (connective : Connective) (field : String) (values : List Value)
  | noneOf (connective : Connective) (field : String) (values : List Value)
  | regex (connective : Connective) (field pattern : String)
  | text (connective : Connective) (kind : TextMatch) (field text : String) (caseSensitive : Bool)
  | join (j : Join)
  | joinOn (collection localField foreignField : String)
  | joinOperator (collection localField token foreignField : String)
  | unwind (path : String) (indexField? : Option String) (keepsEmpty : Bool)
  | limit (n : Nat)
  | offset (n : Nat)
  | order (field : String) (direction : Direction)
  | pipeline (stages : List Document) (placement : Placement)
  | indexBy (field : String)

/-- The query with another state. -/
def mapState (q : Query κ) (f : QueryState → QueryState) : Query κ := { q with state := f q.state }

/-- The query with one more condition. -/
def pushFilter (q : Query κ) (connective : Connective) (filter : Document) : Query κ :=
  q.mapState fun s => { s with filters := s.filters.push connective filter }

/-- The query with one more comparison. -/
def pushComparison (q : Query κ) (connective : Connective) (field op : String) (value : Value) :
    Query κ :=
  q.pushFilter connective (Filters.comparison field op value)

/-- The query with another selection. -/
def select (q : Query κ) (fields : List Field) : Query κ :=
  let selection := Selection.resolve fields
  q.mapState fun s =>
    { s with
      fields := selection.fields
      addFields := selection.addFields
      group? := selection.group?
      count? := selection.count? }

/-- The query with another join. -/
def join (q : Query κ) (j : Join) : Query κ :=
  q.mapState fun s => { s with lookup? := some j.lookupStage, unwind? := some j.unwindStage }

/-- The query that indexes its rows by a field, which a projection has to contain. -/
def indexBy (q : Query κ) (field : String) : Except QueryError (Query κ) :=
  if !q.state.fields.isEmpty && !Document.contains q.state.fields field then
    .error (.unselectedIndexKey field)
  else .ok (q.mapState fun s => { s with indexBy? := some field })

/-- The query on a collection that is resolved through its connection. -/
def onCollection (q : Query κ) (name : String) : Except QueryError (Query κ) :=
  match q.connection? with
  | some connection => .ok { q with collection? := some ⟨connection, name⟩ }
  | none => .error .missingConnection

variable [Regex.Engine]

mutual

/-- The query after a configuration call. -/
def apply (q : Query κ) (call : Call κ) : Except QueryError (Query κ) :=
  match call with
  | .collection name => q.onCollection name
  | .collectionHandle collection => .ok { q with collection? := some collection }
  | .select fields => .ok (q.select fields)
  | .strictInserts strict => .ok { q with strictInserts := strict }
  | .compare connective field value =>
    let (op, operand) := Filters.resolveValue value
    .ok (q.pushComparison connective field op operand)
  | .compareWith connective field token value => do
    let op ← Operator.translate token
    return q.pushComparison connective field op value
  | .compareDate connective field token millis => do
    let op ← Operator.translate token
    return q.pushComparison connective field op (.dateTime millis)
  | .predicate connective p => .ok (q.pushFilter connective p.document)
  | .group connective calls => do
    let inner ← applyAll (empty : Query κ) calls
    return q.pushFilter connective (RawFilter.ofDocuments [inner.filter]).document
  | .oneOf connective field values => .ok (q.pushComparison connective field "$in" (.array values))
  | .noneOf connective field values =>
    .ok (q.pushComparison connective field "$nin" (.array values))
  | .regex connective field pattern =>
    .ok (q.pushComparison connective field "$regex" (.string pattern))
  | .text connective kind field text caseSensitive =>
    .ok (q.pushComparison connective field "$regex" (.string (kind.pattern text caseSensitive)))
  | .join j => .ok (q.join j)
  | .joinOn collection localField foreignField =>
    .ok (q.join (Join.on collection localField foreignField))
  | .joinOperator collection localField token foreignField => do
    return q.join (← Join.onOperator collection localField token foreignField)
  | .unwind path indexField? keepsEmpty =>
    .ok (q.mapState fun s => { s with unwind? := some (unwindStage path indexField? keepsEmpty) })
  | .limit n => .ok (q.mapState fun s => { s with limit := n })
  | .offset n => .ok (q.mapState fun s => { s with skip := n })
  | .order field direction =>
    .ok (q.mapState fun s =>
      { s with order? := some [(field, .int32 direction.order.sign)] })
  | .pipeline stages placement =>
    .ok (q.mapState fun s => { s with pipeline? := some ⟨stages, placement⟩ })
  | .indexBy field => q.indexBy field
termination_by structural call

/-- The query after a list of calls, up to the first that fails. -/
def applyAll (q : Query κ) (calls : List (Call κ)) : Except QueryError (Query κ) :=
  match calls with
  | [] => .ok q
  | call :: rest => do applyAll (← apply q call) rest
termination_by structural calls

end

/-! ## Merging -/

/-- A query with another folded into it. The state is merged, the connection and the collection are
those of the later query that has one, and strict insertions stay only if both queries have
them. -/
def mergeWith (q other : Query κ) : Query κ :=
  { connection? := other.connection? <|> q.connection?
    collection? := other.collection? <|> q.collection?
    state := q.state.merge other.state
    expectMany := q.expectMany
    strictInserts := q.strictInserts && other.strictInserts }

/-- Many queries as one, from the left. -/
def merge (queries : List (Query κ)) : Query κ := queries.foldl mergeWith empty

end Query

end DocQuery
