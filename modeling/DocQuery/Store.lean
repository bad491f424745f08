import DocQuery.Mutation
import DocQuery.Pipeline
import DocQuery.Trace

/-!
# Stores

A store holds collections of documents and runs pipelines, insertions, mutations and deletions.

## Main definitions

* `IdSource`: where fresh identifiers come from
* `IdSource.counting`: identifiers that are counted
* `Store`: the collections, and the number of identifiers made so far
* `Store.Effect`: what a call leaves behind: a store, a result and events
* `Store.aggregate`, `Store.insertMany`, `Store.updateMany`, `Store.deleteMany`: the calls

## Design notes

A mutation of many documents changes them one after another and stops at the first that fails: the
documents before it stay changed, and that document and those behind it stay as they were. A
deletion checks every document first and changes nothing if a check fails.
-/

namespace DocQuery

/-- Where fresh identifiers come from. -/
class IdSource where
  /-- The identifier that is made after the given number of others. -/
  makeId (made : Nat) : ObjectId

/-- What identifiers are counted from. -/
def Store.idBase : Nat := 0x69a0f3c27be1d5084c000000

/-- Identifiers that are counted. -/
instance IdSource.counting : IdSource where
  makeId made := ⟨BitVec.ofNat 96 (Store.idBase + made + 1)⟩

/-- The collections, and the number of identifiers made so far. -/
structure Store where
  collections : Collections
  madeIds : Nat

/-- How many documents a mutation matched, and how many it changed. -/
structure UpdateReport where
  matched : Nat
  modified : Nat
  deriving DecidableEq

namespace Store

/-- The store without collections. -/
def empty : Store := ⟨[], 0⟩

/-- What a call leaves behind. -/
structure Effect (ε α : Type) where
  store : Store
  result : Except ε α
  events : List TraceEvent

/-- An effect with its error in other words. -/
def Effect.mapError {ε ε' α : Type} (e : Effect ε α) (f : ε → ε') : Effect ε' α :=
  { e with result := e.result.mapError f }

/-- Replaces the documents of a collection, without giving them identifiers. -/
def seed (s : Store) (collection : String) (docs : List Document) : Store :=
  { s with collections := Collections.set s.collections collection docs }

/-- The documents of a collection, in the order of their insertion. -/
def documents (s : Store) (collection : String) : List Document :=
  Collections.documents s.collections collection

variable [Regex.Engine] [IdSource]

/-! ## Pipelines and insertions -/

/-- Runs a pipeline over the documents of a collection. -/
def aggregate (s : Store) (collection : String) (pipeline : List Document) :
    Effect StoreError (List Document) :=
  match Pipeline.run s.collections (s.documents collection) pipeline [] with
  | .ok rows => ⟨s, .ok rows, [.aggregated collection pipeline.length rows.length]⟩
  | .error e => ⟨s, .error e, []⟩

/-- A document with its identifier, which is made and put in front if there is none, and the number
of identifiers made so far. -/
def withId (made : Nat) (doc : Document) : Document × Value × Nat :=
  match Document.get? doc "_id" with
  | some id => (doc, id, made)
  | none =>
    let id := IdSource.makeId made
    (("_id", .objectId id) :: doc, .objectId id, made + 1)

/-- Documents with their identifiers, and the number of identifiers made so far. -/
def withIds : Nat → List Document → List Document × List Value × Nat
  | made, [] => ([], [], made)
  | made, doc :: rest =>
    let (doc, id, made) := withId made doc
    let (docs, ids, made) := withIds made rest
    (doc :: docs, id :: ids, made)

/-- Adds documents at the end of a collection and reports their identifiers. -/
def insertMany (s : Store) (collection : String) (docs : List Document) : Store × List Value :=
  let (prepared, ids, made) := withIds s.madeIds docs
  (⟨Collections.set s.collections collection (s.documents collection ++ prepared), made⟩, ids)

/-! ## Mutations -/

/-- What a mutation leaves of a list of documents: the documents, the counts, and the error that
ended it, if one did. -/
structure UpdateRun where
  docs : List Document
  report : UpdateReport
  error? : Option StoreError

/-- Mutates the documents that satisfy a filter, one after another. Each is mutated as a whole or
not at all. -/
def updateDocs (filter update : Document) : List Document → UpdateReport → UpdateRun
  | [], report => ⟨[], report, none⟩
  | doc :: rest, report =>
    match Condition.docMatches doc filter [] with
    | .error e => ⟨doc :: rest, report, some e⟩
    | .ok false =>
      let run := updateDocs filter update rest report
      { run with docs := doc :: run.docs }
    | .ok true =>
      let outcome := Mutation.applyUpdate update doc
      match outcome.result with
      | .error e => ⟨doc :: rest, { report with matched := report.matched + 1 }, some e⟩
      | .ok changed =>
        let report : UpdateReport :=
          ⟨report.matched + 1, if changed then report.modified + 1 else report.modified⟩
        let run := updateDocs filter update rest report
        { run with docs := (if changed then outcome.doc else doc) :: run.docs }

/-- Mutates the documents of a collection that satisfy a filter. -/
def updateMany (s : Store) (collection : String) (filter update : Document) :
    Effect StoreError UpdateReport :=
  match Collections.find? s.collections collection with
  | none => ⟨s, .ok ⟨0, 0⟩, []⟩
  | some docs =>
    let run := updateDocs filter update docs ⟨0, 0⟩
    let s := s.seed collection run.docs
    match run.error? with
    | some e => ⟨s, .error e, []⟩
    | none =>
      ⟨s, .ok run.report, [.updated collection run.report.matched run.report.modified]⟩

/-! ## Deletions -/

/-- The documents that do not satisfy a filter. -/
def unmatchedDocs (filter : Document) : List Document → Except StoreError (List Document)
  | [] => .ok []
  | doc :: rest => do
    let matched ← Condition.docMatches doc filter []
    let kept ← unmatchedDocs filter rest
    return if matched then kept else doc :: kept

/-- Deletes the documents of a collection that satisfy a filter, and reports their number. -/
def deleteMany (s : Store) (collection : String) (filter : Document) : Effect StoreError Nat :=
  match Collections.find? s.collections collection with
  | none => ⟨s, .ok 0, []⟩
  | some docs =>
    match unmatchedDocs filter docs with
    | .error e => ⟨s, .error e, []⟩
    | .ok kept =>
      let count := docs.length - kept.length
      ⟨s.seed collection kept, .ok count, [.deleted collection count]⟩

end Store

end DocQuery
