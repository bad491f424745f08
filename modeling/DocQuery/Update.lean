import DocQuery.Function

/-!
# Updates

An update is a list of changes of fields, or a whole document whose fields are written. It is split
into a mutation document with at most one entry for each operator.

## Main definitions

* `UpdateValue`: one change of a field
* `Update`: the updates
* `Update.add`: an update with one more change
* `Update.decompose`: the mutation document of an update
-/

namespace DocQuery

/-- One change of a field. A change that is a function names its own field. -/
inductive UpdateValue where
  | set (value : Value)
  | increment (f : Increment)
  | push (f : ArrayPush)
  | pull (f : ArrayPull)

/-- The updates. -/
inductive Update where
  /-- Changes under the labels they were given, in order. -/
  | fields (entries : List (String × UpdateValue))
  /-- A whole document whose fields are written. -/
  | replacement (doc : Document)

namespace Update

/-- No change yet. -/
def empty : Update := fields []

/-- The update that writes every field of a document. -/
def ofDocument (doc : Document) : Update :=
  fields (doc.map fun field => (field.1, .set field.2))

/-- Adds one change under a label. A whole document takes on values alone and ignores functions. -/
def add (u : Update) (label : String) (change : UpdateValue) : Update :=
  match u with
  | fields entries => fields (entries ++ [(label, change)])
  | replacement doc =>
    match change with
    | .set value => replacement (Document.insert doc label value)
    | _ => u

/-- The changes of an update by operator. -/
structure Parts where
  set : Document
  increments : Document
  pushes : Document
  pulls : Document

/-- Adds one change to those of its operator. A second change of a field replaces the first. -/
def Parts.add (p : Parts) (entry : String × UpdateValue) : Parts :=
  match entry.2 with
  | .set value => { p with set := Document.insert p.set entry.1 value }
  | .increment f =>
    { p with increments := Document.insert p.increments f.field (.int64 f.amount) }
  | .push f =>
    { p with pushes := Document.insert p.pushes f.field (.document [("$each", .array f.values)]) }
  | .pull f => { p with pulls := Document.insert p.pulls f.field f.condition }

/-- The mutation document of the changes: the operators in a fixed order, without those that have
no change. -/
def Parts.document (p : Parts) : Document :=
  [("$set", p.set), ("$inc", p.increments), ("$push", p.pushes), ("$pull", p.pulls)].filterMap
    fun (op, changes) => if changes.isEmpty then none else some (op, .document changes)

/-- The mutation document of an update. -/
def decompose : Update → Document
  | fields entries => (entries.foldl Parts.add ⟨[], [], [], []⟩).document
  | replacement doc => [("$set", .document doc)]

end Update

end DocQuery
