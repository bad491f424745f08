import DocQuery.Path

/-!
# Unwinding

A row with an array becomes one row for each item, which takes the place of the array. A row
without items is dropped, or kept on request; a row with some other value stays.

## Main definitions

* `Unwind.Spec`: the path, what happens to rows without items, and the field for the position
* `Unwind.Spec.ofValue?`: the settings that the body of a stage writes
* `Unwind.run`: the rows of a list of rows
-/

namespace DocQuery.Unwind

/-- The settings of the stage. -/
structure Spec where
  path : String
  /-- Whether rows without items are kept. -/
  keepsEmpty : Bool
  /-- The field that receives the position of an item. -/
  indexField? : Option String

/-- A path without the sign in front of it. -/
def stripSigil (path : String) : Except StoreError String :=
  match path.toList with
  | '$' :: rest => .ok (String.ofList rest)
  | _ => .error (.invalidStage .unwindSigil)

/-- The settings that the body of a stage writes: a path alone, or a document. -/
def Spec.ofValue? : Value → Except StoreError Spec
  | .string path => return ⟨← stripSigil path, false, none⟩
  | .document d =>
    match Document.string? d "path" with
    | none => .error (.invalidStage .unwindLacksPath)
    | some path =>
      return ⟨← stripSigil path, (Document.boolean? d "preserveNullAndEmptyArrays").getD false,
        Document.string? d "includeArrayIndex"⟩
  | _ => .error (.invalidStage .unwindNotPath)

/-- Writes the position of an item, if there is a field for it. -/
def Spec.withIndex (s : Spec) (doc : Document) (index : Value) : Document :=
  match s.indexField? with
  | some field => Document.insert doc field index
  | none => doc

/-- One row for each item of an array; the first item has the given position. -/
def itemRows (s : Spec) (doc : Document) (position : Nat) :
    List Value → Except StoreError (List Document)
  | [] => .ok []
  | item :: rest => do
    let row := s.withIndex (← Document.setPath doc s.path item) (.int64 (Int64.ofInt position))
    return row :: (← itemRows s doc (position + 1) rest)

/-- The rows of one row. -/
def rowsOf (s : Spec) (doc : Document) : Except StoreError (List Document) :=
  let kept := s.withIndex doc .null
  match Document.atPath? doc s.path with
  | some (.array []) | some .null | none => .ok (if s.keepsEmpty then [kept] else [])
  | some (.array items) => itemRows s doc 0 items
  | some _ => .ok [kept]

/-- The rows of a list of rows, one after another. -/
def rows (s : Spec) : List Document → Except StoreError (List Document)
  | [] => .ok []
  | doc :: rest => return (← rowsOf s doc) ++ (← rows s rest)

/-- The rows of a list of rows, by the body of a stage. -/
def run (body : Value) (docs : List Document) : Except StoreError (List Document) := do
  rows (← Spec.ofValue? body) docs

end DocQuery.Unwind
