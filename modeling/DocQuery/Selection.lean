import DocQuery.Function

/-!
# Selections

A selection is a list of requested fields, resolved into a projection, computed fields and the
stages of measures over all rows.

## Main definitions

* `Field`: one requested field
* `Selection`: what a list of requested fields comes to
* `Selection.resolve`: the selection of a list of requested fields
-/

namespace DocQuery

/-- One requested field. -/
inductive Field where
  | name (name : String)
  | renamed (source target : String)
  | computed (c : Computed)
  deriving DecidableEq

/-- What a list of requested fields comes to. -/
structure Selection where
  fields : Document
  addFields : Document
  group? : Option Document
  count? : Option Document

namespace Selection

/-- The selection of nothing. -/
def empty : Selection := ⟨[], [], none, none⟩

/-- Adds one requested field. Of several measures with a group stage the last one wins, and so does
the last number of rows. -/
def add (s : Selection) : Field → Selection
  | .name name => { s with fields := Document.insert s.fields name (.int32 1) }
  | .renamed source target =>
    { s with fields := Document.insert s.fields target (.string (fieldReference source)) }
  | .computed c =>
    match c.measure with
    | .length =>
      { s with
        addFields := Document.extend s.addFields c.document
        fields := Document.insert s.fields c.alias (.int32 1) }
    | .count => { s with count? := some c.document }
    | .greatest | .least => { s with group? := some c.document }

/-- Excludes the identifier, unless it is among the fields. -/
def hideId (s : Selection) : Selection :=
  if Document.contains s.fields "_id" then s
  else { s with fields := Document.insert s.fields "_id" (.int32 0) }

/-- The selection of a list of requested fields. -/
def resolve (fields : List Field) : Selection := (fields.foldl add empty).hideId

end Selection

end DocQuery
