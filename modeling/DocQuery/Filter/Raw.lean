import DocQuery.Operator

/-!
# Groups of conditions

A group of ready-made conditions under one connective. Groups nest: a group can be a condition of
another.

## Main definitions

* `RawFilter`: a connective and its conditions
* `RawFilter.document`: the query document of a group
-/

namespace DocQuery

/-- Ready-made conditions under one connective. -/
structure RawFilter where
  connective : Connective
  conditions : List Document

namespace RawFilter

/-- The group without conditions, all of which would have to hold. -/
def empty : RawFilter := ⟨.and, []⟩

/-- The group of the given conditions, all of which have to hold. -/
def ofDocuments (conditions : List Document) : RawFilter := ⟨.and, conditions⟩

/-- Adds conditions at the end. -/
def append (r : RawFilter) (conditions : List Document) : RawFilter :=
  { r with conditions := r.conditions ++ conditions }

/-- Adds one condition at the end. -/
def push (r : RawFilter) (condition : Document) : RawFilter := r.append [condition]

/-- The query document of a group. -/
def document (r : RawFilter) : Document :=
  [(r.connective.key, .array (r.conditions.map .document))]

/-- Adds another group as one condition. -/
def pushFilter (r inner : RawFilter) : RawFilter := r.push inner.document

end RawFilter

end DocQuery
