import DocQuery.Filter.Basic

/-!
# The state of a query

Everything that a query collects before it runs, and the rule by which several states become one.

## Main definitions

* `RawPipeline`: ready-made stages and their place
* `QueryState`: what a query collects
* `QueryState.merge`: one state with another folded into it
* `QueryState.merged`: many states as one, from the left

## Design notes

An absent setting and one at its default are the same, so folding in a state that sets a default has
no effect on that setting.
-/

namespace DocQuery

/-- Where ready-made stages stand. -/
inductive Placement where
  /-- Ahead of all others. -/
  | before
  /-- Behind all others. -/
  | after
  deriving DecidableEq

/-- Ready-made stages and their place. -/
structure RawPipeline where
  stages : List Document
  placement : Placement

/-- Everything that a query collects. -/
structure QueryState where
  fields : Document
  addFields : Document
  /-- The greatest number of rows; zero stands for no limit. -/
  limit : Nat
  /-- The number of rows left out at the start. -/
  skip : Nat
  count? : Option Document
  order? : Option Document
  filters : Filters
  lookup? : Option Document
  unwind? : Option Document
  group? : Option Document
  pipeline? : Option RawPipeline
  indexBy? : Option String

namespace QueryState

/-- Nothing collected. -/
def empty : QueryState :=
  { fields := []
    addFields := []
    limit := 0
    skip := 0
    count? := none
    order? := none
    filters := Filters.empty
    lookup? := none
    unwind? := none
    group? := none
    pipeline? := none
    indexBy? := none }

/-- A stage with the keys of another one written over it. Stages share their one key, so one stage
remains. -/
def mergeStage (first? second? : Option Document) : Option Document :=
  match second? with
  | none => first?
  | some second => some (Document.extend (first?.getD []) second)

/-- A state with another folded into it: the fields and the stages of joins are written over, the
conditions are added at the end, and every other setting is replaced if the other state has it. -/
def merge (s other : QueryState) : QueryState :=
  { fields := Document.extend s.fields other.fields
    addFields := if other.addFields.isEmpty then s.addFields else other.addFields
    limit := if other.limit = 0 then s.limit else other.limit
    skip := if other.skip = 0 then s.skip else other.skip
    count? := other.count? <|> s.count?
    order? := other.order? <|> s.order?
    filters := s.filters.append other.filters
    lookup? := mergeStage s.lookup? other.lookup?
    unwind? := mergeStage s.unwind? other.unwind?
    group? := other.group? <|> s.group?
    pipeline? := other.pipeline? <|> s.pipeline?
    indexBy? := other.indexBy? <|> s.indexBy? }

/-- Many states as one, from the left. -/
def merged (states : List QueryState) : QueryState := states.foldl merge empty

end QueryState

end DocQuery
