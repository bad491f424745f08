import DocQuery.Query.State

/-!
# Assembled pipelines

The stages that a state comes to, in a fixed order: ready-made stages placed before, lookup, unwind,
computed fields, conditions, sort, skip, limit, count, projection, group, ready-made stages placed
after.

## Main definitions

* `QueryState.assemble`: the stages of a state
-/

namespace DocQuery.QueryState

/-- The sort document of a query that sets no order. -/
def defaultOrder : Document := [("_id", .int32 1)]

/-- A number of rows as a value, at most the greatest of sixty-four bits. -/
def countOperand (n : Nat) : Value := .int64 (Int64.ofInt (min n (2 ^ 63 - 1)))

/-- A stage with a document as its body, unless the document is empty. -/
def stageUnlessEmpty (name : String) (body : Document) : List Document :=
  if body.isEmpty then [] else [[(name, .document body)]]

/-- A stage with a number of rows as its body, unless the number is zero. -/
def stageUnlessZero (name : String) (n : Nat) : List Document :=
  if n = 0 then [] else [[(name, countOperand n)]]

/-- The ready-made stages with the given place. -/
def rawStages (s : QueryState) (placement : Placement) : List Document :=
  match s.pipeline? with
  | some raw => if raw.placement = placement then raw.stages else []
  | none => []

/-- Whether there are ready-made stages. -/
def hasRawStages (s : QueryState) : Bool :=
  match s.pipeline? with
  | some raw => !raw.stages.isEmpty
  | none => false

/-- The sort stage, which ready-made stages suppress. -/
def sortStages (s : QueryState) : List Document :=
  if s.hasRawStages then [] else [[("$sort", .document (s.order?.getD defaultOrder))]]

/-- The stage of the conditions. -/
def matchStages (s : QueryState) : List Document :=
  if s.filters.isEmpty then [] else [[("$match", .document s.filters.normalized)]]

/-- The stages of a state. -/
def assemble (s : QueryState) : List Document :=
  s.rawStages .before ++ s.lookup?.toList ++ s.unwind?.toList ++
    stageUnlessEmpty "$addFields" s.addFields ++ s.matchStages ++ s.sortStages ++
    stageUnlessZero "$skip" s.skip ++ stageUnlessZero "$limit" s.limit ++ s.count?.toList ++
    stageUnlessEmpty "$project" s.fields ++ s.group?.toList ++ s.rawStages .after

end DocQuery.QueryState
