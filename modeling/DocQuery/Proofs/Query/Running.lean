import DocQuery.Proofs.Pipeline.Rows
import DocQuery.Query.Run

/-!
# What a query runs

Running a query reads the store and leaves it alone. The stages of a query come in three parts: those
that make its rows, the stage of a count, and those that shape what is there.

## Main definitions

* `QueryState.rowStages`, `QueryState.shapeStages`: the stages ahead of a count and behind it
* `Query.rowsOf`: the rows that stages make of the collection of a query
* `Query.countRow`, `Query.countRows`: the row of a count, and the rows that a count makes

## Main results

* `QueryState.assemble_eq`: the three parts
* `Query.result_findAll`, `Query.result_count`: the results of finding and of counting, by parts
-/

namespace DocQuery

namespace QueryState

/-- The stages that make the rows of a query. -/
def rowStages (s : QueryState) : List Document :=
  s.rawStages .before ++ s.lookup?.toList ++ s.unwind?.toList ++
    stageUnlessEmpty "$addFields" s.addFields ++ s.matchStages ++ s.sortStages ++
    stageUnlessZero "$skip" s.skip ++ stageUnlessZero "$limit" s.limit

/-- The stages behind a count. -/
def shapeStages (s : QueryState) : List Document :=
  stageUnlessEmpty "$project" s.fields ++ s.group?.toList ++ s.rawStages .after

theorem assemble_eq (s : QueryState) :
    s.assemble = s.rowStages ++ (s.count?.toList ++ s.shapeStages) := by
  simp only [assemble, rowStages, shapeStages, List.append_assoc]

theorem rawStages_eq_nil {s : QueryState} (h : s.hasRawStages = false) (placement : Placement) :
    s.rawStages placement = [] := by
  unfold hasRawStages at h
  unfold rawStages
  cases hpipeline : s.pipeline? with
  | none => rfl
  | some raw =>
    rw [hpipeline] at h
    have hnil : raw.stages = [] := by simpa using h
    simp only [hnil, ite_self]

/-- Without ready-made stages and without a group the rows are only projected. -/
theorem shapeStages_eq {s : QueryState} (hraw : s.hasRawStages = false) (hgroup : s.group? = none) :
    s.shapeStages = stageUnlessEmpty "$project" s.fields := by
  rw [shapeStages, rawStages_eq_nil hraw, hgroup]
  simp only [Option.toList_none, List.append_nil]

end QueryState

namespace Query

variable {κ : Type} (q : Query κ) (s : Store)

variable [Regex.Engine]

/-- The rows that stages make of the documents of the collection of a query. -/
def rowsOf (stages : List Document) : Except QueryError (List Document) :=
  match q.collection? with
  | some collection =>
    (Pipeline.run s.collections (s.documents collection.name) stages []).mapError
      QueryError.backend
  | none => .error .noCollection

/-- The row of a count. -/
def countRow (n : Nat) : Document := [("count", Pipeline.countValue n)]

/-- The rows that a count makes: one with the number of rows, unless there are none. -/
def countRows (rows : List Document) : List Document :=
  if rows.isEmpty then [] else [countRow rows.length]

omit [Regex.Engine] in
/-- A number of rows that fits thirty-two bits is read back from the row of its count. -/
theorem countOf_countValue {n : Nat} (hn : n < 2 ^ 31) : countOf (Pipeline.countValue n) = n := by
  rw [Pipeline.countValue, if_pos hn, countOf, Int32.toInt_ofInt_of_le (by omega) (by omega),
    Int.toNat_natCast]

omit [Regex.Engine] in
theorem countOfRows_countRows {rows : List Document} (hrows : rows.length < 2 ^ 31) :
    countOfRows (countRows rows) = rows.length := by
  cases rows with
  | nil => rfl
  | cons row rest => exact countOf_countValue hrows

theorem store_run : (q.run s).store = s := by
  unfold run withCollection
  cases q.collection? with
  | none => rfl
  | some collection =>
    simp only [traced, Store.aggregate, Store.Effect.mapError]
    split <;> rfl

theorem result_run :
    (q.run s).result =
      (q.rowsOf s q.stages).map fun rows => ⟨rows, q.expectMany, q.state.indexBy?⟩ := by
  unfold run withCollection rowsOf
  cases q.collection? with
  | none => rfl
  | some collection =>
    simp only [traced, Store.aggregate, Store.Effect.mapError]
    cases Pipeline.run s.collections (s.documents collection.name) q.stages [] <;> rfl

/-- The rows of the first stages are what the others work on. -/
theorem rowsOf_append (first second : List Document) :
    q.rowsOf s (first ++ second) = (q.rowsOf s first >>= fun rows =>
      (Pipeline.run s.collections rows second []).mapError QueryError.backend) := by
  unfold rowsOf
  cases q.collection? with
  | none => rfl
  | some collection =>
    simp only [Pipeline.run_append]
    cases Pipeline.run s.collections (s.documents collection.name) first [] <;> rfl

/-! ## Finding and counting -/

theorem result_findAll (hcount : q.state.count? = none) :
    (q.findAll s).2.result =
      ((q.rowsOf s q.state.rowStages >>= fun rows =>
        (Pipeline.run s.collections rows q.state.shapeStages []).mapError QueryError.backend).map
          fun rows => ⟨rows, true, q.state.indexBy?⟩) := by
  have hstages : q.forAll.stages = q.state.rowStages ++ q.state.shapeStages := by
    change q.state.assemble = _
    rw [QueryState.assemble_eq, hcount]
    rfl
  rw [findAll, result_run, hstages, rowsOf_append]
  rfl

/-- Finding one row is finding all rows with a limit of one. -/
theorem result_find :
    (q.find s).2.result =
      (q.forOne.findAll s).2.result.map fun r => { r with expectMany := false } := by
  rw [find, findAll, result_run, result_run]
  have hstages : q.forOne.forAll.stages = q.forOne.stages := rfl
  have hrows : q.forOne.forAll.rowsOf s = q.forOne.rowsOf s := rfl
  rw [hstages, hrows]
  cases q.forOne.rowsOf s q.forOne.stages <;> rfl

theorem store_count : (q.count s).2.store = s := store_run q.forCount s

/-- A count is taken of the rows of a query, and what is read back is what the other stages make of
the row of the count. -/
theorem result_count :
    (q.count s).2.result = (q.rowsOf s q.state.rowStages >>= fun rows =>
      ((Pipeline.run s.collections (countRows rows) q.state.shapeStages []).mapError
        QueryError.backend).map countOfRows) := by
  have hstages : q.forCount.stages =
      q.state.rowStages ++ ([[("$count", .string "count")]] ++ q.state.shapeStages) :=
    QueryState.assemble_eq _
  have hresult : (q.count s).2.result =
      (q.forCount.run s).result.map fun r => countOfRows r.rows := rfl
  have hrows : q.forCount.rowsOf s = q.rowsOf s := rfl
  rw [hresult, result_run, hstages, hrows, rowsOf_append]
  cases q.rowsOf s q.state.rowStages with
  | error e => rfl
  | ok rows =>
    have hcounted : Pipeline.run s.collections rows
        ([[("$count", .string "count")]] ++ q.state.shapeStages) [] =
          Pipeline.run s.collections (countRows rows) q.state.shapeStages [] := by
      rw [Pipeline.run_append, Pipeline.run_count]
      rfl
    simp only [bind, Except.bind, hcounted]
    cases Pipeline.run s.collections (countRows rows) q.state.shapeStages [] <;> rfl

end Query

end DocQuery
