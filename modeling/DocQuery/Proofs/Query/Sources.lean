import DocQuery.Proofs.Query.Paging

/-!
# Where rows come from

Matching, sorting, skipping and limiting pick rows and change none. So without stages that make rows
of another kind, a query works on documents that stand in the store, and with computed fields on
these documents with the fields added.

## Main definitions

* `Pipeline.Picks`: a stage that picks rows
* `Query.matched`: the documents that match, in the order of the query

## Main results

* `Pipeline.mem_of_runStage`, `Pipeline.mem_of_run`: picked rows are among the rows of the input
* `Query.mem_documents_of_rowsOf`: the rows of a query are documents of its collection
* `Query.rowsOf_rowStages`: the rows of a query with computed fields and a limit
-/

namespace DocQuery

namespace Pipeline

variable {collections : Collections} {vars : Document} {docs rows : List Document}

/-- A stage that picks some of its rows. -/
def Picks (stage : Document) : Prop :=
  ∃ name body, stage = [(name, body)] ∧ name ∈ ["$match", "$sort", "$skip", "$limit"]

variable [Regex.Engine]

/-- The rows of a stage that picks are among its input. -/
theorem mem_of_runStage {stage : Document} (hpicks : Picks stage)
    (h : runStage collections vars (.document stage) docs = .ok rows) {row : Document}
    (hrow : row ∈ rows) : row ∈ docs := by
  obtain ⟨name, body, rfl, hname⟩ := hpicks
  have hlookup : name ≠ "$lookup" := by
    rintro rfl
    revert hname
    decide
  rw [runStage_of_ne _ _ _ hlookup] at h
  simp only [List.mem_cons, List.not_mem_nil, or_false] at hname
  obtain rfl | rfl | rfl | rfl := hname
  · obtain ⟨query, -, hquery⟩ := Except.bind_eq_ok_iff.1 h
    obtain ⟨-, rfl⟩ := filterDocs_eq_ok_iff.1 hquery
    exact List.mem_of_mem_filter hrow
  · obtain ⟨keys, -, hkeys⟩ := Except.bind_eq_ok_iff.1 h
    cases hkeys
    exact (Sort.run_perm keys docs).mem_iff.1 hrow
  · obtain ⟨n, -, hn⟩ := Except.bind_eq_ok_iff.1 h
    cases hn
    exact List.mem_of_mem_drop hrow
  · obtain ⟨n, -, hn⟩ := Except.bind_eq_ok_iff.1 h
    cases hn
    exact List.mem_of_mem_take hrow

/-- The rows of a pipeline that picks are among its input. -/
theorem mem_of_run {stages : List Document} (hpicks : ∀ stage ∈ stages, Picks stage)
    (h : run collections docs stages vars = .ok rows) {row : Document} (hrow : row ∈ rows) :
    row ∈ docs := by
  induction stages generalizing docs with
  | nil =>
    rw [run_nil] at h
    cases h
    exact hrow
  | cons stage rest ih =>
    rw [run_cons] at h
    obtain ⟨first, hfirst, hrest⟩ := Except.bind_eq_ok_iff.1 h
    have hmem := ih (fun other hother => hpicks other (List.mem_cons_of_mem _ hother)) hrest
    exact mem_of_runStage (hpicks stage List.mem_cons_self) hfirst hmem

theorem run_addFields (fields : Document) :
    run collections docs (QueryState.stageUnlessEmpty "$addFields" fields) [] =
      mapDocs (Project.addFields [] fields) docs := by
  unfold QueryState.stageUnlessEmpty
  split
  · next hempty =>
    have hsame : mapDocs (Project.addFields [] []) docs = .ok (docs.map id) :=
      mapDocs_eq_ok fun _ _ => rfl
    rw [run_nil, List.isEmpty_iff.1 hempty, hsame, List.map_id]
  · rw [run_singleton, runStage_of_ne _ _ _ (by decide), runPlain]
    rfl

end Pipeline

namespace QueryState

/-- Without joins, unwinding, computed fields and ready-made stages, rows are picked. -/
theorem picks_of_mem_rowStages {s : QueryState} (hraw : s.hasRawStages = false)
    (hlookup : s.lookup? = none) (hunwind : s.unwind? = none) (hfields : s.addFields = [])
    {stage : Document} (h : stage ∈ s.rowStages) : Pipeline.Picks stage := by
  rw [rowStages, rawStages_eq_nil hraw, hlookup, hunwind, hfields] at h
  simp only [Option.toList_none, List.nil_append, stageUnlessEmpty, List.isEmpty_nil, if_true,
    matchStages, sortStages, stageUnlessZero, List.mem_append] at h
  obtain ((h | h) | h) | h := h
  all_goals
    split at h
    · cases h
    · exact ⟨_, _, List.mem_singleton.1 h, by decide⟩

end QueryState

namespace Query

variable {κ : Type} [Regex.Engine]

/-- The documents that match, in the order of the query. -/
def matched (q : Query κ) (docs : List Document) : List Document :=
  Sort.run (q.state.order?.getD QueryState.defaultOrder)
    (if q.state.filters.isEmpty then docs else docs.filter (Condition.isMatch q.filter []))

variable {q : Query κ} {s : Store} {rows : List Document}

theorem rowsOf_eq_ok_iff {stages : List Document} :
    q.rowsOf s stages = .ok rows ↔ ∃ collection, q.collection? = some collection ∧
      Pipeline.run s.collections (s.documents collection.name) stages [] = .ok rows := by
  unfold rowsOf
  cases q.collection? with
  | none => simp
  | some collection => simp [Except.mapError_eq_ok_iff]

/-- Without joins, unwinding, computed fields and ready-made stages, rows are documents of the
collection. -/
theorem mem_documents_of_rowsOf (hraw : q.state.hasRawStages = false)
    (hlookup : q.state.lookup? = none) (hunwind : q.state.unwind? = none)
    (hfields : q.state.addFields = []) (h : q.rowsOf s q.state.rowStages = .ok rows) :
    ∃ collection, q.collection? = some collection ∧
      ∀ row ∈ rows, row ∈ s.documents collection.name := by
  obtain ⟨collection, hcollection, hrun⟩ := rowsOf_eq_ok_iff.1 h
  refine ⟨collection, hcollection, fun row hrow => ?_⟩
  have hpicks : ∀ stage ∈ q.state.rowStages, Pipeline.Picks stage :=
    fun _ hstage => QueryState.picks_of_mem_rowStages hraw hlookup hunwind hfields hstage
  exact Pipeline.mem_of_run hpicks hrun hrow

/-- Matching and sorting. -/
theorem matched_of_run (hraw : q.state.hasRawStages = false) {docs : List Document}
    {collections : Collections}
    (h : Pipeline.run collections docs (q.state.matchStages ++ q.state.sortStages) [] = .ok rows) :
    rows = q.matched docs := by
  rw [Pipeline.run_append] at h
  obtain ⟨kept, hkept, hsort⟩ := Except.bind_eq_ok_iff.1 h
  rw [QueryState.sortStages, hraw, if_neg Bool.false_ne_true, Pipeline.run_sort] at hsort
  obtain rfl := Except.ok.inj hsort
  unfold matched
  rw [QueryState.matchStages] at hkept
  split at hkept
  · next hempty =>
    rw [Pipeline.run_nil] at hkept
    obtain rfl := Except.ok.inj hkept
    rw [if_pos hempty]
  · next hempty =>
    rw [Pipeline.run_match] at hkept
    obtain ⟨-, rfl⟩ := Pipeline.filterDocs_eq_ok_iff.1 hkept
    rw [if_neg hempty]
    rfl

/-- Without joins, unwinding, ready-made stages and an offset, the rows are the matching documents
with the computed fields added, as many as the limit says. -/
theorem rowsOf_rowStages (hraw : q.state.hasRawStages = false) (hlookup : q.state.lookup? = none)
    (hunwind : q.state.unwind? = none) (hskip : q.state.skip = 0) (hlimit : q.state.limit < 2 ^ 53)
    (h : q.rowsOf s q.state.rowStages = .ok rows) :
    ∃ collection docs, q.collection? = some collection ∧
      List.Forall₂ (fun d e => Project.addFields [] q.state.addFields d = .ok e)
        (s.documents collection.name) docs ∧
      rows = if q.state.limit = 0 then q.matched docs
        else (q.matched docs).take q.state.limit := by
  obtain ⟨collection, hcollection, hrun⟩ := rowsOf_eq_ok_iff.1 h
  have hstages : q.state.rowStages = QueryState.stageUnlessEmpty "$addFields" q.state.addFields ++
      ((q.state.matchStages ++ q.state.sortStages) ++
        QueryState.stageUnlessZero "$limit" q.state.limit) := by
    rw [QueryState.rowStages, QueryState.rawStages_eq_nil hraw, hlookup, hunwind, hskip]
    simp only [Option.toList_none, List.nil_append, QueryState.stageUnlessZero, if_true,
      List.append_nil, List.append_assoc]
  rw [hstages, Pipeline.run_append, Pipeline.run_addFields] at hrun
  obtain ⟨docs, hdocs, hrest⟩ := Except.bind_eq_ok_iff.1 hrun
  rw [Pipeline.run_append] at hrest
  obtain ⟨found, hfound, hlast⟩ := Except.bind_eq_ok_iff.1 hrest
  rw [Pipeline.run_limit, QueryState.limited, QueryState.countRead_of_lt hlimit] at hlast
  obtain rfl := matched_of_run hraw hfound
  exact ⟨collection, docs, hcollection, Pipeline.mapDocs_eq_ok_iff.1 hdocs,
    (Except.ok.inj hlast).symm⟩

end Query

end DocQuery
