import DocQuery.Proofs.Query.Selecting
import DocQuery.Proofs.Query.Sources
import DocQuery.Proofs.Sort.Uniqueness

/-!
# Rows do not show the order of insertion

A query that only picks documents and projects them matches, sorts and cuts. Which documents match
does not depend on their order, nor does whether matching fails on one of them, and documents that
the sort tells apart are sorted into one list. So the rows of such a query are the same for a
collection whose documents were inserted in another order.

## Main definitions

* `Query.onHandle`: a query on another collection
* `QueryState.cut`: what the offset and the limit leave of the rows

## Main results

* `Query.matched_eq_of_perm`: the matching documents, in order, of a reordered collection
* `Query.rowsOf_eq_ok_iff_of_picks`: the rows of a query that only picks documents
* `Query.findAll_eq_ok_iff_of_perm`: what is found in a reordered collection
-/

namespace DocQuery

open Condition (docMatches isMatch)

/-- The rows that the offset and the limit leave. -/
def QueryState.cut (s : QueryState) (rows : List Document) : List Document :=
  QueryState.limited s.limit (rows.drop (QueryState.countRead s.skip))

namespace Query

variable {κ : Type} {q : Query κ} {s : Store}

/-- The query on another collection. -/
def onHandle (q : Query κ) (collection : Collection κ) : Query κ :=
  { q with collection? := some collection }

/-- The order of the query. -/
def orderKeys (q : Query κ) : Document := q.state.order?.getD QueryState.defaultOrder

theorem filter_of_isEmpty (h : q.state.filters.isEmpty = true) : q.filter = [] := by
  have hentries : q.state.filters.entries = [] := List.isEmpty_iff.1 h
  rw [filter, Filters.normalized, hentries]

section

variable [Regex.Engine]

theorem matched_eq (q : Query κ) (docs : List Document) :
    q.matched docs = Sort.run q.orderKeys (docs.filter (isMatch q.filter [])) := by
  unfold matched
  split
  · next hempty =>
    have hall : docs.filter (isMatch q.filter []) = docs := by
      rw [filter_of_isEmpty hempty]
      exact List.filter_eq_self.2 fun _ _ => rfl
    rw [hall]
    rfl
  · rfl

/-- Documents that the order of the query tells apart come in one order, however they were
inserted. -/
theorem matched_eq_of_perm {docs docs' : List Document} (hperm : docs.Perm docs')
    (hgraded : ∀ doc ∈ docs, Sort.IsGradedRow q.orderKeys doc)
    (hdistinct : docs.Pairwise fun a b => Sort.compareDocs a b q.orderKeys ≠ .eq) :
    q.matched docs = q.matched docs' := by
  rw [matched_eq, matched_eq]
  refine Sort.run_eq_of_perm (hperm.filter _) (fun doc hdoc => ?_) ?_
  · exact hgraded doc (List.mem_filter.1 hdoc).1
  · exact hdistinct.sublist List.filter_sublist

theorem run_matchStages (q : Query κ) (collections : Collections) (docs : List Document) :
    Pipeline.run collections docs q.state.matchStages [] =
      Pipeline.filterDocs q.filter [] docs := by
  rw [QueryState.matchStages]
  split
  · next hempty =>
    have hall : Pipeline.filterDocs [] [] docs = .ok (docs.filter fun _ => true) :=
      Pipeline.filterDocs_eq_ok fun _ _ => rfl
    rw [Pipeline.run_nil, filter_of_isEmpty hempty, hall, List.filter_true]
  · exact Pipeline.run_match _ _ _ _

section Picks

variable (hraw : q.state.hasRawStages = false) (hlookup : q.state.lookup? = none)
  (hunwind : q.state.unwind? = none) (hfields : q.state.addFields = [])

include hraw hlookup hunwind hfields

/-- A query that only picks documents has rows exactly if every document has a verdict, and then
they are cut out of the matching documents in order. -/
theorem rowsOf_eq_ok_iff_of_picks {collection : Collection κ}
    (hcollection : q.collection? = some collection) (rows : List Document) :
    q.rowsOf s q.state.rowStages = .ok rows ↔
      (∀ doc ∈ s.documents collection.name,
        docMatches doc q.filter [] = .ok (isMatch q.filter [] doc)) ∧
      rows = q.state.cut (q.matched (s.documents collection.name)) := by
  have hstages : q.state.rowStages = q.state.matchStages ++
      ([[("$sort", .document q.orderKeys)]] ++
        (QueryState.stageUnlessZero "$skip" q.state.skip ++
          QueryState.stageUnlessZero "$limit" q.state.limit)) := by
    rw [QueryState.rowStages, QueryState.rawStages_eq_nil hraw, hlookup, hunwind, hfields,
      QueryState.sortStages, hraw, if_neg Bool.false_ne_true]
    simp only [Option.toList_none, List.nil_append, QueryState.stageUnlessEmpty, List.isEmpty_nil,
      if_true, List.append_assoc]
    rfl
  rw [rowsOf, hcollection, hstages]
  simp only [Except.mapError_eq_ok_iff, Pipeline.run_append, run_matchStages, Pipeline.run_sort,
    Pipeline.run_skip, Except.bind_eq_ok_iff, Pipeline.run_limit, Except.ok.injEq,
    exists_eq_left', Pipeline.filterDocs_eq_ok_iff]
  constructor
  · rintro ⟨_, ⟨hverdict, rfl⟩, rfl⟩
    exact ⟨hverdict, by rw [matched_eq]; rfl⟩
  · rintro ⟨hverdict, rfl⟩
    exact ⟨_, ⟨hverdict, rfl⟩, by rw [matched_eq]; rfl⟩

end Picks

/-- Of two collections with the same documents in different orders, a query that only picks and
projects documents finds the same rows in the same order, or fails on both, if its order tells the
documents apart. -/
theorem findAll_eq_ok_iff_of_perm (q : Query κ) (s s' : Store)
    (collection collection' : Collection κ)
    (hraw : q.state.hasRawStages = false) (hlookup : q.state.lookup? = none)
    (hunwind : q.state.unwind? = none) (hfields : q.state.addFields = [])
    (hcount : q.state.count? = none) (hgroup : q.state.group? = none)
    (hperm : (s.documents collection.name).Perm (s'.documents collection'.name))
    (hgraded : ∀ doc ∈ s.documents collection.name, Sort.IsGradedRow q.orderKeys doc)
    (hdistinct : (s.documents collection.name).Pairwise fun a b =>
      Sort.compareDocs a b q.orderKeys ≠ .eq) (r : ResultSet) :
    ((q.onHandle collection).findAll s).2.result = .ok r ↔
      ((q.onHandle collection').findAll s').2.result = .ok r := by
  have hrows : ∀ rows, (q.onHandle collection).rowsOf s q.state.rowStages = .ok rows ↔
      (q.onHandle collection').rowsOf s' q.state.rowStages = .ok rows := by
    intro rows
    have hfirst := rowsOf_eq_ok_iff_of_picks (q := q.onHandle collection) (s := s) hraw hlookup
      hunwind hfields rfl rows
    have hsecond := rowsOf_eq_ok_iff_of_picks (q := q.onHandle collection') (s := s') hraw hlookup
      hunwind hfields rfl rows
    have hmatched : (q.onHandle collection).matched (s.documents collection.name) =
        (q.onHandle collection').matched (s'.documents collection'.name) :=
      matched_eq_of_perm (q := q) hperm hgraded hdistinct
    refine hfirst.trans (Iff.trans ?_ hsecond.symm)
    rw [hmatched]
    exact and_congr_left' (forall_congr' fun doc => imp_congr_left hperm.mem_iff)
  rw [findAll_eq_ok_iff (q := q.onHandle collection) hraw hcount hgroup,
    findAll_eq_ok_iff (q := q.onHandle collection') hraw hcount hgroup]
  exact and_congr_left' (exists_congr fun docs => and_congr_left' (hrows docs))

end

/-- Four documents in two collections of two stores, one of which does not match: the order of the
names makes one list of both. -/
theorem findAll_eq_ok_iff_of_perm_users :
    let q := ((empty : Query Unit).select [.name "name", .renamed "age" "years"]).mapState fun s =>
      { s with
        filters := ⟨[⟨.and, Filters.comparison "age" "$lt" (.int32 50)⟩]⟩
        order? := some [("name", .int32 (-1))]
        skip := 1 }
    let al : Document := [("name", .string "al"), ("age", .int32 30)]
    let bo : Document := [("name", .string "bo"), ("age", .int32 50)]
    let cy : Document := [("name", .string "cy"), ("age", .int32 40)]
    let di : Document := [("age", .int32 20)]
    let s : Store := ⟨[("users", [al, bo, cy, di])], 0⟩
    let s' : Store := ⟨[("users", []), ("people", [di, cy, al, bo])], 3⟩
    ∃ r, ((q.onHandle ⟨(), "users"⟩).findAll s).2.result = .ok r ∧
      ((q.onHandle ⟨(), "people"⟩).findAll s').2.result = .ok r ∧
      r.rows.map (Document.string? · "name") = [some "al", none] := by
  intro q al bo cy di s s'
  have hfound : ((q.onHandle ⟨(), "users"⟩).findAll s).2.result.toOption.map
      (·.rows.map (Document.string? · "name")) = some [some "al", none] := by decide +kernel
  obtain ⟨r, hr, hnames⟩ := Except.toOption_map_eq_some_iff.1 hfound
  have hperm : [al, bo, cy, di].Perm [di, cy, al, bo] := by
    have hlast : ([al, bo, cy] ++ [di]).Perm ([di] ++ [al, bo, cy]) := List.perm_append_comm
    have hswap : ([al, bo] ++ [cy]).Perm ([cy] ++ [al, bo]) := List.perm_append_comm
    exact hlast.trans (hswap.cons di)
  have hgraded : ∀ doc ∈ [al, bo, cy, di], Sort.IsGradedRow q.orderKeys doc := by decide +kernel
  have hdistinct : [al, bo, cy, di].Pairwise fun a b => Sort.compareDocs a b q.orderKeys ≠ .eq := by
    decide +kernel
  have hsame := findAll_eq_ok_iff_of_perm q s s' ⟨(), "users"⟩ ⟨(), "people"⟩ rfl rfl rfl rfl rfl
    rfl hperm hgraded hdistinct r
  exact ⟨r, hr, hsame.1 hr, hnames⟩

end Query

end DocQuery
