import DocQuery.Proofs.Query.Paging
import DocQuery.Proofs.Query.Selecting

/-!
# The first row

Finding one row puts a limit of one in the place of the limit of the query, ahead of the projection.
Whatever limit was there let the first row through, if there is one, and rows are projected one by
one. So the row that is found is the first of all rows, and a row behind it that cannot be projected
does no harm.

## Main definitions

* `QueryState.unlimitedStages`: the stages ahead of the limit

## Main results

* `Query.find_eq_ok_iff`: the row that is found is the projection of the first row
* `Query.find_of_findAll`: one row next to all rows
-/

namespace DocQuery

namespace QueryState

/-- The stages ahead of the limit. -/
def unlimitedStages (s : QueryState) : List Document :=
  s.sourceStages ++ stageUnlessZero "$skip" s.skip

end QueryState

open QueryState (limited)

namespace Query

variable {κ : Type} {q : Query κ} {s : Store}

section

variable [Regex.Engine]

theorem rowsOf_limited (q : Query κ) (s : Store) :
    q.rowsOf s q.state.rowStages =
      (q.rowsOf s q.state.unlimitedStages).map (limited q.state.limit) := by
  rw [QueryState.rowStages_eq, ← List.append_assoc, rowsOf_append]
  simp only [Pipeline.run_limit]
  change q.rowsOf s q.state.unlimitedStages >>= _ = _
  cases q.rowsOf s q.state.unlimitedStages <;> rfl

section

variable (hraw : q.state.hasRawStages = false) (hcount : q.state.count? = none)
  (hgroup : q.state.group? = none)

include hraw hcount hgroup

/-- One row is found by projecting the first that the stages ahead of the limit make. -/
theorem find_eq_ok_iff {r : ResultSet} :
    (q.find s).2.result = .ok r ↔
      (∃ docs, q.rowsOf s q.state.unlimitedStages = .ok docs ∧
        List.Forall₂ (fun d row => Project.doc d q.state.fields [] = .ok row) (docs.take 1)
          r.rows) ∧
      r.expectMany = false ∧ r.indexBy? = q.state.indexBy? := by
  have hrows : q.forOne.rowsOf s q.forOne.state.rowStages =
      (q.rowsOf s q.state.unlimitedStages).map (·.take 1) := by
    rw [rowsOf_limited]
    change (q.rowsOf s q.state.unlimitedStages).map (limited 1) = _
    rw [funext QueryState.limited_one]
  rw [result_find, Except.map_eq_ok_iff]
  constructor
  · rintro ⟨found, hfound, rfl⟩
    obtain ⟨⟨first, hfirst, hproject⟩, -, hindex⟩ :=
      (findAll_eq_ok_iff (q := q.forOne) hraw hcount hgroup).1 hfound
    rw [hrows] at hfirst
    obtain ⟨docs, hdocs, rfl⟩ := Except.map_eq_ok_iff.1 hfirst
    exact ⟨⟨docs, hdocs, hproject⟩, rfl, hindex⟩
  · obtain ⟨rows, expectMany, indexBy?⟩ := r
    rintro ⟨⟨docs, hdocs, hproject⟩, rfl, rfl⟩
    refine ⟨⟨rows, true, q.state.indexBy?⟩, ?_, rfl⟩
    refine (findAll_eq_ok_iff (q := q.forOne) hraw hcount hgroup).2
      ⟨⟨docs.take 1, ?_, ?_⟩, rfl, rfl⟩
    · rw [hrows, hdocs]
      rfl
    · exact hproject

end

/-- If finding all rows succeeds, so does finding one, which gives the first of them, or none if
there are none. -/
theorem find_of_findAll (q : Query κ) (s : Store) (hraw : q.state.hasRawStages = false)
    (hcount : q.state.count? = none) (hgroup : q.state.group? = none) {r : ResultSet}
    (h : (q.findAll s).2.result = .ok r) :
    (q.find s).2.result = .ok ⟨r.rows.head?.toList, false, r.indexBy?⟩ := by
  obtain ⟨⟨kept, hkept, hproject⟩, -, hindex⟩ := (findAll_eq_ok_iff hraw hcount hgroup).1 h
  rw [rowsOf_limited] at hkept
  obtain ⟨docs, hdocs, rfl⟩ := Except.map_eq_ok_iff.1 hkept
  refine (find_eq_ok_iff hraw hcount hgroup).2 ⟨⟨docs, hdocs, ?_⟩, rfl, hindex⟩
  have hfirst := List.forall₂_take 1 hproject
  rwa [QueryState.take_one_limited, List.take_one (l := r.rows)] at hfirst

end

/-- The second oldest of three, with a new name for the age and the number of tags. -/
theorem find_of_findAll_users :
    let fields : List Field :=
      [.name "name", .renamed "age" "years", .computed (.ofField .length "tags")]
    let q := ((⟨none, some ⟨(), "users"⟩, .empty, true, true⟩ : Query Unit).select fields).mapState
      fun s => { s with skip := 1, limit := 5, order? := some [("age", .int32 (-1))] }
    let s : Store :=
      ⟨[("users", [[("name", .string "al"), ("age", .int32 30), ("tags", .array [])],
        [("name", .string "bo"), ("age", .int32 50), ("tags", .array [.null])],
        [("name", .string "cy"), ("age", .int32 40), ("tags", .array [.null, .null])]])], 0⟩
    ∃ r, (q.findAll s).2.result = .ok r ∧
      r.rows.map (Document.string? · "name") = [some "cy", some "al"] ∧
      (q.find s).2.result = .ok ⟨r.rows.head?.toList, false, r.indexBy?⟩ := by
  intro fields q s
  have hfound : (q.findAll s).2.result.toOption.map
      (·.rows.map (Document.string? · "name")) = some [some "cy", some "al"] := by
    decide +kernel
  obtain ⟨r, hr, hnames⟩ := Except.toOption_map_eq_some_iff.1 hfound
  exact ⟨r, hr, hnames, find_of_findAll q s rfl rfl rfl hr⟩

end Query

end DocQuery
