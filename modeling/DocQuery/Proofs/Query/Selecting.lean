import DocQuery.Proofs.Selection.Projection

/-!
# Finding selected fields

Every row that is found is the projection of a row that the stages ahead of it make. For a selection
of names it has no keys but first segments of these names, unless the identifier alone is named: that
projection excludes nothing, and rows come whole.

## Main results

* `Query.findAll_eq_ok_iff`: rows are found by projecting what the first stages make
* `Query.select_rows`: what rows of named fields are made of
-/

namespace DocQuery.Query

variable {κ : Type}

section

variable [Regex.Engine]

/-- Finding all rows projects the rows that the first stages make, one by one. -/
theorem findAll_eq_ok_iff {q : Query κ} {s : Store} (hraw : q.state.hasRawStages = false)
    (hcount : q.state.count? = none) (hgroup : q.state.group? = none) {r : ResultSet} :
    (q.findAll s).2.result = .ok r ↔
      (∃ docs, q.rowsOf s q.state.rowStages = .ok docs ∧
        List.Forall₂ (fun d row => Project.doc d q.state.fields [] = .ok row) docs r.rows) ∧
      r.expectMany = true ∧ r.indexBy? = q.state.indexBy? := by
  rw [result_findAll q s hcount, Except.map_eq_ok_iff]
  simp only [QueryState.run_shapeStages hraw hgroup, Except.bind_eq_ok_iff,
    Except.mapError_eq_ok_iff, Pipeline.mapDocs_eq_ok_iff]
  constructor
  · rintro ⟨rows, hrows, rfl⟩
    exact ⟨hrows, rfl, rfl⟩
  · obtain ⟨rows, expectMany, indexBy?⟩ := r
    rintro ⟨hrows, rfl, rfl⟩
    exact ⟨rows, hrows, rfl⟩

/-- Rows of named fields are projections of what the first stages make. -/
theorem findAll_select_eq_ok_iff {q : Query κ} {s : Store} (hraw : q.state.hasRawStages = false)
    (names : List String) {r : ResultSet} :
    ((q.select (names.map .name)).findAll s).2.result = .ok r ↔
      (∃ docs, (q.select (names.map .name)).rowsOf s
          (q.select (names.map .name)).state.rowStages = .ok docs ∧
        List.Forall₂ (fun d row =>
          Project.doc d (Selection.resolve (names.map .name)).fields [] = .ok row) docs r.rows) ∧
      r.expectMany = true ∧ r.indexBy? = q.state.indexBy? := by
  obtain ⟨-, hgroup, hcount⟩ := Selection.parts_map_name names
  exact findAll_eq_ok_iff (q := q.select (names.map .name)) hraw hcount hgroup

/-- If something besides the identifier is named, rows have no keys but first segments of the names.
If the identifier alone is named, rows are whatever the first stages make. -/
theorem select_rows (q : Query κ) (s : Store) (hraw : q.state.hasRawStages = false)
    (names : List String) (hne : names ≠ []) {r : ResultSet}
    (h : ((q.select (names.map .name)).findAll s).2.result = .ok r) :
    ((∃ name ∈ names, name ≠ "_id") → ∀ row ∈ r.rows, ∀ key ∈ Document.keys row,
        ∃ name ∈ names, (Path.segments name).head? = some key) ∧
      ((∀ name ∈ names, name = "_id") →
        (q.select (names.map .name)).rowsOf s (q.select (names.map .name)).state.rowStages =
          .ok r.rows) := by
  obtain ⟨⟨docs, hdocs, hrows⟩, -⟩ := (findAll_select_eq_ok_iff hraw names).1 h
  have hrequested := Selection.requested_map_name names
  constructor
  · intro hother row hrow key hkey
    obtain ⟨d, -, hdoc⟩ := exists_mem_of_forall₂ hrows hrow
    rw [← hrequested] at hother ⊢
    exact Selection.keys_of_doc_resolve hother hdoc hkey
  · intro hall
    have hid : "_id" ∈ names := by
      obtain ⟨name, hname⟩ := List.exists_mem_of_ne_nil names hne
      exact hall name hname ▸ hname
    have hwhole : ∀ d row,
        Project.doc d (Selection.resolve (names.map .name)).fields [] = .ok row → d = row := by
      intro d row hdoc
      rw [Selection.doc_resolve, hrequested, if_pos hid, if_neg] at hdoc
      · exact Except.ok.inj hdoc
      · rintro ⟨name, hname, hne⟩
        exact hne (hall name hname)
    have hsame : docs = r.rows := List.forall₂_eq_eq_eq ▸ hrows.imp hwhole
    rw [hdocs, hsame]

end

/-- The name and the identifier of two rows, and the identifier alone. -/
theorem select_rows_users :
    let q : Query Unit := ⟨none, some ⟨(), "users"⟩, .empty, true, true⟩
    let s : Store := ⟨[("users", [[("_id", .int32 1), ("name", .string "al"), ("age", .int32 3)]])],
      0⟩
    ∃ named whole, ((q.select [.name "name", .name "_id"]).findAll s).2.result = .ok named ∧
      (∀ row ∈ named.rows, ∀ key ∈ Document.keys row, ∃ name ∈ ["name", "_id"],
        (Path.segments name).head? = some key) ∧
      ((q.select [.name "_id"]).findAll s).2.result = .ok whole ∧
      (q.select [.name "_id"]).rowsOf s (q.select [.name "_id"]).state.rowStages =
        .ok whole.rows := by
  intro q s
  have hnamed : ((q.select [.name "name", .name "_id"]).findAll s).2.result.toOption.map
      (·.rows.length) = some 1 := by decide +kernel
  have hwhole : ((q.select [.name "_id"]).findAll s).2.result.toOption.map (·.rows.length) =
      some 1 := by decide +kernel
  obtain ⟨named, hone, -⟩ := Except.toOption_map_eq_some_iff.1 hnamed
  obtain ⟨whole, htwo, -⟩ := Except.toOption_map_eq_some_iff.1 hwhole
  exact ⟨named, whole, hone,
    (select_rows q s rfl ["name", "_id"] (by decide) hone).1 (by decide), htwo,
    (select_rows q s rfl ["_id"] (by decide) htwo).2 (by decide)⟩

/-- A row of which the identifier is selected shows its name too. -/
theorem not_forall_keys_selected :
    ¬ ∀ (q : Query Unit) (s : Store) (names : List String) (r : ResultSet),
      q.state.hasRawStages = false → names ≠ [] →
        ((q.select (names.map .name)).findAll s).2.result = .ok r →
          ∀ row ∈ r.rows, ∀ key ∈ Document.keys row,
            ∃ name ∈ names, (Path.segments name).head? = some key := by
  intro h
  let q : Query Unit := ⟨none, some ⟨(), "users"⟩, .empty, true, true⟩
  let s : Store := ⟨[("users", [[("_id", .int32 1), ("name", .string "al")]])], 0⟩
  have hfound : ((q.select [.name "_id"]).findAll s).2.result.toOption.map
      (·.rows.map Document.keys) = some [["_id", "name"]] := by decide +kernel
  obtain ⟨r, hr, hkeys⟩ := Except.toOption_map_eq_some_iff.1 hfound
  obtain ⟨row, hrow, hrow_keys⟩ := List.map_eq_singleton_iff.1 hkeys
  have hmem : "name" ∈ Document.keys row := by rw [hrow_keys]; decide
  have hshown := h q s ["_id"] r rfl (by decide) hr row (hrow ▸ List.mem_cons_self) "name" hmem
  revert hshown
  decide

end DocQuery.Query
