import DocQuery.Proofs.Query.Selecting
import DocQuery.Proofs.Query.Sources

/-!
# Indexing rows of selected fields

An index key is accepted if the projection has an entry for it, and every projection of a selection
has one for the identifier, which may be an exclusion. Rows are then keyed by what stands at their
top level under the key. So a named field without a dot keys every row that comes from a document
with a value there, while a field behind a dot and an excluded identifier key none.

## Main results

* `ResultSet.indexRows_eq`: the rows by their keys, as one document
* `Query.indexBy_select`: which keys a selection accepts
* `Query.indexed_select`: the keys that the rows get
-/

namespace DocQuery

namespace ResultSet

/-- The rows by their keys are written into a document one after another. -/
theorem indexRows_eq (r : ResultSet) (position : Nat) (rows : List Document) (acc : Document) :
    r.indexRows position rows acc = Document.extend acc
      ((rows.zipIdx position).map fun row => (r.rowKey row.2 row.1, .document row.1)) := by
  induction rows generalizing position acc with
  | nil => rfl
  | cons row rest ih =>
    rw [indexRows, ih, List.zipIdx_cons]
    rfl

theorem indexed_eq {r : ResultSet} (h : r.expectMany = true) :
    r.indexed = .ok (Document.ofList
      (r.rows.zipIdx.map fun row => (r.rowKey row.2 row.1, .document row.1))) := by
  rw [indexed, if_pos h, indexRows_eq]
  rfl

theorem rowKey_of_some {r : ResultSet} {key : String} (hindex : r.indexBy? = some key)
    {row : Document} {v : Value} (h : Document.get? row key = some v) (position : Nat) :
    r.rowKey position row = v.keyText := by
  simp only [rowKey, hindex, Option.bind_some, h]

theorem rowKey_of_none {r : ResultSet} {key : String} (hindex : r.indexBy? = some key)
    {row : Document} (h : Document.get? row key = none) (position : Nat) :
    r.rowKey position row = toString position := by
  simp only [rowKey, hindex, Option.bind_some, h]

end ResultSet

namespace Query

variable {κ : Type} {names : List String} {key : String}

/-- A selection of names accepts these and the identifier as index keys. -/
theorem indexBy_select (q : Query κ) :
    (q.select (names.map .name)).indexBy key =
      if key ∈ names ∨ key = "_id" then
        .ok ((q.select (names.map .name)).mapState fun s => { s with indexBy? := some key })
      else .error (.unselectedIndexKey key) := by
  have hkeys : ∀ other, other ∈ Document.keys (Selection.resolve (names.map .name)).fields ↔
      other ∈ names ∨ other = "_id" := by
    intro other
    rw [Selection.keys_resolve, Selection.requested_map_name]
  have hfields : (Selection.resolve (names.map .name)).fields ≠ [] := by
    intro hnil
    have hid := (hkeys "_id").2 (.inr rfl)
    rw [hnil] at hid
    cases hid
  have hstate : (q.select (names.map .name)).state.fields =
      (Selection.resolve (names.map .name)).fields := rfl
  rw [indexBy, hstate]
  by_cases hkey : key ∈ names ∨ key = "_id"
  · have hcontains := (Document.contains_iff_mem_keys _ _).2 ((hkeys key).2 hkey)
    rw [hcontains, if_pos hkey]
    simp
  · have hmissing :
        Document.contains (Selection.resolve (names.map .name)).fields key = false := by
      rw [← Bool.not_eq_true, Document.contains_iff_mem_keys, hkeys]
      exact hkey
    rw [hmissing, if_neg hkey, if_pos (by simp [hfields])]

/-! ## Keys of rows -/

section Rows

variable {d row : Document}
  (hdoc : Project.doc d (Selection.resolve (names.map .name)).fields [] = .ok row)
include hdoc

/-- A named field without a dot is at the top level of the row. -/
theorem get?_of_doc_select (hkey : key ∈ names) (hdot : '.' ∉ key.toList) {v : Value}
    (hread : Document.atPath? d key = some v) : Document.get? row key = some v := by
  have hshows : Selection.Shows (names.map .name) key := by
    refine .inl ⟨(Selection.requested_map_name names).symm ▸ hkey, fun source target hmem => ?_⟩
    obtain ⟨name, -, hname⟩ := List.mem_map.1 hmem
    cases hname
  exact Document.get?_of_atPath? hdot ((hshows.atPath?_eq hdoc).trans hread)

/-- Nothing is at the top level of the row but what the first segments of the names lead to. -/
theorem get?_of_doc_select_eq_none (hother : ∃ name ∈ names, name ≠ "_id")
    (hhead : ∀ name ∈ names, (Path.segments name).head? ≠ some key) :
    Document.get? row key = none := by
  refine Document.get?_eq_none_of_not_mem fun hmem => ?_
  rw [← Selection.requested_map_name names] at hother hhead
  obtain ⟨name, hname, heq⟩ := Selection.keys_of_doc_resolve hother hdoc hmem
  exact hhead name hname heq

/-- A row from a document with a value at an accepted key is keyed by that value if the key is named
and has no dot, and by its position if not, unless something below the key is named. -/
theorem rowKey_of_doc_select (hne : names ≠ []) (hkey : key ∈ names ∨ key = "_id")
    (hbelow : key ∈ names ∨ ∀ name ∈ names, (Path.segments name).head? ≠ some key) {v : Value}
    (hread : Document.atPath? d key = some v) {r : ResultSet} (hindex : r.indexBy? = some key)
    (position : Nat) :
    r.rowKey position row =
      if key ∈ names ∧ '.' ∉ key.toList then v.keyText else toString position := by
  by_cases hnamed : key ∈ names
  · by_cases hdot : '.' ∈ key.toList
    · have hhead : ∀ name ∈ names, (Path.segments name).head? ≠ some key := by
        intro name _ heq
        exact Path.not_mem_of_mem_segments (List.mem_of_head? heq) hdot
      have hother : ∃ name ∈ names, name ≠ "_id" := by
        refine ⟨key, hnamed, ?_⟩
        rintro rfl
        revert hdot
        decide
      rw [if_neg fun h => h.2 hdot,
        ResultSet.rowKey_of_none hindex (get?_of_doc_select_eq_none hdoc hother hhead)]
    · rw [if_pos ⟨hnamed, hdot⟩,
        ResultSet.rowKey_of_some hindex (get?_of_doc_select hdoc hnamed hdot hread)]
  · obtain rfl := hkey.resolve_left hnamed
    have hother : ∃ name ∈ names, name ≠ "_id" := by
      obtain ⟨name, hname⟩ := List.exists_mem_of_ne_nil names hne
      exact ⟨name, hname, fun heq => hnamed (heq ▸ hname)⟩
    rw [if_neg fun h => hnamed h.1, ResultSet.rowKey_of_none hindex
      (get?_of_doc_select_eq_none hdoc hother (hbelow.resolve_left hnamed))]

end Rows

/-- A key is refused exactly if it is neither named nor the identifier. With an accepted one, the
rows come in order from rows that the first stages make, which are documents of the collection
unless there is a join or an unwinding, and the index holds each row under its key: the text of the
value that the document has there if the key is named and has no dot, and else the position. -/
theorem indexed_select [Regex.Engine] (q : Query κ) (s : Store)
    (hraw : q.state.hasRawStages = false) (names : List String) (hne : names ≠ []) (key : String) :
    ((q.select (names.map .name)).indexBy key = .error (.unselectedIndexKey key) ↔
        key ∉ names ∧ key ≠ "_id") ∧
      ∀ q', (q.select (names.map .name)).indexBy key = .ok q' →
        ∀ r, (q'.findAll s).2.result = .ok r →
          r.indexed = .ok (Document.ofList
            (r.rows.zipIdx.map fun row => (r.rowKey row.2 row.1, .document row.1))) ∧
          ∃ docs, q'.rowsOf s q'.state.rowStages = .ok docs ∧
            (q.state.lookup? = none → q.state.unwind? = none →
              ∃ collection, q.collection? = some collection ∧
                ∀ d ∈ docs, d ∈ s.documents collection.name) ∧
            List.Forall₂ (fun d row => ∀ v, Document.atPath? d key = some v →
              (key ∈ names ∨ ∀ name ∈ names, (Path.segments name).head? ≠ some key) →
                ∀ position, r.rowKey position row =
                  if key ∈ names ∧ '.' ∉ key.toList then v.keyText else toString position)
              docs r.rows := by
  rw [indexBy_select]
  by_cases hkey : key ∈ names ∨ key = "_id"
  · rw [if_pos hkey]
    refine ⟨⟨nofun, fun h => absurd hkey (not_or.2 h)⟩, ?_⟩
    rintro q' hq' r hr
    -- Selecting and setting the key write different settings, so their order does not matter.
    let keyed := q.mapState fun s => { s with indexBy? := some key }
    obtain rfl : keyed.select (names.map .name) = q' := Except.ok.inj hq'
    obtain ⟨⟨docs, hdocs, hrows⟩, hmany, hindex⟩ :=
      (findAll_select_eq_ok_iff (q := keyed) hraw names).1 hr
    refine ⟨ResultSet.indexed_eq hmany, docs, hdocs, fun hlookup hunwind => ?_, ?_⟩
    · have hfields : (Selection.resolve (names.map .name)).addFields = [] :=
        (Selection.parts_map_name names).1
      exact mem_documents_of_rowsOf (q := keyed.select (names.map .name)) hraw hlookup hunwind
        hfields hdocs
    · exact hrows.imp fun d row hdoc v hread hbelow position =>
        rowKey_of_doc_select hdoc hne hkey hbelow hread hindex position
  · rw [if_neg hkey]
    exact ⟨⟨fun _ => not_or.1 hkey, fun _ => rfl⟩, fun _ hq' => nomatch hq'⟩

/-- Two rows by their names. -/
theorem indexed_select_users :
    let q : Query Unit := ⟨none, some ⟨(), "users"⟩, .empty, true, true⟩
    let s : Store := ⟨[("users", [[("_id", .int32 1), ("name", .string "al")],
      [("_id", .int32 2), ("name", .string "bo")]])], 0⟩
    ∃ q' r, (q.select [.name "name"]).indexBy "name" = .ok q' ∧
      (q'.findAll s).2.result = .ok r ∧
      r.indexed = .ok (Document.ofList
        (r.rows.zipIdx.map fun row => (r.rowKey row.2 row.1, .document row.1))) ∧
      (r.rows.zipIdx.map fun row => r.rowKey row.2 row.1) = ["al", "bo"] := by
  intro q s
  have hfound : (((q.select [.name "name"]).mapState
      fun s => { s with indexBy? := some "name" }).findAll s).2.result.toOption.map
        (fun r => r.rows.zipIdx.map fun row => r.rowKey row.2 row.1) = some ["al", "bo"] := by
    decide +kernel
  obtain ⟨r, hr, hkeys⟩ := Except.toOption_map_eq_some_iff.1 hfound
  have haccepted : (q.select (["name"].map .name)).indexBy "name" = .ok _ :=
    (indexBy_select q).trans (if_pos (by decide))
  have hindexed := (indexed_select q s rfl ["name"] (by decide) "name").2 _ haccepted r hr
  exact ⟨_, r, haccepted, hr, hindexed.1, hkeys⟩

/-- The identifier is accepted as a key next to a selected name, and then a row with the identifier
one is keyed by its position. -/
theorem not_forall_rowKey_eq_keyText :
    ¬ ∀ (q : Query Unit) (s : Store) (names : List String) (key : String) (q' : Query Unit)
      (r : ResultSet) (docs : List Document), q.state.hasRawStages = false → names ≠ [] →
        (q.select (names.map .name)).indexBy key = .ok q' → (q'.findAll s).2.result = .ok r →
          q'.rowsOf s q'.state.rowStages = .ok docs →
            List.Forall₂ (fun d row => ∀ v, Document.atPath? d key = some v →
              ∀ position, r.rowKey position row = v.keyText) docs r.rows := by
  intro h
  let q : Query Unit := ⟨none, some ⟨(), "users"⟩, .empty, true, true⟩
  let s : Store := ⟨[("users", [[("_id", .int32 1), ("name", .string "al")]])], 0⟩
  let q' := (q.select [.name "name"]).mapState fun s => { s with indexBy? := some "_id" }
  have hfound : (q'.findAll s).2.result.toOption.map (fun r => r.rows.map (r.rowKey 0)) =
      some ["0"] := by decide +kernel
  have hsource : (q'.rowsOf s q'.state.rowStages).toOption.map
      (·.map fun d => (Document.atPath? d "_id").map Value.keyText) = some [some "1"] := by
    decide +kernel
  obtain ⟨r, hr, hkeys⟩ := Except.toOption_map_eq_some_iff.1 hfound
  obtain ⟨docs, hdocs, htexts⟩ := Except.toOption_map_eq_some_iff.1 hsource
  obtain ⟨row, hrow, hrow_key⟩ := List.map_eq_singleton_iff.1 hkeys
  obtain ⟨d, rfl, hd⟩ := List.map_eq_singleton_iff.1 htexts
  obtain ⟨v, hread, htext⟩ := Option.map_eq_some_iff.1 hd
  have haccepted : (q.select (["name"].map .name)).indexBy "_id" = .ok q' :=
    (indexBy_select q).trans (if_pos (by decide))
  have hkeyed := h q s ["name"] "_id" q' r [d] rfl (by decide) haccepted hr hdocs
  rw [hrow] at hkeyed
  cases hkeyed with
  | cons hfirst _ =>
    rw [hfirst v hread 0, htext] at hrow_key
    revert hrow_key
    decide

end Query

end DocQuery
