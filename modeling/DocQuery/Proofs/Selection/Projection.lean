import DocQuery.Proofs.Projection.Views
import DocQuery.Proofs.Query.Counting
import DocQuery.Proofs.Query.Merge
import DocQuery.Proofs.Selection.Resolution

/-!
# Rows of a selection

The projection of a selection never copies the identifier on its own, since it always has an entry
for it. It builds rows anew as soon as something else is requested. If nothing or the identifier
alone is requested, it is one of exclusions: rows lose their identifier in the first case and come
whole in the second.

## Main definitions

* `Selection.Shows`: the rows of a selection have at a path what the documents have

## Main results

* `Selection.isInclusive_resolve`, `Selection.doc_resolve`: the two kinds of rows
* `Selection.keys_of_doc_resolve`: rows that are built anew have what was requested and no more
* `Selection.Shows.atPath?_eq`: what is shown is what is there
-/

namespace DocQuery

namespace Selection

open Document (atPath? keys erase)

variable {fields : List Field} {d row : Document} {path : String}

/-! ## The kind of the projection -/

theorem entry?_cases {field : Field} {entry : String × Value} (h : field.entry? = some entry) :
    entry.2 = .int32 1 ∨ ∃ source, field = .renamed source entry.1 ∧
      entry.2 = .string (fieldReference source) := by
  cases field with
  | name name =>
    cases h
    exact .inl rfl
  | renamed source target =>
    cases h
    exact .inr ⟨source, rfl, rfl⟩
  | computed c =>
    rw [Field.entry?] at h
    split at h
    · cases h
      exact .inl rfl
    · cases h

/-- No field asks for an exclusion. -/
theorem isExclusion_of_requested {entry : String × Value}
    (h : entry ∈ fields.filterMap Field.entry?) : Project.isExclusion entry.2 = false := by
  obtain ⟨field, -, hentry⟩ := List.mem_filterMap.1 h
  obtain hone | ⟨source, -, hsource⟩ := entry?_cases hentry
  · rw [hone, Project.isExclusion_one]
  · rw [hsource]
    rfl

/-- What a projection does not exclude was requested. -/
theorem requested_of_not_isExclusion {entry : String × Value} (h : entry ∈ (resolve fields).fields)
    (hin : Project.isExclusion entry.2 = false) : entry ∈ fields.filterMap Field.entry? := by
  obtain h | ⟨rfl, -⟩ := mem_resolve h
  · exact h
  · rw [Project.isExclusion_zero] at hin
    cases hin

theorem isInclusive_resolve :
    Project.isInclusive (resolve fields).fields = true ↔ ∃ key ∈ requested fields, key ≠ "_id" := by
  unfold Project.isInclusive
  simp only [List.any_eq_true, Bool.and_eq_true, bne_iff_ne, Bool.not_eq_true']
  constructor
  · rintro ⟨entry, hmem, hne, hin⟩
    exact ⟨entry.1, List.mem_map_of_mem (requested_of_not_isExclusion hmem hin), hne⟩
  · rintro ⟨key, hkey, hne⟩
    obtain ⟨v, hmem, hrequested⟩ := exists_mem_resolve hkey
    exact ⟨(key, v), hmem, hne, isExclusion_of_requested hrequested⟩

/-! ## The two kinds of rows -/

/-- A selection of the identifier or of nothing comes to an entry for the identifier alone. -/
theorem exists_resolve_eq (h : ∀ key ∈ requested fields, key = "_id") :
    ∃ v, (resolve fields).fields = [("_id", v)] ∧
      (Project.isExclusion v = true ↔ "_id" ∉ requested fields) := by
  have hid : "_id" ∈ keys (resolve fields).fields := keys_resolve.2 (.inr rfl)
  have hkeys : keys (resolve fields).fields = ["_id"] := by
    have hall : ∀ key ∈ keys (resolve fields).fields, key = "_id" :=
      fun key hkey => (keys_resolve.1 hkey).elim (h key) id
    have hunique := hasUniqueKeys_resolve fields
    have hrepeat := List.eq_replicate_of_mem hall
    rw [Document.HasUniqueKeys, hrepeat, List.nodup_replicate] at hunique
    have hlength := List.length_pos_of_mem hid
    have hone : (keys (resolve fields).fields).length = 1 := by omega
    rw [hrepeat, hone]
    rfl
  obtain ⟨⟨key, v⟩, heq, hkey⟩ := List.map_eq_singleton_iff.1 hkeys
  obtain rfl : key = "_id" := hkey
  have hmem : ("_id", v) ∈ (resolve fields).fields := heq ▸ List.mem_cons_self
  refine ⟨v, heq, ?_⟩
  obtain hrequested | ⟨hv, hnot⟩ := mem_resolve hmem
  · have hin := isExclusion_of_requested hrequested
    have hkey := List.mem_map_of_mem (f := Prod.fst) hrequested
    exact ⟨fun hout => absurd hout (Bool.eq_false_iff.1 hin), fun hnot => absurd hkey hnot⟩
  · cases hv
    exact ⟨fun _ => hnot, fun _ => Project.isExclusion_zero⟩

/-- Rows are built anew from the entries alone, or they are the documents as they are, or without
their identifiers. -/
theorem doc_resolve (d : Document) :
    Project.doc d (resolve fields).fields [] =
      if ∃ key ∈ requested fields, key ≠ "_id" then
        Project.includeFields d [] (resolve fields).fields []
      else .ok (if "_id" ∈ requested fields then d else erase d "_id") := by
  have hstart : Project.start d (resolve fields).fields = [] :=
    if_pos ((Document.contains_iff_mem_keys _ _).2 (keys_resolve.2 (.inr rfl)))
  unfold Project.doc
  by_cases hother : ∃ key ∈ requested fields, key ≠ "_id"
  · rw [if_pos hother, if_pos (isInclusive_resolve.2 hother), hstart]
  · rw [if_neg hother, if_neg fun hinclusive => hother (isInclusive_resolve.1 hinclusive)]
    have hall : ∀ key ∈ requested fields, key = "_id" := by
      intro key hkey
      exact Decidable.byContradiction fun hne => hother ⟨key, hkey, hne⟩
    obtain ⟨v, heq, hout⟩ := exists_resolve_eq hall
    rw [heq]
    have hremove : Document.removePath? d "_id" =
        (Document.get? d "_id").map fun found => (found, erase d "_id") := rfl
    by_cases hid : "_id" ∈ requested fields
    · rw [if_pos hid]
      have hin : ¬ Project.isExclusion v = true := fun h => hout.1 h hid
      simp only [Project.exclude, List.foldl_cons, List.foldl_nil, if_neg hin]
    · rw [if_neg hid]
      simp only [Project.exclude, List.foldl_cons, List.foldl_nil, if_pos (hout.2 hid), hremove]
      cases hget : Document.get? d "_id" with
      | none => rw [Document.erase_of_get?_eq_none hget]; rfl
      | some found => rfl

/-- Rows that are built anew have no keys but first segments of what was requested. -/
theorem keys_of_doc_resolve (hother : ∃ key ∈ requested fields, key ≠ "_id")
    (h : Project.doc d (resolve fields).fields [] = .ok row) {key : String} (hkey : key ∈ keys row) :
    ∃ name ∈ requested fields, (Path.segments name).head? = some key := by
  rw [doc_resolve, if_pos hother] at h
  obtain hkey | ⟨entry, hmem, hin, hhead⟩ := Project.keys_includeFields h hkey
  · cases hkey
  · exact ⟨entry.1, List.mem_map_of_mem (requested_of_not_isExclusion hmem hin), hhead⟩

/-- A path is shown if it is requested and no renamed field gets in its way. Where nothing but the
identifier is requested, every path is shown, or every one outside the identifier. -/
def Shows (fields : List Field) (path : String) : Prop :=
  (path ∈ requested fields ∧ ∀ source target, .renamed source target ∈ fields →
    Path.Diverge (Path.segments target) (Path.segments path)) ∨
  (∀ key ∈ requested fields, key = "_id") ∧
    ("_id" ∈ requested fields ∨ (Path.segments path).head? ≠ some "_id")

/-- What a selection shows is what the document has, also if it is nothing. -/
theorem Shows.atPath?_eq (hshows : Shows fields path)
    (h : Project.doc d (resolve fields).fields [] = .ok row) :
    atPath? row path = atPath? d path := by
  rw [doc_resolve] at h
  by_cases hother : ∃ key ∈ requested fields, key ≠ "_id"
  · rw [if_pos hother] at h
    obtain ⟨hpath, hrenamed⟩ | ⟨hall, -⟩ := hshows
    · have hkeeps : Project.KeepsTo (resolve fields).fields (Path.segments path) := by
        intro entry hmem hin
        obtain ⟨field, hfield, hentry⟩ :=
          List.mem_filterMap.1 (requested_of_not_isExclusion hmem hin)
        obtain hone | ⟨source, rfl, -⟩ := entry?_cases hentry
        · exact .inl (hone ▸ Project.isInclusion_one)
        · exact .inr (hrenamed source entry.1 hfield)
      obtain ⟨v, hmem, hrequested⟩ := exists_mem_resolve hpath
      have hempty : Document.follow? d (Path.segments path) = none →
          Document.follow? [] (Path.segments path) = none := by
        intro _
        cases Path.segments path <;> rfl
      exact Project.atPath?_includeFields hkeeps h hempty hmem (isExclusion_of_requested hrequested)
    · obtain ⟨key, hkey, hne⟩ := hother
      exact absurd (hall key hkey) hne
  · rw [if_neg hother] at h
    cases h
    by_cases hid : "_id" ∈ requested fields
    · rw [if_pos hid]
    · rw [if_neg hid]
      obtain ⟨hpath, -⟩ | ⟨-, houtside⟩ := hshows
      · -- A requested path is the identifier here.
        have hpath_id : path = "_id" :=
          Decidable.byContradiction fun hne => hother ⟨path, hpath, hne⟩
        exact absurd (hpath_id ▸ hpath) hid
      · exact Document.atPath?_erase (houtside.resolve_left hid)

end Selection

end DocQuery
