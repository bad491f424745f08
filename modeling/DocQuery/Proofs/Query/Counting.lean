import DocQuery.Proofs.Path.Lens
import DocQuery.Proofs.Query.Running

/-!
# Counting the rows of a selection

A count numbers the rows of a query in a row of its own, and this row goes through the projection of
the query before the number is read back. So the count that is shown is that of the rows only if the
projection keeps the field of the number.

## Main definitions

* `Query.shownCount`: the number that a projection shows of a count
* `Project.IsFlags`: a projection that includes fields and computes none
* `Project.KeepsCount`: such a projection keeps the row of a count

## Main results

* `Project.doc_countRow`: the row of a count, projected
* `Selection.isFlags_resolve`: requested fields that are not renamed come to one
* `Query.count_of_findAll`: a count next to the rows that are found
-/

namespace DocQuery

/-! ## Reading a row with one number -/

namespace Path

theorem eq_of_splitDots_eq_singleton {chars piece : List Char} (h : splitDots chars = [piece]) :
    piece = chars := by
  induction chars generalizing piece with
  | nil =>
    cases h
    rfl
  | cons c rest ih =>
    rw [splitDots] at h
    split at h
    · have hnil : splitDots rest = [] := (List.cons.inj h).2
      exact absurd hnil (splitDots_ne_nil rest)
    · cases hpieces : splitDots rest with
      | nil => exact absurd hpieces (splitDots_ne_nil rest)
      | cons first more =>
        rw [hpieces] at h
        obtain ⟨hpiece, hmore⟩ := List.cons.inj h
        subst hmore
        rw [← hpiece, ih hpieces]

/-- A path of one segment is that segment. -/
theorem eq_of_segments_eq_singleton {path key : String} (h : segments path = [key]) :
    path = key := by
  obtain ⟨piece, hpiece, hkey⟩ := List.map_eq_singleton_iff.1 h
  rw [← hkey, eq_of_splitDots_eq_singleton hpiece, String.ofList_toList]

end Path

namespace Query

theorem get?_countRow_of_ne {key : String} (n : Nat) (h : key ≠ "count") :
    Document.get? (countRow n) key = none := by
  simp [countRow, Document.get?, Ne.symm h]

theorem step?_countValue (n : Nat) (segment : String) :
    (Pipeline.countValue n).step? segment = none := by
  unfold Pipeline.countValue
  split <;> rfl

/-- Nothing is found in the row of a count but the number. -/
theorem atPath?_countRow_of_ne {path : String} (n : Nat) (h : path ≠ "count") :
    Document.atPath? (countRow n) path = none := by
  have hfollow : Document.follow? (countRow n) (Path.segments path) = none := by
    cases hsegments : Path.segments path with
    | nil => rfl
    | cons key rest =>
      rw [Document.follow?]
      by_cases hkey : key = "count"
      · cases rest with
        | nil => exact absurd ((Path.eq_of_segments_eq_singleton hsegments).trans hkey) h
        | cons next more =>
          subst hkey
          change (Pipeline.countValue n).follow? (next :: more) = none
          rw [Value.follow?, step?_countValue]
      · rw [get?_countRow_of_ne n hkey]
  simp only [Document.atPath?, hfollow, ite_self]

theorem atPath?_countRow (n : Nat) :
    Document.atPath? (countRow n) "count" = some (Pipeline.countValue n) :=
  Document.atPath?_of_not_mem _ (by decide) (by decide) (by decide)

end Query

/-! ## Projections of flags -/

namespace Project

/-- Every field is included, but for an identifier that may be excluded. -/
def IsFlags (projection : Document) : Prop :=
  ∀ field ∈ projection, field.2 = .int32 1 ∨ field = ("_id", .int32 0)

/-- The row of a count stays: its field is included, or none is but the identifier. -/
def KeepsCount (projection : Document) : Prop :=
  "count" ∈ Document.keys projection ∨ ∀ key ∈ Document.keys projection, key = "_id"

instance (projection : Document) : Decidable (KeepsCount projection) :=
  inferInstanceAs (Decidable (_ ∨ _))

theorem isExclusion_one : isExclusion (.int32 1) = false := by decide +kernel

theorem isExclusion_zero : isExclusion (.int32 0) = true := by decide +kernel

theorem isInclusion_one : isInclusion (.int32 1) = true := by decide +kernel

theorem IsFlags.of_cons {field : String × Value} {rest : Document} (h : IsFlags (field :: rest)) :
    IsFlags rest :=
  fun other hother => h other (List.mem_cons_of_mem _ hother)

/-- Flags build rows anew if one of them is not that of the identifier. -/
theorem IsFlags.isInclusive_iff {projection : Document} (h : IsFlags projection) :
    isInclusive projection = true ↔ ∃ key ∈ Document.keys projection, key ≠ "_id" := by
  unfold isInclusive Document.keys
  simp only [List.any_eq_true, List.mem_map]
  constructor
  · rintro ⟨field, hfield, hflag⟩
    have hne : field.1 ≠ "_id" := by
      intro heq
      simp [heq] at hflag
    exact ⟨field.1, ⟨field, hfield, rfl⟩, hne⟩
  · rintro ⟨_, ⟨field, hfield, rfl⟩, hne⟩
    refine ⟨field, hfield, ?_⟩
    obtain hone | hid := h field hfield
    · simp [hone, isExclusion_one, hne]
    · exact absurd (congrArg Prod.fst hid) hne

/-- Of the row of a count, flags write the number and nothing else. -/
theorem includeFields_countRow {projection : Document} (h : IsFlags projection) (n : Nat)
    (vars row : Document) :
    includeFields (Query.countRow n) vars projection row =
      .ok (if "count" ∈ Document.keys projection then
        Document.insert row "count" (Pipeline.countValue n) else row) := by
  induction projection generalizing row with
  | nil => rfl
  | cons field rest ih =>
    obtain ⟨path, flag⟩ := field
    have hkeys : "count" ∈ Document.keys ((path, flag) :: rest) ↔
        "count" = path ∨ "count" ∈ Document.keys rest := List.mem_cons
    rw [includeFields]
    obtain hone | hid := h (path, flag) List.mem_cons_self
    · obtain rfl : flag = .int32 1 := hone
      rw [if_neg (by simp [isExclusion_one]), if_pos isInclusion_one]
      by_cases hpath : path = "count"
      · subst hpath
        have hdot : '.' ∉ "count".toList := by decide
        have hset := Document.setPath_of_not_mem row hdot (Pipeline.countValue n)
        simp only [Query.atPath?_countRow, hset, bind, Except.bind, ih h.of_cons,
          Document.insert_insert, hkeys, true_or, if_true, ite_self]
      · rw [Query.atPath?_countRow_of_ne n hpath]
        simp only [ih h.of_cons, hkeys, Ne.symm hpath, false_or]
    · obtain ⟨rfl, rfl⟩ := Prod.mk.inj hid
      rw [if_pos isExclusion_zero]
      have hne : ¬ "count" = "_id" := by decide
      simp only [ih h.of_cons, hkeys, hne, false_or]

/-- There is no identifier in the row of a count that could be excluded. -/
theorem exclude_countRow {projection : Document} (h : IsFlags projection) (n : Nat) :
    exclude (Query.countRow n) projection = Query.countRow n := by
  unfold exclude
  induction projection with
  | nil => rfl
  | cons field rest ih =>
    rw [List.foldl_cons]
    obtain hone | rfl := h field List.mem_cons_self
    · rw [hone, if_neg (by simp [isExclusion_one])]
      exact ih h.of_cons
    · rw [if_pos isExclusion_zero]
      exact ih h.of_cons

/-- Flags keep the row of a count or leave nothing of it. -/
theorem doc_countRow {projection : Document} (h : IsFlags projection) (n : Nat) :
    doc (Query.countRow n) projection [] =
      .ok (if KeepsCount projection then Query.countRow n else []) := by
  -- The row of a count has no identifier that would come along.
  have hstart : start (Query.countRow n) projection = [] := by
    unfold start
    split <;> rfl
  unfold doc
  by_cases hinclusive : isInclusive projection = true
  · obtain ⟨key, hkey, hne⟩ := h.isInclusive_iff.1 hinclusive
    have hkeeps : KeepsCount projection ↔ "count" ∈ Document.keys projection :=
      or_iff_left fun hall => hne (hall key hkey)
    rw [if_pos hinclusive, includeFields_countRow h, hstart]
    simp only [hkeeps]
    rfl
  · have hall : ∀ key ∈ Document.keys projection, key = "_id" := by
      exact fun key hkey => Decidable.byContradiction fun hne =>
        hinclusive (h.isInclusive_iff.2 ⟨key, hkey, hne⟩)
    have hkeeps : KeepsCount projection := Or.inr hall
    rw [if_neg hinclusive, exclude_countRow h, if_pos hkeeps]

end Project

/-! ## Selections of flags -/

namespace Selection

theorem isFlags_insert {projection : Document} (h : Project.IsFlags projection) (key : String) :
    Project.IsFlags (Document.insert projection key (.int32 1)) := by
  induction projection with
  | nil =>
    rintro field hfield
    exact Or.inl (List.mem_singleton.1 hfield ▸ rfl)
  | cons first rest ih =>
    obtain ⟨k, v⟩ := first
    rw [Document.insert]
    split
    · rintro field (_ | ⟨_, hfield⟩)
      · exact Or.inl rfl
      · exact h.of_cons field hfield
    · rintro field (_ | ⟨_, hfield⟩)
      · exact h (k, v) List.mem_cons_self
      · exact ih h.of_cons field hfield

/-- A requested field that is not renamed keeps a projection one of flags. -/
theorem isFlags_add {selection : Selection} (h : Project.IsFlags selection.fields) {field : Field}
    (hfield : ∀ source target, field ≠ .renamed source target) :
    Project.IsFlags (selection.add field).fields := by
  cases field with
  | name name => exact isFlags_insert h name
  | renamed source target => exact absurd rfl (hfield source target)
  | computed c =>
    rw [add]
    split
    · exact isFlags_insert h c.alias
    · exact h
    · exact h
    · exact h

theorem isFlags_hideId {selection : Selection} (h : Project.IsFlags selection.fields) :
    Project.IsFlags selection.hideId.fields := by
  unfold hideId
  split
  · exact h
  · rename_i hid
    have hmem : "_id" ∉ Document.keys selection.fields := by
      rw [← Document.contains_iff_mem_keys]
      exact hid
    rw [Document.insert_of_not_mem hmem]
    intro field hfield
    obtain hfield | hfield := List.mem_append.1 hfield
    · exact h field hfield
    · exact Or.inr (List.mem_singleton.1 hfield)

theorem isFlags_foldl_add {selection : Selection} (h : Project.IsFlags selection.fields)
    {fields : List Field} (hfields : ∀ field ∈ fields, ∀ source target,
      field ≠ .renamed source target) :
    Project.IsFlags (fields.foldl add selection).fields := by
  induction fields generalizing selection with
  | nil => exact h
  | cons field rest ih =>
    have hfirst := isFlags_add h (hfields field List.mem_cons_self)
    exact ih hfirst fun other hother => hfields other (List.mem_cons_of_mem _ hother)

/-- Requested fields that are not renamed come to a projection of flags. -/
theorem isFlags_resolve {fields : List Field}
    (h : ∀ field ∈ fields, ∀ source target, field ≠ .renamed source target) :
    Project.IsFlags (resolve fields).fields := by
  have hempty : Project.IsFlags empty.fields := nofun
  exact isFlags_hideId (isFlags_foldl_add hempty h)

end Selection

/-! ## Counting next to finding -/

namespace QueryState

/-- Without ready-made stages and without a group the rows are projected one by one. -/
theorem run_shapeStages [Regex.Engine] {s : QueryState} (hraw : s.hasRawStages = false)
    (hgroup : s.group? = none) (collections : Collections) (rows : List Document) :
    Pipeline.run collections rows s.shapeStages [] =
      Pipeline.mapDocs (fun row => Project.doc row s.fields []) rows := by
  rw [shapeStages_eq hraw hgroup]
  unfold stageUnlessEmpty
  split
  · rename_i hempty
    have hsame : Pipeline.mapDocs (fun row => Project.doc row [] []) rows = .ok (rows.map id) :=
      Pipeline.mapDocs_eq_ok fun _ _ => rfl
    rw [Pipeline.run_nil, List.isEmpty_iff.1 hempty, hsame, List.map_id]
  · exact Pipeline.run_project _ _ _ _

end QueryState

namespace Query

variable {κ : Type}

/-- The number that a projection shows of a count. -/
def shownCount (projection : Document) (n : Nat) : Except StoreError Nat :=
  if n = 0 then .ok 0
  else (Project.doc (countRow n) projection []).map fun row => countOfRows [row]

/-- Flags show the number of a count, as far as thirty-two bits hold it, or else zero. -/
theorem shownCount_of_isFlags {projection : Document} (h : Project.IsFlags projection) (n : Nat) :
    shownCount projection n =
      .ok (if Project.KeepsCount projection then if n < 2 ^ 31 then n else 2 ^ 63 - 1 else 0) := by
  unfold shownCount
  by_cases hn : n = 0
  · subst hn
    simp
  · have hread : countOfRows [countRow n] = if n < 2 ^ 31 then n else 2 ^ 63 - 1 := by
      change countOf (Pipeline.countValue n) = _
      split
      · exact countOf_countValue ‹_›
      · rename_i hlarge
        rw [Pipeline.countValue, if_neg hlarge]
        rfl
    rw [if_neg hn, Project.doc_countRow h]
    by_cases hkeeps : Project.KeepsCount projection
    · simp only [if_pos hkeeps, Except.map, hread]
    · simp only [if_neg hkeeps, Except.map]
      rfl

section Projected

variable [Regex.Engine] {q : Query κ} {s : Store} (hraw : q.state.hasRawStages = false)
  (hgroup : q.state.group? = none)

include hraw hgroup

/-- The rows that are found are as many as the first stages make. -/
theorem rowsOf_of_findAll (hcount : q.state.count? = none) {r : ResultSet}
    (h : (q.findAll s).2.result = .ok r) :
    ∃ rows, q.rowsOf s q.state.rowStages = .ok rows ∧ rows.length = r.rows.length := by
  rw [result_findAll q s hcount] at h
  obtain ⟨shaped, hshaped, rfl⟩ := Except.map_eq_ok_iff.1 h
  obtain ⟨rows, hrows, hproject⟩ := Except.bind_eq_ok_iff.1 hshaped
  rw [Except.mapError_eq_ok_iff, QueryState.run_shapeStages hraw hgroup] at hproject
  exact ⟨rows, hrows, (Pipeline.length_of_mapDocs hproject).symm⟩

/-- A count is what the projection shows of the number of rows. -/
theorem result_count_of_rowsOf {rows : List Document}
    (h : q.rowsOf s q.state.rowStages = .ok rows) :
    (q.count s).2.result =
      (shownCount q.state.fields rows.length).mapError QueryError.backend := by
  rw [result_count, h]
  simp only [bind, Except.bind, QueryState.run_shapeStages hraw hgroup]
  cases rows with
  | nil => rfl
  | cons row rest =>
    have hcounted : countRows (row :: rest) = [countRow (row :: rest).length] := rfl
    rw [hcounted, Pipeline.mapDocs_singleton, shownCount, if_neg (by simp)]
    cases Project.doc (countRow (row :: rest).length) q.state.fields [] <;> rfl

end Projected

/-- If finding gives rows, a count gives what the projection shows of their number. With flags alone
that is the number itself, as far as thirty-two bits hold it, if the row of the count stays, and
zero if it does not. -/
theorem count_of_findAll [Regex.Engine] (q : Query κ) (s : Store)
    (hraw : q.state.hasRawStages = false) (hcount : q.state.count? = none)
    (hgroup : q.state.group? = none) {r : ResultSet} (hfound : (q.findAll s).2.result = .ok r) :
    (q.count s).2.result =
        (shownCount q.state.fields r.rows.length).mapError QueryError.backend ∧
      (Project.IsFlags q.state.fields →
        (q.count s).2.result = .ok (if Project.KeepsCount q.state.fields then
          if r.rows.length < 2 ^ 31 then r.rows.length else 2 ^ 63 - 1 else 0)) := by
  obtain ⟨rows, hrows, hlength⟩ := rowsOf_of_findAll hraw hgroup hcount hfound
  have hshown := result_count_of_rowsOf hraw hgroup hrows
  rw [hlength] at hshown
  refine ⟨hshown, fun hflags => ?_⟩
  rw [hshown, shownCount_of_isFlags hflags]
  rfl

/-- Two rows of which a field named like the number of a count is selected. -/
theorem count_of_findAll_count :
    let q := (⟨none, some ⟨(), "users"⟩, .empty, true, true⟩ : Query Unit).select
      [.name "name", .name "count"]
    let s : Store := ⟨[("users", [[("name", .string "al")], [("name", .string "bo")]])], 0⟩
    ∃ r, (q.findAll s).2.result = .ok r ∧ r.rows.length = 2 ∧ (q.count s).2.result = .ok 2 := by
  intro q s
  have hfound : (q.findAll s).2.result.toOption.map (·.rows.length) = some 2 := by decide +kernel
  have hflags : Project.IsFlags q.state.fields := Selection.isFlags_resolve (by simp)
  have hkeeps : Project.KeepsCount q.state.fields := Or.inl (by decide)
  obtain ⟨r, hr, hlength⟩ := Except.toOption_map_eq_some_iff.1 hfound
  have hcount := (count_of_findAll q s rfl rfl rfl hr).2 hflags
  rw [if_pos hkeeps, hlength] at hcount
  exact ⟨r, hr, hlength, hcount⟩

/-- Of two rows of which the name alone is selected, a count shows zero. -/
theorem not_forall_count_eq_length :
    ¬ ∀ (q : Query Unit) (s : Store) (r : ResultSet), q.state.hasRawStages = false →
      q.state.count? = none → q.state.group? = none → (q.findAll s).2.result = .ok r →
        (q.count s).2.result = .ok r.rows.length := by
  intro h
  let q := (⟨none, some ⟨(), "users"⟩, .empty, true, true⟩ : Query Unit).select [.name "name"]
  let s : Store := ⟨[("users", [[("name", .string "al")], [("name", .string "bo")]])], 0⟩
  have hfound : (q.findAll s).2.result.toOption.map (·.rows.length) = some 2 := by decide +kernel
  have hcount : (q.count s).2.result.toOption = some 0 := by decide +kernel
  obtain ⟨r, hr, hlength⟩ := Except.toOption_map_eq_some_iff.1 hfound
  rw [h q s r rfl rfl rfl hr, hlength] at hcount
  cases hcount

end Query

end DocQuery
