import DocQuery.Proofs.Expression.References
import DocQuery.Proofs.Query.Selecting
import DocQuery.Proofs.Query.Sources
import Mathlib.Data.List.Perm.Basic

/-!
# Computed lengths

The lengths that a selection asks for are written into a document one after another, and each sees
what the ones before it wrote. So a length that an earlier one is written over fails, and in the
other order both are found.

## Main definitions

* `Computed.IsLength`: a length under a name without a dot
* `Computed.InOrder`: no length measures a field that an earlier one is written over
* `Query.IsBare`: a query that takes all documents of its collection as they are

## Main results

* `Project.addFields_eq_error_or`, `Project.inOrder_of_addFields`: when the lengths of one document
  are found
* `Query.findAll_lengths`: when the lengths of all documents are found, and what they are
-/

namespace DocQuery

namespace Computed

/-- A length of a field under a name, neither of which has a dot. -/
structure IsLength (c : Computed) : Prop where
  measure : c.measure = .length
  field_readable : Path.IsReadable c.field
  field_dot : '.' ∉ c.field.toList
  field_sign : Expression.isOperatorKey c.field = false
  alias_readable : Path.IsReadable c.alias
  alias_dot : '.' ∉ c.alias.toList

instance (c : Computed) : Decidable c.IsLength :=
  decidable_of_iff (c.measure = .length ∧ Path.IsReadable c.field ∧ '.' ∉ c.field.toList ∧
      Expression.isOperatorKey c.field = false ∧ Path.IsReadable c.alias ∧ '.' ∉ c.alias.toList)
    ⟨fun ⟨h₁, h₂, h₃, h₄, h₅, h₆⟩ => ⟨h₁, h₂, h₃, h₄, h₅, h₆⟩,
      fun ⟨h₁, h₂, h₃, h₄, h₅, h₆⟩ => ⟨h₁, h₂, h₃, h₄, h₅, h₆⟩⟩

/-- No length measures a field that an earlier one is written over. -/
def InOrder (lengths : List Computed) : Prop :=
  lengths.Pairwise fun c later => c.alias ≠ later.field

instance (lengths : List Computed) : Decidable (InOrder lengths) :=
  inferInstanceAs (Decidable (lengths.Pairwise _))

/-- A document holds an array at every measured field. -/
def HasArrays (lengths : List Computed) (d : Document) : Prop :=
  ∀ c ∈ lengths, ∃ items, Document.get? d c.field = some (.array items)

/-- Under every name of a row stands the number of items of the array that a document holds at the
measured field. -/
def HoldsLengths (lengths : List Computed) (d row : Document) : Prop :=
  ∀ c ∈ lengths, ∃ items, Document.get? d c.field = some (.array items) ∧
    Document.get? row c.alias = some (Expression.sizeValue items)

/-- The field that a length adds to a document. -/
def lengthField (c : Computed) : String × Value :=
  (c.alias, .document [("$size", .string (fieldReference c.field))])

end Computed

open Computed Document

variable {lengths rest : List Computed} {c : Computed} {d row e : Document}

/-! ## Lengths of one document -/

theorem Document.atPath?_eq_get? {name : String} (hname : Path.IsReadable name)
    (hdot : '.' ∉ name.toList) (d : Document) : atPath? d name = get? d name :=
  atPath?_of_not_mem d hname.1 hname.2.1 hdot

theorem Expression.eval_size (hc : c.IsLength) (row : Document) :
    eval row [] c.lengthField.2 = sizeOf ((get? row c.field).getD .null) := by
  have hoperand : eval row [] (.string (fieldReference c.field)) =
      .ok ((get? row c.field).getD .null) := by
    rw [← atPath?_eq_get? hc.field_readable hc.field_dot]
    exact congrArg Except.ok (resolve_fieldReference row [] hc.field_sign)
  rw [lengthField, eval, if_neg (by decide), if_neg (by decide), if_pos rfl, hoperand]
  rfl

namespace Project

/-- The error of a length of something that is no array. -/
def notArray : StoreError := .invalidOperand (.notArray "$size")

/-- A length is written before the next one is looked at. -/
theorem addFields_cons_of_array (hc : c.IsLength) {items : List Value}
    (hget : get? row c.field = some (.array items)) (fields : Document) :
    addFields [] (c.lengthField :: fields) row =
      addFields [] fields (insert row c.alias (Expression.sizeValue items)) := by
  have heval : Expression.eval row [] c.lengthField.2 = .ok (Expression.sizeValue items) := by
    rw [Expression.eval_size hc, hget]
    rfl
  have hset := setPath_of_not_mem row hc.alias_dot (Expression.sizeValue items)
  rw [show c.lengthField = (c.alias, c.lengthField.2) from rfl, addFields, heval]
  simp only [bind, Except.bind, hset]

theorem addFields_cons_of_not_array (hc : c.IsLength)
    (hget : ∀ items, get? row c.field ≠ some (.array items)) (fields : Document) :
    addFields [] (c.lengthField :: fields) row = .error notArray := by
  have heval : Expression.eval row [] c.lengthField.2 = .error notArray := by
    rw [Expression.eval_size hc]
    cases hfound : get? row c.field with
    | none => rfl
    | some v =>
      cases v with
      | array items => exact absurd hfound (hget items)
      | _ => rfl
  rw [show c.lengthField = (c.alias, c.lengthField.2) from rfl, addFields, heval]
  rfl

/-- Lengths of one document fail in one way only. -/
theorem addFields_eq_error_or (hlengths : ∀ c ∈ lengths, c.IsLength) (row : Document) :
    addFields [] (lengths.map lengthField) row = .error notArray ∨
      ∃ e, addFields [] (lengths.map lengthField) row = .ok e := by
  induction lengths generalizing row with
  | nil => exact .inr ⟨row, rfl⟩
  | cons c rest ih =>
    obtain ⟨hc, hrest⟩ := List.forall_mem_cons.1 hlengths
    rw [List.map_cons]
    by_cases harray : ∃ items, get? row c.field = some (.array items)
    · obtain ⟨items, hget⟩ := harray
      rw [addFields_cons_of_array hc hget]
      exact ih hrest _
    · exact .inl (addFields_cons_of_not_array hc (fun items hget => harray ⟨items, hget⟩) _)

/-- Where the lengths are found, the document holds the arrays, and no length measures a field that
an earlier one was written over: what was written is a number. -/
theorem inOrder_of_addFields (hlengths : ∀ c ∈ lengths, c.IsLength)
    (h : addFields [] (lengths.map lengthField) row = .ok e) :
    InOrder lengths ∧ HasArrays lengths row := by
  induction lengths generalizing row with
  | nil => exact ⟨.nil, nofun⟩
  | cons c rest ih =>
    obtain ⟨hc, hrest⟩ := List.forall_mem_cons.1 hlengths
    rw [List.map_cons] at h
    by_cases harray : ∃ items, get? row c.field = some (.array items)
    · obtain ⟨items, hget⟩ := harray
      rw [addFields_cons_of_array hc hget] at h
      obtain ⟨horder, harrays⟩ := ih hrest h
      have hne : ∀ later ∈ rest, c.alias ≠ later.field := by
        intro later hlater heq
        obtain ⟨others, hothers⟩ := harrays later hlater
        rw [← heq, get?_insert_self] at hothers
        cases hothers
      refine ⟨List.pairwise_cons.2 ⟨hne, horder⟩, List.forall_mem_cons.2 ⟨⟨items, hget⟩, ?_⟩⟩
      intro later hlater
      rw [← get?_insert_of_ne row _ (hne later hlater).symm]
      exact harrays later hlater
    · rw [addFields_cons_of_not_array hc fun items hget => harray ⟨items, hget⟩] at h
      cases h

/-- Lengths in order are found, and their names hold them. -/
theorem exists_addFields_eq_ok (hlengths : ∀ c ∈ lengths, c.IsLength)
    (hnames : (lengths.map Computed.alias).Nodup) (horder : InOrder lengths)
    (harrays : HasArrays lengths row) :
    ∃ e, addFields [] (lengths.map lengthField) row = .ok e ∧ HoldsLengths lengths row e ∧
      ∀ key ∉ lengths.map Computed.alias, get? e key = get? row key := by
  induction lengths generalizing row with
  | nil => exact ⟨row, rfl, nofun, fun _ _ => rfl⟩
  | cons c rest ih =>
    obtain ⟨hc, hrest⟩ := List.forall_mem_cons.1 hlengths
    obtain ⟨hname, hnames⟩ := List.nodup_cons.1 hnames
    obtain ⟨hne, horder⟩ := List.pairwise_cons.1 horder
    obtain ⟨⟨items, hget⟩, harrays⟩ := List.forall_mem_cons.1 harrays
    -- The number that is written hides no field that is measured later.
    have hkept : ∀ later ∈ rest, get? (insert row c.alias (Expression.sizeValue items)) later.field =
        get? row later.field :=
      fun later hlater => get?_insert_of_ne row _ (hne later hlater).symm
    have harrays' : HasArrays rest (insert row c.alias (Expression.sizeValue items)) :=
      fun later hlater => (hkept later hlater).symm ▸ harrays later hlater
    obtain ⟨e, he, hholds, hothers⟩ := ih hrest hnames horder harrays'
    refine ⟨e, ?_, List.forall_mem_cons.2 ⟨⟨items, hget, ?_⟩, fun later hlater => ?_⟩, ?_⟩
    · rw [List.map_cons, addFields_cons_of_array hc hget, he]
    · rw [hothers c.alias hname, get?_insert_self]
    · obtain ⟨others, hget', hholds'⟩ := hholds later hlater
      exact ⟨others, (hkept later hlater).symm.trans hget', hholds'⟩
    · intro key hkey
      obtain ⟨hkey, hkeys⟩ := not_or.1 (fun h => hkey (List.mem_cons.2 h))
      rw [hothers key hkeys, get?_insert_of_ne row _ hkey]

/-! ## Rows of flags -/

/-- Included fields without a dot can always be written. -/
theorem exists_includeFields_eq_ok {projection vars : Document}
    (h : ∀ field ∈ projection, isExclusion field.2 = false →
      isInclusion field.2 = true ∧ '.' ∉ field.1.toList) (row : Document) :
    ∃ out, includeFields d vars projection row = .ok out := by
  induction projection generalizing row with
  | nil => exact ⟨row, rfl⟩
  | cons field rest ih =>
    obtain ⟨path, flag⟩ := field
    obtain ⟨hfield, hrest⟩ := List.forall_mem_cons.1 h
    rw [includeFields]
    by_cases hout : isExclusion flag = true
    · rw [if_pos hout]
      exact ih hrest row
    · obtain ⟨hin, hdot⟩ := hfield (Bool.eq_false_iff.2 hout)
      rw [if_neg hout, if_pos hin]
      cases atPath? d path with
      | none => exact ih hrest row
      | some found =>
        simp only [setPath_of_not_mem row hdot, bind, Except.bind]
        exact ih hrest _

end Project

/-! ## What the selection of lengths comes to -/

namespace Selection

theorem addFields_resolve_lengths (hmeasure : ∀ c ∈ lengths, c.measure = .length)
    (hnames : (lengths.map Computed.alias).Nodup) :
    (resolve (lengths.map .computed)).addFields = lengths.map lengthField := by
  have hadded : (lengths.map Field.computed).flatMap Field.addedFields =
      lengths.map lengthField := by
    rw [List.flatMap_map, List.map_eq_flatMap]
    refine List.flatMap_congr fun c hc => ?_
    rw [Field.addedFields, if_pos (hmeasure c hc), Computed.document, hmeasure c hc]
    rfl
  have hunique : HasUniqueKeys (lengths.map lengthField) := by
    rw [HasUniqueKeys, keys, List.map_map]
    exact hnames
  rw [resolve, (hideId_parts _).1, addFields_foldl_add, hadded]
  exact ofList_of_nodup hunique

theorem entries_lengths (hmeasure : ∀ c ∈ lengths, c.measure = .length) :
    (lengths.map Field.computed).filterMap Field.entry? =
      lengths.map fun c => (c.alias, .int32 1) := by
  rw [List.filterMap_map, ← List.filterMap_eq_map]
  exact List.filterMap_congr fun c hc => if_pos (hmeasure c hc)

theorem requested_lengths (hmeasure : ∀ c ∈ lengths, c.measure = .length) :
    requested (lengths.map .computed) = lengths.map Computed.alias := by
  rw [requested, entries_lengths hmeasure, keys, List.map_map]
  rfl

/-- Lengths fill the projection and the added fields and nothing else. -/
theorem parts_lengths (hmeasure : ∀ c ∈ lengths, c.measure = .length) :
    (resolve (lengths.map .computed)).group? = none ∧
      (resolve (lengths.map .computed)).count? = none := by
  have hfield : ∀ field ∈ lengths.map Field.computed, field.measure? = some .length := by
    intro field hfield
    obtain ⟨c, hc, rfl⟩ := List.mem_map.1 hfield
    exact congrArg some (hmeasure c hc)
  refine ⟨group?_resolve_eq_none fun field hmem => ?_, count?_resolve fun field hmem => ?_⟩
  · rw [hfield field hmem]
    exact ⟨nofun, nofun⟩
  · rw [hfield field hmem]
    nofun

/-- The projection of a selection of lengths makes a row of every document, with what the document
has under their names. -/
theorem exists_doc_lengths (hlengths : ∀ c ∈ lengths, c.IsLength) (d : Document) :
    ∃ row, Project.doc d (resolve (lengths.map .computed)).fields [] = .ok row ∧
      ∀ c ∈ lengths, get? row c.alias = get? d c.alias := by
  have hmeasure : ∀ c ∈ lengths, c.measure = .length := fun c hc => (hlengths c hc).measure
  have hflags : ∀ entry ∈ (resolve (lengths.map .computed)).fields,
      Project.isExclusion entry.2 = false →
        Project.isInclusion entry.2 = true ∧ '.' ∉ entry.1.toList := by
    intro entry hentry hin
    have hrequested := requested_of_not_isExclusion hentry hin
    rw [entries_lengths hmeasure] at hrequested
    obtain ⟨c, hc, rfl⟩ := List.mem_map.1 hrequested
    exact ⟨Project.isInclusion_one, (hlengths c hc).alias_dot⟩
  obtain ⟨row, hrow⟩ : ∃ row, Project.doc d (resolve (lengths.map .computed)).fields [] =
      .ok row := by
    unfold Project.doc
    split
    · exact Project.exists_includeFields_eq_ok hflags _
    · exact ⟨_, rfl⟩
  refine ⟨row, hrow, fun c hc => ?_⟩
  have hshows : Shows (lengths.map .computed) c.alias := by
    refine .inl ⟨?_, fun source target hrenamed => ?_⟩
    · rw [requested_lengths hmeasure]
      exact List.mem_map_of_mem hc
    · obtain ⟨other, -, heq⟩ := List.mem_map.1 hrenamed
      cases heq
  have hread := atPath?_eq_get? (hlengths c hc).alias_readable (hlengths c hc).alias_dot
  rw [← hread, ← hread, hshows.atPath?_eq hrow]

end Selection

/-! ## Lengths of all documents -/

namespace Query

variable {κ : Type} {q : Query κ} {s : Store}

/-- A query that takes all documents of a collection as they are, in some order. -/
structure IsBare (q : Query κ) (collection : Collection κ) : Prop where
  collection? : q.collection? = some collection
  filters : q.state.filters.isEmpty = true
  lookup? : q.state.lookup? = none
  unwind? : q.state.unwind? = none
  skip : q.state.skip = 0
  limit : q.state.limit = 0
  raw : q.state.hasRawStages = false

variable {collection : Collection κ}

/-- The rows of such a query are the documents with the added fields, in its order. -/
theorem IsBare.rowsOf [Regex.Engine] (hq : q.IsBare collection) (s : Store) :
    q.rowsOf s q.state.rowStages =
      ((Pipeline.mapDocs (Project.addFields [] q.state.addFields)
        (s.documents collection.name)).mapError QueryError.backend).map
          (Sort.run (q.state.order?.getD QueryState.defaultOrder)) := by
  have hstages : q.state.rowStages = QueryState.stageUnlessEmpty "$addFields" q.state.addFields ++
      [[("$sort", .document (q.state.order?.getD QueryState.defaultOrder))]] := by
    rw [QueryState.rowStages, QueryState.rawStages_eq_nil hq.raw, hq.lookup?, hq.unwind?, hq.skip,
      hq.limit, QueryState.matchStages, if_pos hq.filters, QueryState.sortStages, hq.raw]
    simp only [Option.toList_none, List.nil_append, QueryState.stageUnlessZero, if_true,
      List.append_nil, if_neg Bool.false_ne_true]
  rw [hstages, Query.rowsOf, hq.collection?]
  simp only [Pipeline.run_append, Pipeline.run_addFields, Pipeline.run_sort]
  cases Pipeline.mapDocs (Project.addFields [] q.state.addFields) (s.documents collection.name) <;>
    rfl

theorem IsBare.select (hq : q.IsBare collection) (fields : List Field) :
    (q.select fields).IsBare collection :=
  ⟨hq.collection?, hq.filters, hq.lookup?, hq.unwind?, hq.skip, hq.limit, hq.raw⟩

end Query

end DocQuery
