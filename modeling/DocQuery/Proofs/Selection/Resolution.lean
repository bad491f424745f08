import DocQuery.Proofs.Document.Fields
import DocQuery.Selection

/-!
# What a selection comes to

The parts of a selection, read off the requested fields. The projection has the entries that the
fields ask for, and an exclusion of the identifier if no field asks for it. Every other part is
filled by the fields of one measure, and left alone by all others.

## Main definitions

* `Field.entry?`: the entry of a projection that a requested field asks for
* `Field.addedFields`: the fields that it adds to every document
* `Field.measure?`: the measure of a computed field
* `Selection.requested`: the names of the entries that requested fields ask for

## Main results

* `Selection.keys_resolve`, `Selection.mem_resolve`: the keys and the entries of a projection
* `Selection.mem_addFields_resolve`: the added fields are those of the lengths
* `Selection.count?_resolve`: no number of rows without a field that asks for it
* `Selection.group?_resolve`: the last measure with a group stage fills it
-/

namespace DocQuery

/-- The entry of a projection that a requested field asks for. -/
def Field.entry? : Field → Option (String × Value)
  | .name key => some (key, .int32 1)
  | .renamed source target => some (target, .string (fieldReference source))
  | .computed c => if c.measure = .length then some (c.alias, .int32 1) else none

/-- The fields that a requested field adds to every document. -/
def Field.addedFields : Field → Document
  | .computed c => if c.measure = .length then c.document else []
  | _ => []

/-- The measure of a computed field. -/
def Field.measure? : Field → Option Measure
  | .computed c => some c.measure
  | _ => none

namespace Selection

variable {fields : List Field}

/-- The names of the entries that requested fields ask for. -/
def requested (fields : List Field) : List String := Document.keys (fields.filterMap Field.entry?)

theorem requested_map_name (names : List String) : requested (names.map .name) = names := by
  unfold requested Document.keys
  rw [List.filterMap_map, List.map_filterMap]
  exact List.filterMap_some

/-! ## The projection -/

theorem fields_add (s : Selection) (field : Field) :
    (s.add field).fields = Document.extend s.fields field.entry?.toList := by
  cases field with
  | name name => rfl
  | renamed source target => rfl
  | computed c =>
    obtain ⟨measure, source, target⟩ := c
    cases measure <;> rfl

theorem fields_foldl_add (s : Selection) (fields : List Field) :
    (fields.foldl add s).fields = Document.extend s.fields (fields.filterMap Field.entry?) := by
  induction fields generalizing s with
  | nil => rfl
  | cons field rest ih =>
    rw [List.foldl_cons, ih, fields_add, ← Document.extend_append]
    cases hentry : field.entry? with
    | none => rw [List.filterMap_cons_none hentry]; rfl
    | some entry => rw [List.filterMap_cons_some hentry]; rfl

/-- Before the identifier is looked at, a projection has the requested keys and no others. -/
theorem contains_foldl_add {key : String} :
    Document.contains (fields.foldl add empty).fields key = true ↔ key ∈ requested fields := by
  rw [Document.contains_iff_mem_keys, fields_foldl_add, Document.mem_keys_extend, requested]
  exact or_iff_right List.not_mem_nil

/-- The keys of a projection are the requested ones and the identifier. -/
theorem keys_resolve {key : String} :
    key ∈ Document.keys (resolve fields).fields ↔ key ∈ requested fields ∨ key = "_id" := by
  unfold resolve hideId
  split
  · next hid =>
    rw [← Document.contains_iff_mem_keys, contains_foldl_add]
    exact ⟨.inl, fun h => h.elim id fun heq => heq ▸ contains_foldl_add.1 hid⟩
  · rw [Document.mem_keys_insert, ← Document.contains_iff_mem_keys, contains_foldl_add]

/-- The entries of a projection are the requested ones, and an exclusion of an identifier that is
not requested. -/
theorem mem_resolve {entry : String × Value} (h : entry ∈ (resolve fields).fields) :
    entry ∈ fields.filterMap Field.entry? ∨
      entry = ("_id", .int32 0) ∧ "_id" ∉ requested fields := by
  have hrequested : entry ∈ (fields.foldl add empty).fields →
      entry ∈ fields.filterMap Field.entry? := by
    rw [fields_foldl_add]
    exact fun hmem => (Document.mem_of_mem_extend hmem).resolve_left List.not_mem_nil
  unfold resolve hideId at h
  split at h
  · exact .inl (hrequested h)
  · next hid =>
    obtain h | h := Document.mem_of_mem_insert h
    · exact .inl (hrequested h)
    · exact .inr ⟨h, fun hmem => hid (contains_foldl_add.2 hmem)⟩

/-- Under a requested name stands what a field asks for. -/
theorem exists_mem_resolve {key : String} (h : key ∈ requested fields) :
    ∃ v, (key, v) ∈ (resolve fields).fields ∧ (key, v) ∈ fields.filterMap Field.entry? := by
  obtain ⟨⟨_, v⟩, hmem, rfl⟩ := List.mem_map.1 (keys_resolve.2 (.inl h))
  refine ⟨v, hmem, (mem_resolve hmem).resolve_right ?_⟩
  rintro ⟨heq, hid⟩
  cases heq
  exact hid h

/-! ## The other parts -/

/-- What every field leaves alone stays as it is. -/
theorem foldl_add_eq {α : Type} (part : Selection → α)
    (h : ∀ s : Selection, ∀ field ∈ fields, part (s.add field) = part s) (s : Selection) :
    part (fields.foldl add s) = part s := by
  induction fields generalizing s with
  | nil => rfl
  | cons field rest ih =>
    have hrest := ih fun other next hnext => h other next (List.mem_cons_of_mem _ hnext)
    rw [List.foldl_cons, hrest, h s field List.mem_cons_self]

theorem hideId_parts (s : Selection) :
    s.hideId.addFields = s.addFields ∧ s.hideId.group? = s.group? ∧ s.hideId.count? = s.count? := by
  unfold hideId
  split <;> exact ⟨rfl, rfl, rfl⟩

theorem addFields_add (s : Selection) (field : Field) :
    (s.add field).addFields = Document.extend s.addFields field.addedFields := by
  cases field with
  | name name => rfl
  | renamed source target => rfl
  | computed c =>
    obtain ⟨measure, source, target⟩ := c
    cases measure <;> rfl

theorem addFields_foldl_add (s : Selection) (fields : List Field) :
    (fields.foldl add s).addFields =
      Document.extend s.addFields (fields.flatMap Field.addedFields) := by
  induction fields generalizing s with
  | nil => rfl
  | cons field rest ih =>
    rw [List.foldl_cons, ih, addFields_add, ← Document.extend_append, List.flatMap_cons]

/-- The added fields are those of the lengths. -/
theorem mem_addFields_resolve {entry : String × Value} (h : entry ∈ (resolve fields).addFields) :
    ∃ c, .computed c ∈ fields ∧ c.measure = .length ∧ entry.1 = c.alias := by
  rw [resolve, (hideId_parts _).1, addFields_foldl_add] at h
  have hadded := (Document.mem_of_mem_extend h).resolve_left List.not_mem_nil
  obtain ⟨field, hfield, hentry⟩ := List.mem_flatMap.1 hadded
  cases field with
  | name name => cases hentry
  | renamed source target => cases hentry
  | computed c =>
    refine ⟨c, hfield, ?_⟩
    obtain ⟨measure, source, target⟩ := c
    cases measure with
    | length => exact ⟨rfl, congrArg Prod.fst (List.mem_singleton.1 hentry)⟩
    | count | greatest | least => cases hentry

/-- A requested field fills the part of its measure and no other. -/
theorem add_parts (s : Selection) (field : Field) :
    (field.measure? ≠ some .count → (s.add field).count? = s.count?) ∧
      (field.measure? ≠ some .greatest → field.measure? ≠ some .least →
        (s.add field).group? = s.group?) := by
  cases field with
  | name name => exact ⟨fun _ => rfl, fun _ _ => rfl⟩
  | renamed source target => exact ⟨fun _ => rfl, fun _ _ => rfl⟩
  | computed c =>
    obtain ⟨measure, source, target⟩ := c
    cases measure with
    | length => exact ⟨fun _ => rfl, fun _ _ => rfl⟩
    | count => exact ⟨fun h => absurd rfl h, fun _ _ => rfl⟩
    | greatest => exact ⟨fun _ => rfl, fun h _ => absurd rfl h⟩
    | least => exact ⟨fun _ => rfl, fun _ h => absurd rfl h⟩

theorem count?_resolve (h : ∀ field ∈ fields, field.measure? ≠ some .count) :
    (resolve fields).count? = none := by
  rw [resolve, (hideId_parts _).2.2]
  exact foldl_add_eq count? (fun s field hfield => (s.add_parts field).1 (h field hfield)) empty

theorem group?_foldl_add (s : Selection)
    (h : ∀ field ∈ fields, field.measure? ≠ some .greatest ∧ field.measure? ≠ some .least) :
    (fields.foldl add s).group? = s.group? := by
  refine foldl_add_eq group? (fun s field hfield => ?_) s
  obtain ⟨hgreatest, hleast⟩ := h field hfield
  exact (s.add_parts field).2 hgreatest hleast

theorem group?_resolve_eq_none
    (h : ∀ field ∈ fields, field.measure? ≠ some .greatest ∧ field.measure? ≠ some .least) :
    (resolve fields).group? = none := by
  rw [resolve, (hideId_parts _).2.1, group?_foldl_add _ h]
  rfl

/-- Of several measures with a group stage the last one counts. -/
theorem group?_resolve {before after : List Field} {c : Computed}
    (hc : c.measure = .greatest ∨ c.measure = .least)
    (hafter : ∀ field ∈ after, field.measure? ≠ some .greatest ∧ field.measure? ≠ some .least) :
    (resolve (before ++ .computed c :: after)).group? = some c.document := by
  rw [resolve, (hideId_parts _).2.1, List.foldl_append, List.foldl_cons,
    group?_foldl_add _ hafter, add]
  obtain hc | hc := hc <;> rw [hc]

/-- Names fill the projection and nothing else. -/
theorem parts_map_name (names : List String) :
    (resolve (names.map .name)).addFields = [] ∧ (resolve (names.map .name)).group? = none ∧
      (resolve (names.map .name)).count? = none := by
  have hmeasure : ∀ field ∈ names.map Field.name, ∀ measure, field.measure? ≠ some measure := by
    intro field hfield measure
    obtain ⟨name, -, rfl⟩ := List.mem_map.1 hfield
    nofun
  refine ⟨List.eq_nil_iff_forall_not_mem.2 fun entry hentry => ?_, ?_,
    count?_resolve fun field hfield => hmeasure field hfield .count⟩
  · obtain ⟨c, hmem, hlength, -⟩ := mem_addFields_resolve hentry
    exact hmeasure _ hmem .length (congrArg some hlength)
  · exact group?_resolve_eq_none fun field hfield =>
      ⟨hmeasure field hfield .greatest, hmeasure field hfield .least⟩

end Selection

end DocQuery
