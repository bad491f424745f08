import DocQuery.Proofs.Document.Fields
import DocQuery.Value.Equality

/-!
# Values that are the same as themselves

A value is the same as itself unless there is a NaN somewhere in it, in a document or an array at any
depth. Documents are compared by their keys, so this is about documents that repeat no key.

## Main definitions

* `Value.everywhere`: a value and everything inside it passes a check
* `Value.IsNaNFree`: there is no NaN in a value
* `Value.HasUniqueKeys`: no document in a value repeats a key

## Main results

* `Value.hasUniqueKeys_document`, `Value.hasUniqueKeys_array`: unique keys, one value at a time
* `Value.same_self`: a value without a NaN is the same as itself
-/

namespace DocQuery

mutual

/-- Whether a value and everything inside it passes a check. -/
def Value.everywhere (check : Value → Bool) (v : Value) : Bool :=
  check v &&
    match v with
    | .document fields => Document.everywhereFields check fields
    | .array items => Value.everywhereItems check items
    | .javaScriptWithScope _ scope => Document.everywhereFields check scope
    | _ => true
termination_by structural v

/-- Whether every item of a list passes a check, together with everything inside. -/
def Value.everywhereItems (check : Value → Bool) (items : List Value) : Bool :=
  match items with
  | [] => true
  | item :: rest => Value.everywhere check item && Value.everywhereItems check rest
termination_by structural items

/-- Whether the value of every field passes a check, together with everything inside. -/
def Document.everywhereFields (check : Value → Bool) (fields : List (String × Value)) : Bool :=
  match fields with
  | [] => true
  | (_, value) :: rest => Value.everywhere check value && Document.everywhereFields check rest
termination_by structural fields

end

namespace Value

/-- Whether a value is a NaN. -/
def isNaN : Value → Bool
  | .double x => x.isNaN
  | _ => false

/-- Whether the keys of a document, or of the scope of a script, are unique. -/
def keysAreUnique : Value → Bool
  | .document fields | .javaScriptWithScope _ fields => decide (Document.keys fields).Nodup
  | _ => true

/-- There is no NaN in a value. -/
def IsNaNFree (v : Value) : Prop := v.everywhere (!·.isNaN) = true

/-- No document in a value repeats a key. -/
def HasUniqueKeys (v : Value) : Prop := v.everywhere keysAreUnique = true

instance (v : Value) : Decidable v.IsNaNFree := inferInstanceAs (Decidable (_ = true))

instance (v : Value) : Decidable v.HasUniqueKeys := inferInstanceAs (Decidable (_ = true))

end Value

/-! ## Checks of everything inside a value -/

theorem Document.everywhereFields_iff {check : Value → Bool} {fields : Document} :
    everywhereFields check fields = true ↔ ∀ field ∈ fields, field.2.everywhere check = true := by
  induction fields with
  | nil => simp [everywhereFields]
  | cons field rest ih => rw [everywhereFields, Bool.and_eq_true, ih, List.forall_mem_cons]

theorem Value.everywhereItems_iff {check : Value → Bool} {items : List Value} :
    everywhereItems check items = true ↔ ∀ item ∈ items, item.everywhere check = true := by
  induction items with
  | nil => simp [everywhereItems]
  | cons item rest ih => rw [everywhereItems, Bool.and_eq_true, ih, List.forall_mem_cons]

theorem Value.hasUniqueKeys_document {d : Document} : (Value.document d).HasUniqueKeys ↔
    Document.HasUniqueKeys d ∧ ∀ field ∈ d, field.2.HasUniqueKeys := by
  refine Bool.and_eq_true_iff.trans (and_congr ?_ Document.everywhereFields_iff)
  exact decide_eq_true_iff

theorem Value.hasUniqueKeys_array {items : List Value} :
    (Value.array items).HasUniqueKeys ↔ ∀ item ∈ items, item.HasUniqueKeys :=
  Bool.and_eq_true_iff.trans ((and_iff_right rfl).trans everywhereItems_iff)

theorem Value.HasUniqueKeys.keys {d : Document} (h : (Value.document d).HasUniqueKeys) :
    Document.HasUniqueKeys d := (hasUniqueKeys_document.1 h).1

theorem Value.HasUniqueKeys.of_get? {d : Document} (h : (Value.document d).HasUniqueKeys)
    {key : String} {v : Value} (hget : Document.get? d key = some v) : v.HasUniqueKeys :=
  (hasUniqueKeys_document.1 h).2 _ (Document.mem_of_get? hget)

/-! ## Values that are the same as themselves -/

theorem Double.numEq_self {x : Double} (h : x.isNaN = false) : x.numEq x = true := by
  simp [numEq, h]

/-- Every field of a document without repeated keys is found in it. -/
theorem Document.get?_of_mem_fields {d : Document} (h : decide (keys d).Nodup = true) :
    ∀ field ∈ d, get? d field.1 = some field.2 := by
  intro field hfield
  have hunique : (keys d).Nodup := of_decide_eq_true h
  exact get?_of_mem hunique hfield

open Value (keysAreUnique)

mutual

/-- A value without a NaN is the same as itself. -/
theorem Value.same_self (v : Value) (hnan : v.IsNaNFree) (hkeys : v.HasUniqueKeys) :
    v.same v = true := by
  cases v with
  | document fields =>
    obtain ⟨-, hfields⟩ := Bool.and_eq_true_iff.1 hnan
    obtain ⟨hunique, hfields'⟩ := Bool.and_eq_true_iff.1 hkeys
    have hsame := Document.sameFields_self fields fields (Document.get?_of_mem_fields hunique)
      hfields hfields'
    simp [Value.same, hsame]
  | javaScriptWithScope code scope =>
    obtain ⟨-, hscope⟩ := Bool.and_eq_true_iff.1 hnan
    obtain ⟨hunique, hscope'⟩ := Bool.and_eq_true_iff.1 hkeys
    have hsame := Document.sameFields_self scope scope (Document.get?_of_mem_fields hunique)
      hscope hscope'
    simp [Value.same, hsame]
  | array items =>
    obtain ⟨-, hitems⟩ := Bool.and_eq_true_iff.1 hnan
    obtain ⟨-, hitems'⟩ := Bool.and_eq_true_iff.1 hkeys
    exact Value.sameItems_self items hitems hitems'
  | double x =>
    obtain ⟨hx, -⟩ := Bool.and_eq_true_iff.1 hnan
    have hnumber : x.isNaN = false := by simpa [Value.isNaN] using hx
    exact Double.numEq_self hnumber
  | _ => simp [Value.same]
termination_by structural v

theorem Value.sameItems_self (items : List Value)
    (hnan : Value.everywhereItems (!·.isNaN) items = true)
    (hkeys : Value.everywhereItems keysAreUnique items = true) :
    Value.sameItems items items = true := by
  match items with
  | [] => rfl
  | item :: rest =>
    rw [Value.everywhereItems, Bool.and_eq_true] at hnan hkeys
    have hitem := Value.same_self item hnan.1 hkeys.1
    have hrest := Value.sameItems_self rest hnan.2 hkeys.2
    rw [Value.sameItems, hitem, hrest, Bool.and_self]
termination_by structural items

/-- Fields that all stand in a document are among its fields. -/
theorem Document.sameFields_self (fields : List (String × Value)) (d : Document)
    (hget : ∀ field ∈ fields, Document.get? d field.1 = some field.2)
    (hnan : Document.everywhereFields (!·.isNaN) fields = true)
    (hkeys : Document.everywhereFields keysAreUnique fields = true) :
    Document.sameFields fields d = true := by
  match fields with
  | [] => rfl
  | (key, value) :: rest =>
    rw [Document.everywhereFields, Bool.and_eq_true] at hnan hkeys
    -- The field that is found under the key is the one that is looked for.
    obtain ⟨hfound, hfields⟩ := List.forall_mem_cons.1 hget
    have hvalue := Value.same_self value hnan.1 hkeys.1
    have hrest := Document.sameFields_self rest d hfields hnan.2 hkeys.2
    simp only at hfound
    simp only [Document.sameFields, hfound, hvalue, hrest, Bool.and_self]
termination_by structural fields

end

end DocQuery
