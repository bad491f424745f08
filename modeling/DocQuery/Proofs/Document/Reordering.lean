import DocQuery.Proofs.Document.Fields

/-!
# Documents up to the order of fields

Two documents are reorderings of each other if one comes from the other by exchanging neighbouring
fields, in the document itself or in documents nested in it. The values that are no documents, and
those inside arrays, are the same on both sides.

## Main definitions

* `Document.Reorders`: equality of documents, field order aside
* `Value.Reorders`: the same for values

## Main results

* `Document.Reorders.get?`: reorderings hold reorderings in every field
* `Document.Reorders.insert`: writing keeps reorderings
* `Document.reorders_insert_comm`: writes to two fields commute up to their order

## Design notes

Only fields with different keys are exchanged, so that reading a field does not see the order even
in a list of fields that repeats a key. `Document.same` compares doubles as numbers and holds of no
document with a NaN; this relation is reflexive.
-/

namespace DocQuery

namespace Document

/-- Equality of documents, field order aside. -/
inductive Reorders : Document → Document → Prop
  | refl (d : Document) : Reorders d d
  | swap (first second : String × Value) (rest : Document) (h : first.1 ≠ second.1) :
    Reorders (first :: second :: rest) (second :: first :: rest)
  | tail (field : String × Value) {d e : Document} (h : Reorders d e) :
    Reorders (field :: d) (field :: e)
  | nested (key : String) (rest : Document) {d e : Document} (h : Reorders d e) :
    Reorders ((key, .document d) :: rest) ((key, .document e) :: rest)
  | trans {d e f : Document} (h₁ : Reorders d e) (h₂ : Reorders e f) : Reorders d f

end Document

/-- Equality of values, field order of documents aside. -/
inductive Value.Reorders : Value → Value → Prop
  | refl (v : Value) : Reorders v v
  | document {d e : Document} (h : Document.Reorders d e) : Reorders (.document d) (.document e)

namespace Value.Reorders

theorem trans {u v w : Value} (h₁ : u.Reorders v) (h₂ : v.Reorders w) : u.Reorders w := by
  cases h₁ with
  | refl => exact h₂
  | document h =>
    cases h₂ with
    | refl => exact .document h
    | document h' => exact .document (h.trans h')

/-- Every value that may be missing is a reordering of itself. -/
theorem rel_refl (v? : Option Value) : Option.Rel Value.Reorders v? v? := by
  cases v? with
  | none => exact .none
  | some v => exact .some (.refl v)

theorem rel_trans {u? v? w? : Option Value} (h₁ : Option.Rel Value.Reorders u? v?)
    (h₂ : Option.Rel Value.Reorders v? w?) : Option.Rel Value.Reorders u? w? := by
  cases h₁ with
  | none => exact h₂
  | some h =>
    cases h₂ with
    | some h' => exact .some (h.trans h')

end Value.Reorders

namespace Document

namespace Reorders

/-- Reorderings hold reorderings in every field. -/
theorem get? {d e : Document} (h : d.Reorders e) (key : String) :
    Option.Rel Value.Reorders (Document.get? d key) (Document.get? e key) := by
  induction h with
  | refl d => exact Value.Reorders.rel_refl _
  | swap first second rest h =>
    -- Of two fields with different keys at most one is the field that is read.
    obtain ⟨k₁, v₁⟩ := first
    obtain ⟨k₂, v₂⟩ := second
    have heq : Document.get? ((k₁, v₁) :: (k₂, v₂) :: rest) key =
        Document.get? ((k₂, v₂) :: (k₁, v₁) :: rest) key := by
      simp only [Document.get?]
      by_cases h₁ : k₁ = key
      · have h₂ : k₂ ≠ key := fun h₂ => h (h₁.trans h₂.symm)
        rw [if_pos h₁, if_neg h₂, if_pos h₁]
      · rw [if_neg h₁, if_neg h₁]
    rw [heq]
    exact Value.Reorders.rel_refl _
  | tail field _ ih =>
    obtain ⟨k, v⟩ := field
    by_cases hk : k = key
    · simp only [Document.get?, if_pos hk]
      exact .some (.refl v)
    · simpa only [Document.get?, if_neg hk] using ih
  | nested k rest h _ =>
    by_cases hk : k = key
    · simp only [Document.get?, if_pos hk]
      exact .some (.document h)
    · simp only [Document.get?, if_neg hk]
      exact Value.Reorders.rel_refl _
  | trans _ _ ih₁ ih₂ => exact Value.Reorders.rel_trans ih₁ ih₂

/-- Writing a value to reorderings gives reorderings. -/
theorem insert_left {d e : Document} (h : d.Reorders e) (key : String) (value : Value) :
    (Document.insert d key value).Reorders (Document.insert e key value) := by
  induction h with
  | refl d => exact .refl _
  | swap first second rest h =>
    obtain ⟨k₁, v₁⟩ := first
    obtain ⟨k₂, v₂⟩ := second
    simp only [Document.insert]
    by_cases h₁ : k₁ = key
    · have h₂ : k₂ ≠ key := fun h₂ => h (h₁.trans h₂.symm)
      rw [if_pos h₁, if_neg h₂, if_pos h₁]
      exact .swap _ _ _ h
    · by_cases h₂ : k₂ = key
      · rw [if_neg h₁, if_pos h₂, if_pos h₂]
        exact .swap _ _ _ h
      · rw [if_neg h₁, if_neg h₂, if_neg h₂, if_neg h₁]
        exact .swap _ _ _ h
  | @tail field d e h ih =>
    obtain ⟨k, v⟩ := field
    by_cases hk : k = key
    · simp only [Document.insert, if_pos hk]
      exact .tail _ h
    · simp only [Document.insert, if_neg hk]
      exact .tail _ ih
  | nested k rest h _ =>
    by_cases hk : k = key
    · simp only [Document.insert, if_pos hk]
      exact .refl _
    · simp only [Document.insert, if_neg hk]
      exact .nested k _ h
  | trans _ _ ih₁ ih₂ => exact ih₁.trans ih₂

theorem insert_right (d : Document) (key : String) {v w : Value} (h : v.Reorders w) :
    (Document.insert d key v).Reorders (Document.insert d key w) := by
  cases h with
  | refl => exact .refl _
  | document h =>
    induction d with
    | nil => exact .nested key [] h
    | cons field rest ih =>
      obtain ⟨k, u⟩ := field
      by_cases hk : k = key
      · simp only [Document.insert, if_pos hk]
        exact .nested k rest h
      · simp only [Document.insert, if_neg hk]
        exact .tail _ ih

theorem insert {d e : Document} (h : d.Reorders e) (key : String) {v w : Value}
    (hvalue : v.Reorders w) : (Document.insert d key v).Reorders (Document.insert e key w) :=
  (h.insert_left key v).trans (insert_right e key hvalue)

end Reorders

/-- Writes to two fields commute up to their order. -/
theorem reorders_insert_comm (d : Document) {key other : String} (h : key ≠ other)
    (v w : Value) :
    (insert (insert d key v) other w).Reorders (insert (insert d other w) key v) := by
  induction d with
  | nil =>
    simp only [insert, if_neg h, if_neg (Ne.symm h)]
    exact .swap _ _ _ h
  | cons field rest ih =>
    obtain ⟨k, u⟩ := field
    by_cases hkey : k = key
    · subst hkey
      simp only [insert, if_neg h, if_true]
      exact .refl _
    · by_cases hother : k = other
      · subst hother
        simp only [insert, if_neg hkey, if_true]
        exact .refl _
      · simp only [insert, if_neg hkey, if_neg hother]
        exact .tail _ ih

end Document

end DocQuery
