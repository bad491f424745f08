import DocQuery.Proofs.Document.Fields
import DocQuery.Proofs.Query.Indexing
import Mathlib.Data.List.Induction
import Mathlib.Data.List.Nodup

/-!
# Rows by their keys

Rows are written into a document one after another. A key keeps its place from the first row with
that key, and holds the last one. Positions have different texts, so that no row is lost as long as
rows are keyed by their positions alone.

## Main results

* `Document.keys_ofList`, `Document.get?_ofList`: fields written one after another
* `ResultSet.indexed_holds_last`: the rows by their keys
-/

namespace DocQuery

namespace Document

variable (fields : List (String × Value)) (key : String) (value : Value)

theorem ofList_concat : ofList (fields ++ [(key, value)]) = insert (ofList fields) key value :=
  extend_append [] fields [(key, value)]

/-- The keys of fields written one after another are in the order of their first fields. -/
theorem keys_ofList : keys (ofList fields) = (keys fields).eraseDups := by
  induction fields using List.reverseRecOn with
  | nil => rfl
  | append_singleton fields field ih =>
    obtain ⟨key, value⟩ := field
    have hkeys : keys (fields ++ [(key, value)]) = keys fields ++ [key] := List.map_append
    rw [ofList_concat, keys_insert, ih, hkeys, List.eraseDups_append, List.cons_removeAll]
    by_cases hkey : key ∈ keys fields
    · simp [hkey]
    · simp [hkey, List.eraseDups_cons]

/-- Of several fields with one key the last one stays. -/
theorem get?_ofList : get? (ofList fields) key =
    ((fields.filter (·.1 == key)).getLast?).map Prod.snd := by
  induction fields using List.reverseRecOn with
  | nil => rfl
  | append_singleton fields field ih =>
    obtain ⟨other, value⟩ := field
    rw [ofList_concat, List.filter_append]
    by_cases hkey : other = key
    · subst hkey
      simp
    · rw [get?_insert_of_ne _ value (Ne.symm hkey), ih]
      simp [hkey]

end Document

namespace ResultSet

/-- The text by which a row is keyed: of the value at a field, or of the position of a row that
lacks the field. -/
def keyTextAt (field : String) (row : Document × Nat) : String :=
  match Document.get? row.1 field with
  | some v => v.keyText
  | none => toString row.2

/-- Different positions have different texts, as the digits of a text give back its position. -/
theorem toString_injective : Function.Injective fun position : Nat => toString position := by
  refine Function.LeftInverse.injective (g := fun text => Nat.ofDigitChars 10 text.toList 0) ?_
  intro position
  change Nat.ofDigitChars 10 (toString position).toList 0 = position
  rw [Nat.toString_eq_ofList_toDigits, String.toList_ofList, Nat.ofDigitChars_ten_toDigits]

/-- The positions of rows are keys of their own. -/
theorem hasUniqueKeys_positions (rows : List Document) :
    Document.HasUniqueKeys (rows.zipIdx.map fun row => (toString row.2, .document row.1)) := by
  have hpositions : rows.zipIdx.map Prod.snd = List.range rows.length := by
    rw [List.zipIdx_map_snd, List.range_eq_range']
  have hkeys : Document.keys (rows.zipIdx.map fun row => (toString row.2, Value.document row.1)) =
      (List.range rows.length).map fun position => toString position := by
    rw [← hpositions, Document.keys, List.map_map, List.map_map]
    rfl
  rw [Document.HasUniqueKeys, hkeys]
  exact List.nodup_range.map toString_injective

/-- Many rows by their keys. Without a field the keys are the positions, in order, each with its
row. With a field they are the texts of the rows in the order of their first occurrences, each once,
and each holds the last row with this text. -/
theorem indexed_holds_last (rows : List Document) :
    indexed ⟨rows, true, none⟩ =
        .ok (rows.zipIdx.map fun row => (toString row.2, .document row.1)) ∧
      ∀ field, ∃ out, indexed ⟨rows, true, some field⟩ = .ok out ∧
        Document.keys out = (rows.zipIdx.map (keyTextAt field)).eraseDups ∧
        ∀ text, Document.get? out text =
          ((rows.zipIdx.filter (keyTextAt field · == text)).getLast?).map
            fun row => .document row.1 := by
  constructor
  · rw [indexed_eq rfl]
    exact congrArg Except.ok (Document.ofList_of_nodup (hasUniqueKeys_positions rows))
  · intro field
    refine ⟨_, indexed_eq rfl, ?_, fun text => ?_⟩
    · rw [Document.keys_ofList, Document.keys, List.map_map]
      rfl
    · rw [Document.get?_ofList, List.filter_map, List.getLast?_map, Option.map_map]
      rfl

/-- A string has the text of the position behind it, and an integer of either width has one text. -/
example : (indexed ⟨[[("k", .string "1")], [("n", .null)], [("k", .int32 7)],
      [("k", .int64 7)]], true, some "k"⟩).toOption.map Document.keys = some ["1", "7"] := by
  decide +kernel

end ResultSet

end DocQuery
