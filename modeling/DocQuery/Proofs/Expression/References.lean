import DocQuery.Expression
import DocQuery.Function
import Mathlib.Data.List.TakeWhile

/-!
# References in expressions

A string with a sign in front stands for the value at a path of the document, one with two signs for
a variable. What is missing is null.

## Main definitions

* `Document.atPathOrNull`: the value at a path, or null

## Main results

* `Expression.resolve_fieldReference`: a reference to a field is the value at its path
* `Expression.resolve_variable`: a reference to a variable without a dot is the bound value
-/

namespace DocQuery

/-- The value at a path, or null if there is none. -/
def Document.atPathOrNull (d : Document) (path : String) : Value := (atPath? d path).getD .null

theorem toList_fieldReference (field : String) :
    (fieldReference field).toList = '$' :: field.toList := by
  rw [fieldReference, String.toList_append]
  rfl

theorem toList_variableReference (name : String) :
    ("$" ++ fieldReference name).toList = '$' :: '$' :: name.toList := by
  rw [String.toList_append, toList_fieldReference]
  rfl

namespace Expression

variable (doc vars : Document)

/-- A reference to a field is the value at its path, or null. -/
theorem resolve_fieldReference {field : String} (h : isOperatorKey field = false) :
    resolve doc vars (fieldReference field) = Document.atPathOrNull doc field := by
  unfold resolve
  rw [toList_fieldReference]
  cases hfield : field.toList with
  | nil =>
    have hempty : field = String.ofList [] := by rw [← hfield, String.ofList_toList]
    rw [hempty]
    rfl
  | cons c rest =>
    have hc : c ≠ '$' := by
      rintro rfl
      rw [isOperatorKey, hfield] at h
      simp at h
    have hlist : field = String.ofList (c :: rest) := by rw [← hfield, String.ofList_toList]
    split
    · next heq =>
      cases heq
      exact absurd rfl hc
    · next heq =>
      cases heq
      rw [hlist]
      rfl
    · next hnone => exact absurd rfl (hnone _)

theorem splitVariable_of_not_mem {name : String} (h : '.' ∉ name.toList) :
    splitVariable name.toList = (name, none) := by
  have htake : name.toList.takeWhile (· != '.') = name.toList := by
    refine List.takeWhile_eq_self_iff.2 fun c hc => ?_
    rw [bne_iff_ne]
    rintro rfl
    exact h hc
  have hrest : name.toList.drop name.toList.length = [] := List.drop_length
  unfold splitVariable
  simp only [htake, hrest, String.ofList_toList]
  rfl

/-- A reference to a variable without a dot is the bound value, or null. -/
theorem resolve_variable {name : String} (h : '.' ∉ name.toList) :
    resolve doc vars ("$" ++ fieldReference name) = (Document.get? vars name).getD .null := by
  unfold resolve
  rw [toList_variableReference]
  simp only [splitVariable_of_not_mem h]

/-! ## Comparisons -/

/-- A call of a comparison compares its evaluated operands. -/
theorem eval_comparison {op : String} {accepts : Ordering → Bool}
    (hop : comparison? op = some accepts) (left right : String) :
    eval doc vars (.document [(op, .array [.string left, .string right])]) =
      .ok (.boolean (accepts ((resolve doc vars left).compare (resolve doc vars right)))) := by
  unfold comparison? at hop
  -- A closed operator decides every test of the evaluator, which leaves the comparison itself.
  split at hop <;> cases hop <;> rfl

/-- A conjunction of one truth value is that value. -/
theorem eval_and_singleton {expr : Value} {b : Bool} (h : eval doc vars expr = .ok (.boolean b)) :
    eval doc vars (.document [("$and", .array [expr])]) = .ok (.boolean b) := by
  have hitems : evalItems doc vars [expr] = .ok [.boolean b] := by
    rw [evalItems, h]
    rfl
  have harray : eval doc vars (.array [expr]) = .ok (.array [.boolean b]) := by
    rw [eval, hitems]
    rfl
  rw [eval, if_neg (by decide), if_neg (by decide), if_neg (by decide), if_pos (by decide), harray]
  cases b <;> rfl

end Expression

end DocQuery
