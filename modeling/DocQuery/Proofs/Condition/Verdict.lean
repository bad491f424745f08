import DocQuery.Condition
import DocQuery.Filter.Basic

/-!
# Verdicts

A verdict is what checking one condition gives: a truth value or an error. Lists of verdicts combine
from the left under a connective, and the first verdict that decides the combination, or that is an
error, ends it. The query documents that conditions are written as are brought to this form.

## Main definitions

* `Verdict.all`, `Verdict.any`: conjunction and disjunction from the left
* `Verdict.join`: the combination under a connective
* `Verdict.isTrue`, `Condition.isMatch`: what counts as true, on a document and without its error

## Main results

* `Verdict.all_ok`, `Verdict.any_ok`: without errors, a combination is one of truth values
* `Condition.docMatches_join`: a connective over query documents combines their verdicts
* `Condition.docMatches_comparison`: one operator on one field is checked on the value at the path
-/

namespace DocQuery

/-- What checking a condition gives. -/
abbrev Verdict := Except StoreError Bool

namespace Verdict

/-- Conjunction from the left, up to the first verdict that is false or an error. -/
def all : List Verdict → Verdict
  | [] => .ok true
  | v :: rest => do if ← v then all rest else return false

/-- Disjunction from the left, up to the first verdict that is true or an error. -/
def any : List Verdict → Verdict
  | [] => .ok false
  | v :: rest => do if ← v then return true else any rest

/-- The combination under a connective. -/
def join : Connective → List Verdict → Verdict
  | .and => all
  | .or => any

/-- Whether a verdict is true; an error is not. -/
def isTrue : Verdict → Bool
  | .ok b => b
  | .error _ => false

@[simp]
theorem all_nil : all [] = .ok true := rfl

@[simp]
theorem any_nil : any [] = .ok false := rfl

@[simp]
theorem all_singleton (v : Verdict) : all [v] = v := by
  match v with
  | .error _ => rfl
  | .ok true => rfl
  | .ok false => rfl

@[simp]
theorem any_singleton (v : Verdict) : any [v] = v := by
  match v with
  | .error _ => rfl
  | .ok true => rfl
  | .ok false => rfl

/-- One verdict is the same under either connective. -/
theorem join_singleton (c : Connective) (v : Verdict) : join c [v] = v := by
  cases c with
  | and => exact all_singleton v
  | or => exact any_singleton v

variable {α : Type} (f : α → Bool) (items : List α)

theorem all_ok : all (items.map fun item => .ok (f item)) = .ok (items.all f) := by
  induction items with
  | nil => rfl
  | cons item rest ih =>
    rw [List.map_cons, List.all_cons, all, ih]
    cases f item <;> rfl

theorem any_ok : any (items.map fun item => .ok (f item)) = .ok (items.any f) := by
  induction items with
  | nil => rfl
  | cons item rest ih =>
    rw [List.map_cons, List.any_cons, any, ih]
    cases f item <;> rfl

/-- Verdicts that are no errors combine to one that is none. -/
theorem exists_join_ok (c : Connective) :
    ∃ b, join c (items.map fun item => .ok (f item)) = .ok b := by
  cases c with
  | and => exact ⟨_, all_ok f items⟩
  | or => exact ⟨_, any_ok f items⟩

end Verdict

namespace Condition

variable [Regex.Engine]

/-- Whether a document satisfies a query document, where checking it does not fail. -/
def isMatch (query vars doc : Document) : Bool := Verdict.isTrue (docMatches doc query vars)

theorem isMatch_of_ok {query vars doc : Document} {b : Bool}
    (h : docMatches doc query vars = .ok b) : isMatch query vars doc = b := by
  rw [isMatch, h]
  rfl

variable (doc vars : Document)

/-! ## Keys -/

omit [Regex.Engine] in
theorem ne_of_isOperatorKey_eq_false {key op : String}
    (hkey : Expression.isOperatorKey key = false) (hop : Expression.isOperatorKey op = true) :
    key ≠ op := by
  rintro rfl
  rw [hkey] at hop
  exact Bool.false_ne_true hop

/-- A condition on a key without a sign in front is a condition on the value at that path. -/
theorem conditionMatches_of_field {key : String} (hkey : Expression.isOperatorKey key = false)
    {ops : Document} (hops : isOperatorDoc ops = true) :
    conditionMatches doc vars key (.document ops) =
      fieldMatches (Document.atPath? doc key) ops vars := by
  have hand : key ≠ "$and" := ne_of_isOperatorKey_eq_false hkey (by decide)
  have hor : key ≠ "$or" := ne_of_isOperatorKey_eq_false hkey (by decide)
  have hnor : key ≠ "$nor" := ne_of_isOperatorKey_eq_false hkey (by decide)
  have hexpr : key ≠ "$expr" := ne_of_isOperatorKey_eq_false hkey (by decide)
  -- None of the keys with a meaning of their own is left.
  rw [conditionMatches, if_neg hand, if_neg hor, if_neg hnor, if_neg hexpr, if_neg (by simp [hkey])]
  simp only [hops, if_true]
  rfl

/-! ## One operator -/

theorem operatorsMatch_singleton (value? : Option Value) (ops : Document) (op : String)
    (operand : Value) :
    operatorsMatch value? vars ops [(op, operand)] =
      operatorMatches value? vars ops op operand := by
  rw [operatorsMatch, operatorsMatch]
  match operatorMatches value? vars ops op operand with
  | .error _ => rfl
  | .ok true => rfl
  | .ok false => rfl

/-- An operator that contains no further query is checked on the value alone. -/
theorem operatorMatches_of_plain (value? : Option Value) (ops : Document) {op : String}
    (hnot : op ≠ "$not") (helem : op ≠ "$elemMatch") (operand : Value) :
    operatorMatches value? vars ops op operand = plainMatches value? ops op operand := by
  unfold operatorMatches
  rw [if_neg hnot, if_neg helem]

omit [Regex.Engine] in
/-- A check that never fails finds an item exactly if some item passes it. -/
theorem anyItem_ok (p : Value → Bool) (items : List Value) :
    anyItem (fun item => .ok (p item)) items = .ok (items.any p) := by
  induction items with
  | nil => rfl
  | cons item rest ih =>
    rw [anyItem, List.any_cons]
    cases h : p item with
    | true => rfl
    | false => exact ih

/-- Operators on the items of an array hold if some item satisfies them; what is no array has no
items. -/
theorem operatorMatches_elemMatch (value? : Option Value) (ops : Document) {cond : Document}
    (hcond : isOperatorDoc cond = true) :
    operatorMatches value? vars ops "$elemMatch" (.document cond) =
      match value? with
      | some (.array items) => anyItem (fun item => fieldMatches (some item) cond vars) items
      | _ => .ok false := by
  unfold operatorMatches
  rw [if_neg (by decide), if_pos rfl]
  simp only [hcond, if_true]
  rfl

/-! ## One condition -/

theorem docMatches_singleton (key : String) (cond : Value) :
    docMatches doc [(key, cond)] vars = conditionMatches doc vars key cond := by
  rw [docMatches, conditionsMatch]
  match conditionMatches doc vars key cond with
  | .error _ => rfl
  | .ok true => rfl
  | .ok false => rfl

/-- One operator on one field is checked on the value at the path, whatever the operand holds. -/
theorem docMatches_comparison {field op : String}
    (hfield : Expression.isOperatorKey field = false) (hop : Expression.isOperatorKey op = true)
    (operand : Value) :
    docMatches doc [(field, .document [(op, operand)])] vars =
      fieldMatches (Document.atPath? doc field) [(op, operand)] vars := by
  rw [docMatches_singleton]
  exact conditionMatches_of_field doc vars hfield (by simp [isOperatorDoc, hop])

/-! ## Connectives -/

omit [Regex.Engine] in
theorem checkDocuments_documents (op : String) (queries : List Document) :
    checkDocuments op (queries.map .document) = .ok () := by
  induction queries with
  | nil => rfl
  | cons query rest ih => exact ih

theorem allMatch_documents (queries : List Document) :
    allMatch doc vars (queries.map .document) =
      Verdict.all (queries.map fun query => docMatches doc query vars) := by
  induction queries with
  | nil => rw [List.map_nil, allMatch]; rfl
  | cons query rest ih =>
    rw [List.map_cons, allMatch, ih]
    rfl

theorem anyMatches_documents (queries : List Document) :
    anyMatches doc vars (queries.map .document) =
      Verdict.any (queries.map fun query => docMatches doc query vars) := by
  induction queries with
  | nil => rw [List.map_nil, anyMatches]; rfl
  | cons query rest ih =>
    rw [List.map_cons, anyMatches, ih]
    rfl

/-- A connective over query documents combines their verdicts. -/
theorem docMatches_join (c : Connective) (queries : List Document) :
    docMatches doc [(c.key, .array (queries.map .document))] vars =
      Verdict.join c (queries.map fun query => docMatches doc query vars) := by
  rw [docMatches_singleton, conditionMatches]
  cases c with
  | and =>
    rw [if_pos (show Connective.and.key = "$and" from rfl)]
    simp only [checkDocuments_documents, allMatch_documents]
    rfl
  | or =>
    rw [if_neg (by decide), if_pos (show Connective.or.key = "$or" from rfl)]
    simp only [checkDocuments_documents, anyMatches_documents]
    rfl

end Condition

end DocQuery
