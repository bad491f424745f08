import DocQuery.Condition
import DocQuery.Proofs.Condition.Verdict
import DocQuery.Proofs.Path.ReadBack
import DocQuery.Proofs.Value.Order
import DocQuery.Regex.Basic

/-!
# The width of numbers in conditions

A condition looks at the value of a field through comparisons, and numbers of every width are
compared as doubles. So a query document says the same of two documents that hold one number in two
widths, its error included. What tells widths apart is sameness, which compares the items of arrays
and the fields of documents, and through it expressions, which put numbers into arrays.

## Main definitions

* `Condition.leaves`: the conditions that the connectives of a query document combine
* `Condition.SameVerdicts`: conditions that do not tell two documents apart
* `Value.ReadAlike`, `Document.ReadAlike`: readings, and documents, that differ in widths alone

## Main results

* `Condition.conditionsMatch_of_leaves`: verdicts that agree on the leaves agree
* `Condition.operatorsMatch_of_readAlike`: operators do not see the width of a number
* `Condition.docMatches_insert_number`: neither does a query document without expressions
-/

namespace DocQuery

/-! ## Comparisons with a number -/

namespace Value

variable {v w : Value} {x : Double}

/-- The order of a number and another value, by the double of the number. -/
theorem compare_of_number (hv : v.toDouble? = some x) (t : Value) :
    v.compare t =
      match t.toDouble? with
      | some y => x.totalCompare y
      | none => Ord.compare 2 t.rank := by
  unfold compare
  rw [hv]
  cases t.toDouble? with
  | some y => rfl
  | none =>
    cases v with
    | int32 | int64 | double => rfl
    | _ => cases hv

theorem isNumber_of_toDouble? (hv : v.toDouble? = some x) : v.isNumber = true := by
  rw [isNumber, hv]
  rfl

/-- A number is the same as numbers alone. -/
theorem same_of_number (hv : v.toDouble? = some x) {t : Value} (ht : t.isNumber = false) :
    v.same t = false := by
  cases v with
  | int32 | int64 | double =>
    cases t with
    | int32 | int64 | double => cases ht
    | _ => rfl
  | _ => cases hv

/-- Numbers that stand for one double are equal to the same values. -/
theorem equals_congr (hv : v.toDouble? = some x) (hw : w.toDouble? = some x) (t : Value) :
    v.equals t = w.equals t := by
  unfold equals
  rw [isNumber_of_toDouble? hv, isNumber_of_toDouble? hw, Bool.true_and]
  cases ht : t.isNumber with
  | true => rw [if_pos rfl, if_pos rfl, compare_of_number hv, compare_of_number hw]
  | false =>
    rw [same_of_number hv ht, same_of_number hw ht, if_neg Bool.false_ne_true,
      if_neg Bool.false_ne_true]

theorem isComparable_congr (hv : v.toDouble? = some x) (hw : w.toDouble? = some x) (t : Value) :
    v.isComparable t = w.isComparable t := by
  unfold isComparable
  rw [isNumber_of_toDouble? hv, isNumber_of_toDouble? hw, (rank_of_toDouble? hv).1,
    (rank_of_toDouble? hw).1]

/-- Two readings that differ in the width of a number alone. -/
inductive ReadAlike : Option Value → Option Value → Prop
  | refl (v? : Option Value) : ReadAlike v? v?
  | number {v w : Value} {x : Double} (hv : v.toDouble? = some x) (hw : w.toDouble? = some x) :
    ReadAlike (some v) (some w)

/-- Nothing is found below a number. -/
theorem follow?_of_number (hv : v.toDouble? = some x) {p : List String} (hp : p ≠ []) :
    v.follow? p = none := by
  cases p with
  | nil => exact absurd rfl hp
  | cons segment rest =>
    cases v with
    | int32 | int64 | double => rfl
    | _ => cases hv

end Value

/-! ## Documents -/

namespace Document

/-- Two documents of which every path reads the same, the width of numbers aside. -/
def ReadAlike (d e : Document) : Prop :=
  ∀ path, Value.ReadAlike (atPath? d path) (atPath? e path)

/-- Writing one number in two widths makes documents that read alike. -/
theorem readAlike_insert {v w : Value} {x : Double} (hv : v.toDouble? = some x)
    (hw : w.toDouble? = some x) (d : Document) (key : String) :
    ReadAlike (insert d key v) (insert d key w) := by
  intro path
  by_cases hhead : (Path.segments path).head? = some key
  · obtain ⟨rest, hrest⟩ := List.head?_eq_some_iff.1 hhead
    -- The path leads to the number itself, or on from it to nothing.
    have hfollow : ∀ {u : Value}, u.toDouble? = some x →
        follow? (insert d key u) (Path.segments path) = if rest = [] then some u else none := by
      intro u hu
      rw [hrest, follow?, get?_insert_self]
      by_cases hnil : rest = []
      · rw [hnil, if_pos rfl]
        rfl
      · rw [if_neg hnil]
        exact Value.follow?_of_number hu hnil
    simp only [atPath?, hfollow hv, hfollow hw]
    split
    · exact .refl none
    · split
      · exact .refl none
      · split
        · exact .number hv hw
        · exact .refl none
  · rw [atPath?_insert hhead, atPath?_insert hhead]
    exact .refl _

end Document

namespace Condition

open Value (ReadAlike)

/-! ## Operators -/

variable {value? other? : Option Value} {v w : Value} {x : Double}

theorem eqMatches_of_number (hv : v.toDouble? = some x) (t : Value) :
    eqMatches (some v) t = v.equals t := by
  cases v with
  | int32 | int64 | double => rfl
  | _ => cases hv

theorem rangeMatches_of_number (hv : v.toDouble? = some x) (t : Value)
    (accepts : Ordering → Bool) :
    rangeMatches (some v) t accepts = (v.isComparable t && accepts (v.compare t)) := by
  cases v with
  | int32 | int64 | double => rfl
  | _ => cases hv

/-- No regular expression matches a number, and the pattern is read all the same. -/
theorem regexMatches_of_number [Regex.Engine] (hv : v.toDouble? = some x) (ops : Document) :
    regexMatches (some v) ops = regexMatches none ops := by
  cases v with
  | int32 | int64 | double => rfl
  | _ => cases hv

theorem sizeMatches_of_number (hv : v.toDouble? = some x) (operand : Value) :
    sizeMatches (some v) operand = false := by
  cases v with
  | int32 | int64 | double => rfl
  | _ => cases hv

theorem eqMatches_of_readAlike (h : ReadAlike value? other?) :
    eqMatches value? = eqMatches other? := by
  cases h with
  | refl => rfl
  | number hv hw =>
    funext t
    rw [eqMatches_of_number hv, eqMatches_of_number hw, Value.equals_congr hv hw]

theorem rangeMatches_of_readAlike (h : ReadAlike value? other?) (t : Value)
    (accepts : Ordering → Bool) :
    rangeMatches value? t accepts = rangeMatches other? t accepts := by
  cases h with
  | refl => rfl
  | number hv hw =>
    rw [rangeMatches_of_number hv, rangeMatches_of_number hw, Value.isComparable_congr hv hw,
      Value.compare_of_number hv, Value.compare_of_number hw]

section

variable [Regex.Engine]

theorem plainMatches_of_readAlike (h : ReadAlike value? other?) (ops : Document) (op : String)
    (operand : Value) :
    plainMatches value? ops op operand = plainMatches other? ops op operand := by
  have heq := eqMatches_of_readAlike h
  have hrange := rangeMatches_of_readAlike h operand
  have hin : inMatches value? operand = inMatches other? operand := by
    unfold inMatches
    rw [heq]
  have hregex : regexMatches value? ops = regexMatches other? ops := by
    cases h with
    | refl => rfl
    | number hv hw => rw [regexMatches_of_number hv, regexMatches_of_number hw]
  have hsome : value?.isSome = other?.isSome := by
    cases h <;> rfl
  have hsize : sizeMatches value? operand = sizeMatches other? operand := by
    cases h with
    | refl => rfl
    | number hv hw => rw [sizeMatches_of_number hv, sizeMatches_of_number hw]
  unfold plainMatches
  simp only [heq, hrange, hin, hregex, hsome, hsize]

variable (vars : Document)

mutual

/-- Operators have one verdict on readings that differ in the width of a number alone. -/
theorem operatorsMatch_of_readAlike (h : ReadAlike value? other?) (ops : Document)
    (conditions : List (String × Value)) :
    operatorsMatch value? vars ops conditions = operatorsMatch other? vars ops conditions := by
  match conditions with
  | [] => rfl
  | (op, operand) :: rest =>
    rw [operatorsMatch, operatorsMatch, operatorMatches_of_readAlike h ops op operand,
      operatorsMatch_of_readAlike h ops rest]
termination_by structural conditions

theorem operatorMatches_of_readAlike (h : ReadAlike value? other?) (ops : Document) (op : String)
    (operand : Value) :
    operatorMatches value? vars ops op operand = operatorMatches other? vars ops op operand := by
  have hplain := plainMatches_of_readAlike h ops op operand
  unfold operatorMatches
  rw [hplain]
  by_cases hnot : op = "$not"
  · rw [if_pos hnot, if_pos hnot]
    cases operand with
    | document inner => simp only [operatorsMatch_of_readAlike h inner inner]
    | _ => rfl
  · rw [if_neg hnot, if_neg hnot]
    cases h with
    | refl => rfl
    | @number v w x hv hw =>
      -- A number has no items, so no item satisfies anything.
      cases v with
      | int32 | int64 | double =>
        cases w with
        | int32 | int64 | double => rfl
        | _ => cases hw
      | _ => cases hv
termination_by structural operand

end

/-! ## Connectives -/

/-- Whether a key combines whole query documents. -/
def IsConnective (key : String) : Prop := key = "$and" ∨ key = "$or" ∨ key = "$nor"

instance (key : String) : Decidable (IsConnective key) := inferInstanceAs (Decidable (_ ∨ _ ∨ _))

mutual

/-- The conditions that a query document combines, those of its connectives at any depth
included. -/
def leaves (conditions : List (String × Value)) : List (String × Value) :=
  match conditions with
  | [] => []
  | (key, cond) :: rest => conditionLeaves key cond ++ leaves rest
termination_by structural conditions

/-- The conditions that one condition combines, or itself if it is no connective. -/
def conditionLeaves (key : String) (cond : Value) : List (String × Value) :=
  if IsConnective key then
    match cond with
    | .array queries => queryLeaves queries
    | _ => []
  else [(key, cond)]
termination_by structural cond

/-- The conditions that a list of query documents combines. -/
def queryLeaves (queries : List Value) : List (String × Value) :=
  match queries with
  | [] => []
  | .document query :: rest => leaves query ++ queryLeaves rest
  | _ :: rest => queryLeaves rest
termination_by structural queries

end

variable {d e : Document} {vars}

/-- Each condition of a list that is no connective has one verdict on two documents. -/
def SameVerdicts (d e vars : Document) (conditions : List (String × Value)) : Prop :=
  ∀ leaf ∈ conditions, ¬ IsConnective leaf.1 →
    conditionMatches d vars leaf.1 leaf.2 = conditionMatches e vars leaf.1 leaf.2

theorem sameVerdicts_append {first second : List (String × Value)} :
    SameVerdicts d e vars (first ++ second) ↔
      SameVerdicts d e vars first ∧ SameVerdicts d e vars second :=
  List.forall_mem_append

mutual

/-- Two documents on which every leaf has one verdict have one verdict. -/
theorem conditionsMatch_of_leaves {conditions : List (String × Value)}
    (h : SameVerdicts d e vars (leaves conditions)) :
    conditionsMatch d vars conditions = conditionsMatch e vars conditions := by
  match conditions with
  | [] => rfl
  | (key, cond) :: rest =>
    rw [leaves, sameVerdicts_append] at h
    rw [conditionsMatch, conditionsMatch, conditionMatches_of_leaves h.1,
      conditionsMatch_of_leaves h.2]
termination_by structural conditions

theorem conditionMatches_of_leaves {key : String} {cond : Value}
    (h : SameVerdicts d e vars (conditionLeaves key cond)) :
    conditionMatches d vars key cond = conditionMatches e vars key cond := by
  unfold conditionLeaves at h
  by_cases hconnective : IsConnective key
  · rw [if_pos hconnective] at h
    cases cond with
    | array queries =>
      have hall := allMatch_of_leaves h
      have hany := anyMatches_of_leaves h
      unfold conditionMatches
      simp only [hall, hany]
      obtain rfl | rfl | rfl := hconnective <;> rfl
    | _ => obtain rfl | rfl | rfl := hconnective <;> rfl
  · rw [if_neg hconnective] at h
    exact h _ (List.mem_singleton.2 rfl) hconnective
termination_by structural cond

theorem allMatch_of_leaves {queries : List Value}
    (h : SameVerdicts d e vars (queryLeaves queries)) :
    allMatch d vars queries = allMatch e vars queries := by
  match queries with
  | [] => rfl
  | query :: rest =>
    have hrest : SameVerdicts d e vars (queryLeaves rest) →
      allMatch d vars rest = allMatch e vars rest := allMatch_of_leaves
    cases query with
    | document conditions =>
      rw [queryLeaves, sameVerdicts_append] at h
      rw [allMatch, allMatch, conditionsMatch_of_leaves h.1, hrest h.2]
    | _ => exact hrest h
termination_by structural queries

theorem anyMatches_of_leaves {queries : List Value}
    (h : SameVerdicts d e vars (queryLeaves queries)) :
    anyMatches d vars queries = anyMatches e vars queries := by
  match queries with
  | [] => rfl
  | query :: rest =>
    have hrest : SameVerdicts d e vars (queryLeaves rest) →
      anyMatches d vars rest = anyMatches e vars rest := anyMatches_of_leaves
    cases query with
    | document conditions =>
      rw [queryLeaves, sameVerdicts_append] at h
      rw [anyMatches, anyMatches, conditionsMatch_of_leaves h.1, hrest h.2]
    | _ => exact hrest h
termination_by structural queries

end

/-! ## Query documents -/

/-- A condition that is no connective and no expression is a condition on a reading. -/
theorem conditionMatches_of_readAlike (h : d.ReadAlike e) {key : String} (cond : Value)
    (hconnective : ¬ IsConnective key) (hexpr : key ≠ "$expr") :
    conditionMatches d vars key cond = conditionMatches e vars key cond := by
  obtain ⟨hand, hor, hnor⟩ : key ≠ "$and" ∧ key ≠ "$or" ∧ key ≠ "$nor" := by
    simpa only [IsConnective, not_or] using hconnective
  have heq := eqMatches_of_readAlike (h key)
  unfold conditionMatches
  simp only [hand, hor, hnor, hexpr, if_false, heq]
  by_cases hop : Expression.isOperatorKey key = true
  · rw [if_pos hop, if_pos hop]
  · rw [if_neg hop, if_neg hop]
    cases cond with
    | document ops => simp only [operatorsMatch_of_readAlike vars (h key) ops ops]
    | _ => rfl

/-- A query document without expressions has one verdict on documents that read alike. -/
theorem docMatches_of_readAlike (h : d.ReadAlike e) {query : Document}
    (hquery : ∀ leaf ∈ leaves query, leaf.1 ≠ "$expr") :
    docMatches d query vars = docMatches e query vars :=
  conditionsMatch_of_leaves fun leaf hleaf hconnective =>
    conditionMatches_of_readAlike h leaf.2 hconnective (hquery leaf hleaf)

/-- A query document without expressions does not see in which width the number at a key is held:
two numbers that stand for one double satisfy it alike, and fail alike. -/
theorem docMatches_insert_number {v w : Value} {x : Double} (hv : v.toDouble? = some x)
    (hw : w.toDouble? = some x) {query : Document}
    (hquery : ∀ leaf ∈ leaves query, leaf.1 ≠ "$expr") (d : Document) (key : String)
    (vars : Document) :
    docMatches (Document.insert d key v) query vars =
      docMatches (Document.insert d key w) query vars :=
  docMatches_of_readAlike (Document.readAlike_insert hv hw d key) hquery

end

/-- The price three as an integer and as a double, asked for below two connectives and a negation;
the expression inside the query is one on the items of another field. -/
theorem docMatches_insert_number_price :
    let three : Double := ⟨0x4008000000000000⟩
    let cheap : Document := [("price", .document [("$not", .document [("$gte", .int64 3)])])]
    let listed : Document := [("price", .document [("$in", .array [.string "?", .int32 3])])]
    let hot : Document := [("hot", .boolean true), ("$expr", .string "$hot")]
    let query : Document :=
      [("$nor", .array [.document cheap, .document [("$and", .array [.document cheap])]]),
        ("$or", .array [.document listed]), ("price.net", .null),
        ("tags", .document [("$elemMatch", .document hot)])]
    let d : Document := [("tags", .array [.document [("hot", .boolean true)]])]
    (Value.int32 3).toDouble? = some three ∧ (Value.double three).toDouble? = some three ∧
      (∀ leaf ∈ leaves query, leaf.1 ≠ "$expr") ∧
      (docMatches (Document.insert d "price" (.int32 3)) query []).toOption = some true ∧
      (docMatches (Document.insert d "price" (.double three)) query []).toOption = some true := by
  intro three cheap listed hot query d
  have hint : (Value.int32 3).toDouble? = some three := by decide +kernel
  have hdouble : (Value.double three).toDouble? = some three := rfl
  have hquery : ∀ leaf ∈ leaves query, leaf.1 ≠ "$expr" := by decide +kernel
  have hmatches : (docMatches (Document.insert d "price" (.int32 3)) query []).toOption =
      some true := by decide +kernel
  rw [← docMatches_insert_number hint hdouble hquery d "price" []]
  exact ⟨hint, hdouble, hquery, hmatches, hmatches⟩

end Condition

end DocQuery
