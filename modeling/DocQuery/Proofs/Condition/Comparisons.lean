import DocQuery.Proofs.Condition.Verdict
import DocQuery.Proofs.Value.Equality
import DocQuery.Regex.Basic

/-!
# Equality and range operators

Equality is decided by one function and ranges by another, and both look into arrays in their own
way. For an operand of a kind that has an order they come to the same: equality is the range
operator that accepts equality alone. This takes that no decimal number and no symbol is compared,
which share a rank with numbers and with strings but have no order among them.

## Main definitions

* `OrderedKind`, `Value.orderedKind?`: the kinds whose values are ordered by content
* `Condition.compared`: the values that an operator compares with its operand

## Main results

* `Value.isComparable_iff`: values are comparable with an ordered one if they are of its kind
* `Condition.eqMatches_eq_rangeMatches`: equality as a range operator
* `Condition.fieldMatches_coherent`: how the six comparison operators go together
-/

namespace DocQuery

/-- The kinds whose values are ordered by content. -/
inductive OrderedKind where
  | number
  | string
  | boolean
  | dateTime
  | objectId
  deriving DecidableEq

/-- The rank of the values of a kind. -/
def OrderedKind.rank : OrderedKind → Nat
  | number => 2
  | string => 3
  | objectId => 7
  | boolean => 8
  | dateTime => 9

theorem OrderedKind.rank_inj {k l : OrderedKind} (h : k.rank = l.rank) : k = l := by
  cases k <;> cases l <;> first | rfl | cases h

namespace Value

/-- The kind of a value, if its values are ordered by content. -/
def orderedKind? : Value → Option OrderedKind
  | .int32 _ | .int64 _ | .double _ => some .number
  | .string _ => some .string
  | .boolean _ => some .boolean
  | .dateTime _ => some .dateTime
  | .objectId _ => some .objectId
  | _ => none

variable {v t : Value} {kind other : OrderedKind}

theorem rank_of_orderedKind? (h : v.orderedKind? = some kind) : v.rank = kind.rank := by
  cases v with
  | int32 | int64 | double | string | boolean | dateTime | objectId =>
    cases h
    rfl
  | _ => cases h

theorem isKeyed_of_orderedKind? (h : v.orderedKind? = some kind) : v.isKeyed = true := by
  cases v with
  | int32 | int64 | double | string | boolean | dateTime | objectId => rfl
  | _ => cases h

/-- Among the graded values, those of the rank of a kind are of this kind. -/
theorem orderedKind?_of_rank (hv : v.isGraded = true) (h : v.rank = kind.rank) :
    v.orderedKind? = some kind := by
  cases v with
  | int32 | int64 | double | string | boolean | dateTime | objectId =>
    exact congrArg some (OrderedKind.rank_inj h)
  | decimal128 | symbol => cases hv
  | _ => cases kind <;> cases h

/-- Two numbers have one rank, so it is the rank that decides whether values are comparable. -/
theorem isComparable_iff_rank : v.isComparable t = true ↔ v.rank = t.rank := by
  rw [isComparable, Bool.or_eq_true, beq_iff_eq]
  constructor
  · rintro (hnumbers | hrank)
    · obtain ⟨hv, ht⟩ := Bool.and_eq_true_iff.1 hnumbers
      obtain ⟨x, hx⟩ := Option.isSome_iff_exists.1 hv
      obtain ⟨y, hy⟩ := Option.isSome_iff_exists.1 ht
      rw [(rank_of_toDouble? hx).1, (rank_of_toDouble? hy).1]
    · exact hrank
  · exact .inr

/-- A graded value is comparable with an ordered one exactly if it is of its kind. -/
theorem isComparable_iff (hv : v.isGraded = true) (ht : t.orderedKind? = some kind) :
    v.isComparable t = true ↔ v.orderedKind? = some kind := by
  rw [isComparable_iff_rank, rank_of_orderedKind? ht]
  exact ⟨orderedKind?_of_rank hv, rank_of_orderedKind?⟩

theorem rank_eq_of_compare (h : v.compare t = .eq) : v.rank = t.rank := by
  have hle : v.rank ≤ t.rank := rank_le_of_compare (by rw [h]; decide)
  have hge : t.rank ≤ v.rank := rank_le_of_compare (by rw [compare_swap v t, h]; decide)
  omega

/-- A graded value is equal to an ordered one exactly if the two are comparable and compare as
equal. -/
theorem equals_eq_compare (hv : v.isGraded = true) (ht : t.orderedKind? = some kind) :
    v.equals t = (v.isComparable t && (v.compare t).isEq) := by
  rw [Bool.eq_iff_iff, Bool.and_eq_true, Ordering.isEq_iff_eq_eq]
  constructor
  · intro h
    have hcompare := compare_eq_of_equals h
    exact ⟨isComparable_iff_rank.2 (rank_eq_of_compare hcompare), hcompare⟩
  · rintro ⟨hcomparable, hcompare⟩
    have hkind := (isComparable_iff hv ht).1 hcomparable
    exact equals_of_compare_eq (isKeyed_of_orderedKind? hkind) (isKeyed_of_orderedKind? ht) hcompare

end Value

namespace Condition

variable {value? : Option Value} {v t : Value} {kind other : OrderedKind}

/-- The values that an operator compares with its operand: the items of an array, or else the value
of the field. -/
def compared : Option Value → List Value
  | none => []
  | some (.array items) => items
  | some v => [v]

/-- A range operator looks for one value among those compared. -/
theorem rangeMatches_eq_any (value? : Option Value) (t : Value) (accepts : Ordering → Bool) :
    rangeMatches value? t accepts =
      (compared value?).any fun v => v.isComparable t && accepts (v.compare t) := by
  cases value? with
  | none => rfl
  | some v =>
    cases v with
    | array items => rfl
    | _ => exact (Bool.or_false _).symm

/-- Equality with an ordered operand looks for one value among those compared. -/
theorem eqMatches_eq_any (ht : t.orderedKind? = some kind) (value? : Option Value) :
    eqMatches value? t = (compared value?).any (·.equals t) := by
  have harray : isArray t = false := by
    cases t with
    | array => cases ht
    | _ => rfl
  have hnull : t.same .null = false := by
    cases t with
    | null => cases ht
    | _ => rfl
  cases value? with
  | none => exact hnull
  | some v =>
    cases v with
    | array items => exact if_neg (Bool.eq_false_iff.1 harray)
    | _ => exact (Bool.or_false _).symm

/-- Equality with an ordered operand is the range operator that accepts equality alone. -/
theorem eqMatches_eq_rangeMatches (ht : t.orderedKind? = some kind)
    (hvalue : ∀ v ∈ compared value?, v.isGraded = true) :
    eqMatches value? t = rangeMatches value? t (·.isEq) := by
  rw [eqMatches_eq_any ht, rangeMatches_eq_any, Bool.eq_iff_iff, List.any_eq_true,
    List.any_eq_true]
  refine exists_congr fun v => and_congr_right fun hv => ?_
  rw [Value.equals_eq_compare (hvalue v hv) ht]

/-- A range operator that accepts what either of two others accepts holds if one of them does. -/
theorem rangeMatches_of_accepts {p q r : Ordering → Bool} (hr : ∀ o, r o = (p o || q o))
    (value? : Option Value) (t : Value) :
    rangeMatches value? t r = (rangeMatches value? t p || rangeMatches value? t q) := by
  rw [rangeMatches_eq_any, rangeMatches_eq_any, rangeMatches_eq_any, Bool.eq_iff_iff,
    Bool.or_eq_true, List.any_eq_true, List.any_eq_true, List.any_eq_true, ← exists_or]
  refine exists_congr fun v => ?_
  rw [hr, Bool.and_or_distrib_left, Bool.or_eq_true, and_or_left]

/-- An ordered value is compared with an ordered operand of its own kind and with no other. -/
theorem rangeMatches_of_orderedKind? (hv : v.orderedKind? = some other)
    (ht : t.orderedKind? = some kind) (accepts : Ordering → Bool) :
    rangeMatches (some v) t accepts = (decide (other = kind) && accepts (v.compare t)) := by
  have hgraded : v.isGraded = true := by
    cases v with
    | decimal128 | symbol => cases hv
    | _ => rfl
  have hcomparable : v.isComparable t = decide (other = kind) := by
    rw [Bool.eq_iff_iff, decide_eq_true_iff, Value.isComparable_iff hgraded ht, hv,
      Option.some_inj]
  rw [← hcomparable]
  cases v with
  | array => cases hv
  | _ => rfl

/-- A document of one comparison operator has the verdict of this operator. -/
theorem fieldMatches_comparison [Regex.Engine] {op : String} {holds : Bool} (hnot : op ≠ "$not")
    (helem : op ≠ "$elemMatch")
    (h : plainMatches value? [(op, t)] op t = .ok holds) (vars : Document) :
    fieldMatches value? [(op, t)] vars = .ok holds := by
  rw [fieldMatches, operatorsMatch_singleton, operatorMatches_of_plain vars _ _ hnot helem, h]

/-- With an ordered operand, and no decimal number and no symbol to compare with it, the operators
for equality and for ranges go together: at most is less or equal, at least is greater or equal, and
different is not equal. An ordered value satisfies exactly one of less, equal and greater if it is
of the kind of the operand, and none of them if it is not. -/
theorem fieldMatches_coherent [Regex.Engine] (ht : t.orderedKind? = some kind)
    (hvalue : ∀ v ∈ compared value?, v.isGraded = true) (vars : Document) :
    ∃ lt eq gt : Bool,
      fieldMatches value? [("$lt", t)] vars = .ok lt ∧
        fieldMatches value? [("$eq", t)] vars = .ok eq ∧
        fieldMatches value? [("$gt", t)] vars = .ok gt ∧
        fieldMatches value? [("$lte", t)] vars = .ok (lt || eq) ∧
        fieldMatches value? [("$gte", t)] vars = .ok (gt || eq) ∧
        fieldMatches value? [("$ne", t)] vars = .ok (!eq) ∧
        ∀ v other, value? = some v → v.orderedKind? = some other →
          [lt, eq, gt].count true = if other = kind then 1 else 0 := by
  -- As a range operator, equality ranges over the same values as the others do.
  have heq : eqMatches value? t = rangeMatches value? t (·.isEq) :=
    eqMatches_eq_rangeMatches ht hvalue
  have hle : rangeMatches value? t (·.isLE) =
      (rangeMatches value? t (·.isLT) || eqMatches value? t) := by
    rw [heq]
    exact rangeMatches_of_accepts (by rintro (_ | _ | _) <;> rfl) value? t
  have hge : rangeMatches value? t (·.isGE) =
      (rangeMatches value? t (·.isGT) || eqMatches value? t) := by
    rw [heq]
    exact rangeMatches_of_accepts (by rintro (_ | _ | _) <;> rfl) value? t
  refine ⟨rangeMatches value? t (·.isLT), eqMatches value? t, rangeMatches value? t (·.isGT),
    fieldMatches_comparison (by decide) (by decide) rfl vars,
    fieldMatches_comparison (by decide) (by decide) rfl vars,
    fieldMatches_comparison (by decide) (by decide) rfl vars,
    fieldMatches_comparison (by decide) (by decide) (congrArg _ hle) vars,
    fieldMatches_comparison (by decide) (by decide) (congrArg _ hge) vars,
    fieldMatches_comparison (by decide) (by decide) rfl vars, ?_⟩
  rintro v other rfl hv
  rw [heq, rangeMatches_of_orderedKind? hv ht, rangeMatches_of_orderedKind? hv ht,
    rangeMatches_of_orderedKind? hv ht]
  by_cases hkind : other = kind
  · simp only [hkind, decide_true, Bool.true_and, if_true]
    cases v.compare t <;> rfl
  · simp only [hkind, decide_false, Bool.false_and, if_false]
    rfl

/-- Negative zero next to the integer zero: it is less in the order of numbers, and so it is not
equal and not greater. -/
theorem fieldMatches_coherent_zero :
    let zero : Value := .int32 0
    let negativeZero : Value := .double ⟨0x8000000000000000⟩
    zero.orderedKind? = some .number ∧
      (∀ v ∈ compared (some negativeZero), v.isGraded = true) ∧
      (fieldMatches (some negativeZero) [("$lt", zero)] []).toOption = some true ∧
      fieldMatches (some negativeZero) [("$lte", zero)] [] = .ok true ∧
      fieldMatches (some negativeZero) [("$ne", zero)] [] = .ok true ∧
      fieldMatches (some negativeZero) [("$gte", zero)] [] = .ok false := by
  intro zero negativeZero
  have ht : zero.orderedKind? = some .number := rfl
  have hvalue : ∀ v ∈ compared (some negativeZero), v.isGraded = true := by decide
  have hless : (fieldMatches (some negativeZero) [("$lt", zero)] []).toOption = some true := by
    decide +kernel
  obtain ⟨lt, eq, gt, hlt, -, -, hle, hge, hne, hone⟩ := fieldMatches_coherent ht hvalue []
  obtain rfl : lt = true := by
    rw [hlt] at hless
    exact Option.some.inj hless
  obtain ⟨rfl, rfl⟩ : eq = false ∧ gt = false := by
    have hcount := hone negativeZero .number rfl rfl
    revert hcount
    cases eq <;> cases gt <;> decide
  exact ⟨ht, hvalue, hless, hle, hne, hge⟩

end Condition

end DocQuery
