import DocQuery.Proofs.Value.Order

/-!
# Equality and order

Values that are equal for a query compare as equal. The other way round this holds for the kinds
whose values the order tells apart by content, or that have one value only.

## Main definitions

* `Value.isKeyed`: a value is of one of these kinds

## Main results

* `Value.compare_eq_of_equals`: equal values compare as equal
* `Value.equals_of_compare_eq`: keyed values that compare as equal are equal
-/

namespace DocQuery.Value

/-- Whether a value is of a kind that the order tells apart from every other such kind and by
content. -/
def isKeyed : Value → Bool
  | .minKey | .null | .boolean _ | .int32 _ | .int64 _ | .double _ | .string _ | .objectId _
  | .dateTime _ | .maxKey => true
  | _ => false

variable {a b : Value}

theorem equals_of_numbers (h : (a.isNumber && b.isNumber) = true) :
    a.equals b = (a.compare b == .eq) := by
  rw [equals, if_pos h]

theorem equals_of_not_numbers (h : (a.isNumber && b.isNumber) = false) :
    a.equals b = a.same b := by
  rw [equals, if_neg (Bool.eq_false_iff.1 h)]

theorem toDouble?_eq_none_of_not_numbers (h : (a.isNumber && b.isNumber) = false) :
    a.toDouble? = none ∨ b.toDouble? = none := by
  rw [isNumber, isNumber, Bool.and_eq_false_iff] at h
  rwa [Option.isSome_eq_false_iff, Option.isSome_eq_false_iff, Option.isNone_iff_eq_none,
    Option.isNone_iff_eq_none] at h

/-- Values of one kind with the same content compare as equal. -/
theorem kindCompare_of_same (h : a.same b = true) : kindCompare a b = .eq := by
  unfold same at h
  split at h
  case h_4 x y | h_9 x y | h_14 x y | h_15 x y =>
    obtain rfl := beq_iff_eq.1 h
    exact Std.ReflOrd.compare_self
  case h_22 => cases h
  all_goals rfl

/-- Values that are equal for a query compare as equal. -/
theorem compare_eq_of_equals (h : a.equals b = true) : a.compare b = .eq := by
  cases hnumbers : a.isNumber && b.isNumber with
  | true =>
    rw [equals_of_numbers hnumbers] at h
    exact beq_iff_eq.1 h
  | false =>
    rw [equals_of_not_numbers hnumbers] at h
    rw [compare_of_toDouble?_eq_none (toDouble?_eq_none_of_not_numbers hnumbers)]
    exact kindCompare_of_same h

/-- Keyed values that are not both numbers and compare as equal are of one kind and have the same
content. -/
theorem same_of_kindCompare (ha : a.isKeyed = true) (hb : b.isKeyed = true)
    (hnumbers : (a.isNumber && b.isNumber) = false) (h : kindCompare a b = .eq) :
    a.same b = true := by
  cases a with
  | minKey | null | maxKey =>
    cases b with
    | minKey | null | maxKey => first | rfl | cases h
    | boolean | int32 | int64 | double | string | objectId | dateTime => cases h
    | _ => cases hb
  | int32 | int64 | double =>
    cases b with
    | int32 | int64 | double => cases hnumbers
    | minKey | null | boolean | string | objectId | dateTime | maxKey => cases h
    | _ => cases hb
  | boolean x =>
    cases b with
    | boolean y => exact beq_iff_eq.2 (Std.LawfulEqOrd.eq_of_compare h)
    | minKey | null | int32 | int64 | double | string | objectId | dateTime | maxKey => cases h
    | _ => cases hb
  | string x =>
    cases b with
    | string y => exact beq_iff_eq.2 (Std.LawfulEqOrd.eq_of_compare h)
    | minKey | null | boolean | int32 | int64 | double | objectId | dateTime | maxKey => cases h
    | _ => cases hb
  | objectId x =>
    cases b with
    | objectId y =>
      have hbits : x.bits = y.bits := BitVec.eq_of_toNat_eq (Nat.compare_eq_eq.1 h)
      exact beq_iff_eq.2 (congrArg ObjectId.mk hbits)
    | minKey | null | boolean | int32 | int64 | double | string | dateTime | maxKey => cases h
    | _ => cases hb
  | dateTime x =>
    cases b with
    | dateTime y => exact beq_iff_eq.2 (Int64.toInt_inj.1 (Int.compare_eq_eq.1 h))
    | minKey | null | boolean | int32 | int64 | double | string | objectId | maxKey => cases h
    | _ => cases hb
  | _ => cases ha

/-- Keyed values that compare as equal are equal for a query. -/
theorem equals_of_compare_eq (ha : a.isKeyed = true) (hb : b.isKeyed = true)
    (h : a.compare b = .eq) : a.equals b = true := by
  cases hnumbers : a.isNumber && b.isNumber with
  | true =>
    rw [equals_of_numbers hnumbers, h]
    rfl
  | false =>
    rw [compare_of_toDouble?_eq_none (toDouble?_eq_none_of_not_numbers hnumbers)] at h
    rw [equals_of_not_numbers hnumbers]
    exact same_of_kindCompare ha hb hnumbers h

end DocQuery.Value
