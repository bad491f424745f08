import DocQuery.Proofs.Condition.Verdict
import DocQuery.Proofs.Double.Integers
import DocQuery.Proofs.Value.Equality
import DocQuery.Regex.Basic

/-!
# Integer values

Integers of both widths are compared as doubles. Next to an integer below `2 ^ 53` in absolute
value, and so always next to a 32-bit one, this is the order of the integers, and a query for a
number finds that number alone. Between two greater integers the order is never turned round, but
neighbours with the same double compare as equal.

## Main definitions

* `Value.integer?`: the integer that a value holds

## Main results

* `Value.compare_integers_ne_gt`, `Value.compare_integers`: the order of two integers
* `Value.equals_integers_iff`: the equality of two integers
* `Condition.docMatches_eq_of_integer?`: a query on an integer
* `Value.integers_told_apart`: where integers are told apart
-/

namespace DocQuery

namespace Value

/-- The integer that a value of either width holds. -/
def integer? : Value → Option Int
  | .int32 n => some n.toInt
  | .int64 n => some n.toInt
  | _ => none

variable {a b : Value} {m n : Int}

theorem toDouble?_of_integer? (h : a.integer? = some m) : a.toDouble? = some (Double.ofInt m) := by
  cases a with
  | int32 | int64 =>
    obtain rfl := Option.some.inj h
    rfl
  | _ => cases h

theorem isNumber_of_integer? (h : a.integer? = some m) : a.isNumber = true := by
  rw [isNumber, toDouble?_of_integer? h]
  rfl

theorem compare_of_integer? (ha : a.integer? = some m) (hb : b.integer? = some n) :
    a.compare b = (Double.ofInt m).totalCompare (Double.ofInt n) :=
  compare_of_toDouble? (toDouble?_of_integer? ha) (toDouble?_of_integer? hb)

/-- Integers are never ordered the wrong way round. -/
theorem compare_integers_ne_gt (ha : a.integer? = some m) (hb : b.integer? = some n)
    (h : m ≤ n) : a.compare b ≠ .gt := by
  rw [compare_of_integer? ha hb]
  exact Double.totalCompare_ofInt_ne_gt h

/-- Two integers of which one is below `2 ^ 53` in absolute value are ordered as integers. -/
theorem compare_integers (ha : a.integer? = some m) (hb : b.integer? = some n)
    (hsmall : m.natAbs < 2 ^ 53 ∨ n.natAbs < 2 ^ 53) : a.compare b = Ord.compare m n := by
  rw [compare_of_integer? ha hb]
  exact Double.totalCompare_ofInt hsmall

theorem equals_iff_compare_eq (ha : a.integer? = some m) (hb : b.integer? = some n) :
    a.equals b = true ↔ a.compare b = .eq := by
  have hnumbers : (a.isNumber && b.isNumber) = true := by
    rw [isNumber_of_integer? ha, isNumber_of_integer? hb]
    rfl
  rw [equals_of_numbers hnumbers, beq_iff_eq]

/-- Integers are equal for a query if their doubles are. -/
theorem equals_integers_iff (ha : a.integer? = some m) (hb : b.integer? = some n) :
    a.equals b = true ↔ Double.ofInt m = Double.ofInt n := by
  rw [equals_iff_compare_eq ha hb, compare_of_integer? ha hb, Double.totalCompare_eq_iff]

theorem equals_integers (ha : a.integer? = some m) (hb : b.integer? = some n)
    (hsmall : m.natAbs < 2 ^ 53 ∨ n.natAbs < 2 ^ 53) : a.equals b = true ↔ m = n := by
  rw [equals_iff_compare_eq ha hb, compare_integers ha hb hsmall, Int.compare_eq_eq]

end Value

namespace Condition

variable {a b : Value} {m : Int}

theorem eqMatches_of_integer? (ha : a.integer? = some m) : eqMatches (some a) b = a.equals b := by
  cases a with
  | int32 | int64 => rfl
  | _ => cases ha

/-- A query for a value, on a document that holds an integer at that path. -/
theorem docMatches_eq_of_integer? [Regex.Engine] {doc : Document} {field : String} (vars : Document)
    (hfield : Expression.isOperatorKey field = false) (hvalue : Document.atPath? doc field = some a)
    (ha : a.integer? = some m) :
    docMatches doc [(field, .document [("$eq", b)])] vars = .ok (a.equals b) := by
  have hplain : operatorMatches (some a) vars [("$eq", b)] "$eq" b = .ok (eqMatches (some a) b) :=
    operatorMatches_of_plain vars _ _ (by decide) (by decide) b
  rw [docMatches_comparison doc vars hfield (by decide), hvalue, fieldMatches,
    operatorsMatch_singleton, hplain, eqMatches_of_integer? ha]

end Condition

namespace Value

/-- Integers are never ordered the wrong way round, and they are equal exactly if their doubles are;
a query for the one selects a document with the other exactly then. If one of them is below `2 ^ 53`
in absolute value, they are ordered as integers and equal only if they are one integer. -/
theorem integers_told_apart [Regex.Engine] {a b : Value} {m n : Int} (ha : a.integer? = some m)
    (hb : b.integer? = some n) :
    (m ≤ n → a.compare b ≠ .gt) ∧
      (a.equals b = true ↔ Double.ofInt m = Double.ofInt n) ∧
      (∀ (doc vars : Document) (field : String), Expression.isOperatorKey field = false →
        Document.atPath? doc field = some a →
          Condition.docMatches doc [(field, .document [("$eq", b)])] vars = .ok (a.equals b)) ∧
      (m.natAbs < 2 ^ 53 ∨ n.natAbs < 2 ^ 53 →
        a.compare b = Ord.compare m n ∧ (a.equals b = true ↔ m = n)) := by
  refine ⟨compare_integers_ne_gt ha hb, equals_integers_iff ha hb, ?_, fun hsmall => ?_⟩
  · intro doc vars field hfield hvalue
    exact Condition.docMatches_eq_of_integer? vars hfield hvalue ha
  · exact ⟨compare_integers ha hb hsmall, equals_integers ha hb hsmall⟩

/-- A 32-bit integer next to the greatest 64-bit one. -/
theorem integers_told_apart_int32 :
    (Value.int32 7).compare (.int64 9223372036854775807) = .lt ∧
      Condition.docMatches [("n", .int32 7)]
        [("n", .document [("$eq", .int64 9223372036854775807)])] [] = .ok false := by
  obtain ⟨-, -, hquery, hsmall⟩ := integers_told_apart (a := .int32 7)
    (b := .int64 9223372036854775807) (m := 7) (n := 9223372036854775807) (by decide) (by decide)
  obtain ⟨hcompare, hequals⟩ := hsmall (.inl (by decide))
  have hne : (Value.int32 7).equals (.int64 9223372036854775807) = false :=
    Bool.eq_false_iff.2 fun heq => absurd (hequals.1 heq) (by decide)
  have hselected := hquery [("n", .int32 7)] [] "n" (by decide) rfl
  rw [hne] at hselected
  exact ⟨hcompare, hselected⟩

/-- Neighbours above `2 ^ 53` compare as equal. -/
theorem not_forall_integers_told_apart :
    ¬ ∀ (a b : Value) (m n : Int), a.integer? = some m → b.integer? = some n →
      a.compare b = Ord.compare m n ∧ (a.equals b = true ↔ m = n) := by
  intro hexact
  have heq : (Value.int64 9007199254740992).equals (.int64 9007199254740993) = true := by
    decide +kernel
  have hclaim := hexact (.int64 9007199254740992) (.int64 9007199254740993) 9007199254740992
    9007199254740993 (by decide) (by decide)
  exact absurd (hclaim.2.1 heq) (by decide)

end Value

end DocQuery
