import DocQuery.Value.Order

/-!
# The order of values

Comparing values is reflexive, and comparing them the other way round gives the reverse. It is
transitive through every value but decimal numbers and symbols: these have the rank of numbers and
of strings, which are told apart by content, but are themselves compared with them by rank alone.

## Main definitions

* `Value.isGraded`: a value is neither a decimal number nor a symbol
* `Value.gradedCompare`: the order by rank, and by content within a rank

## Main results

* `Value.compare_of_graded`, `Value.compare_of_not_graded`: the order, in these terms
* `Value.compare_self`, `Value.compare_swap`, `Value.compare_trans`: the laws of the order
* `Value.compare_preorder`: where they hold
-/

namespace DocQuery.Value

/-- Whether a value is neither a decimal number nor a symbol. -/
def isGraded : Value → Bool
  | .decimal128 _ | .symbol _ => false
  | _ => true

/-- What the order sees of a value within its rank, the text of strings aside. -/
def measure : Value → Int
  | .boolean b => if b then 1 else 0
  | .dateTime millis => millis.toInt
  | .objectId id => id.bits.toNat
  | v => (v.toDouble?.map Double.orderKey).getD 0

/-- What the order sees of a string. -/
def textOf : Value → String
  | .string s => s
  | _ => ""

/-- The order by rank, and by content within a rank. -/
def gradedCompare : Value → Value → Ordering :=
  compareLex (compareOn rank) (compareLex (compareOn measure) (compareOn textOf))

instance : Std.TransCmp gradedCompare :=
  inferInstanceAs (Std.TransCmp (compareLex (compareOn rank) _))

theorem gradedCompare_eq (a b : Value) :
    gradedCompare a b = (Ord.compare a.rank b.rank).then
      ((Ord.compare a.measure b.measure).then (Ord.compare a.textOf b.textOf)) := rfl

/-! ## The order by cases -/

theorem rank_of_toDouble? {v : Value} {x : Double} (h : v.toDouble? = some x) :
    v.rank = 2 ∧ v.textOf = "" ∧ v.isGraded = true := by
  cases v with
  | int32 | int64 | double => exact ⟨rfl, rfl, rfl⟩
  | _ => cases h

theorem measure_of_toDouble? {v : Value} {x : Double} (h : v.toDouble? = some x) :
    v.measure = x.orderKey := by
  have hmeasure : v.measure = (v.toDouble?.map Double.orderKey).getD 0 := by
    cases v with
    | int32 | int64 | double => rfl
    | _ => cases h
  rw [hmeasure, h]
  rfl

/-- Two numbers are compared by what their doubles are compared by. -/
theorem compare_of_toDouble? {a b : Value} {x y : Double} (ha : a.toDouble? = some x)
    (hb : b.toDouble? = some y) : a.compare b = x.totalCompare y := by
  unfold compare
  rw [ha, hb]

theorem gradedCompare_of_toDouble? {a b : Value} {x y : Double} (ha : a.toDouble? = some x)
    (hb : b.toDouble? = some y) : gradedCompare a b = x.totalCompare y := by
  obtain ⟨harank, hatext, -⟩ := rank_of_toDouble? ha
  obtain ⟨hbrank, hbtext, -⟩ := rank_of_toDouble? hb
  rw [gradedCompare_eq, harank, hbrank, hatext, hbtext, measure_of_toDouble? ha,
    measure_of_toDouble? hb, Std.ReflOrd.compare_self, Std.ReflOrd.compare_self,
    Ordering.eq_then, Ordering.then_eq]
  rfl

/-- The order of two values that are not both numbers. -/
def kindCompare (a b : Value) : Ordering :=
  match a, b with
  | .string x, .string y => Ord.compare x y
  | .boolean x, .boolean y => Ord.compare x y
  | .dateTime x, .dateTime y => Ord.compare x.toInt y.toInt
  | .objectId x, .objectId y => Ord.compare x.bits.toNat y.bits.toNat
  | _, _ => Ord.compare a.rank b.rank

theorem compare_of_toDouble?_eq_none {a b : Value} (h : a.toDouble? = none ∨ b.toDouble? = none) :
    a.compare b = kindCompare a b := by
  unfold compare
  split
  · next hx hy =>
    rw [hx, hy] at h
    simp at h
  · rfl

theorem compare_natCast (m n : Nat) : Ord.compare (m : Int) (n : Int) = Ord.compare m n := by
  rcases Nat.lt_trichotomy m n with hlt | rfl | hgt
  · rw [Nat.compare_eq_lt.2 hlt, Int.compare_eq_lt.2 (by omega)]
  · rw [Std.ReflOrd.compare_self, Std.ReflOrd.compare_self]
  · rw [Nat.compare_eq_gt.2 hgt, Int.compare_eq_gt.2 (by omega)]

theorem kindCompare_of_graded {a b : Value} (ha : a.isGraded = true) (hb : b.isGraded = true)
    (h : a.toDouble? = none ∨ b.toDouble? = none) : kindCompare a b = gradedCompare a b := by
  -- Two kinds of different rank, and two of one rank without content, are decided by computation.
  cases a with
  | decimal128 | symbol => cases ha
  | int32 | int64 | double =>
    cases b with
    | decimal128 | symbol => cases hb
    | int32 | int64 | double => simp [toDouble?] at h
    | _ => rfl
  | boolean x =>
    cases b with
    | decimal128 | symbol => cases hb
    | boolean y => cases x <;> cases y <;> rfl
    | _ => rfl
  | dateTime x =>
    cases b with
    | decimal128 | symbol => cases hb
    | dateTime y => exact Ordering.then_eq.symm
    | _ => rfl
  | objectId x =>
    cases b with
    | decimal128 | symbol => cases hb
    | objectId y => exact (compare_natCast _ _).symm.trans Ordering.then_eq.symm
    | _ => rfl
  | _ =>
    cases b with
    | decimal128 | symbol => cases hb
    | _ => rfl

theorem kindCompare_of_not_graded {a b : Value} (h : (a.isGraded && b.isGraded) = false) :
    kindCompare a b = Ord.compare a.rank b.rank := by
  cases a with
  | string =>
    cases b with
    | string => cases h
    | _ => rfl
  | boolean =>
    cases b with
    | boolean => cases h
    | _ => rfl
  | dateTime =>
    cases b with
    | dateTime => cases h
    | _ => rfl
  | objectId =>
    cases b with
    | objectId => cases h
    | _ => rfl
  | _ => rfl

/-- Graded values are compared by rank, and by content within a rank. -/
theorem compare_of_graded {a b : Value} (ha : a.isGraded = true) (hb : b.isGraded = true) :
    a.compare b = gradedCompare a b := by
  cases hx : a.toDouble? with
  | none =>
    rw [compare_of_toDouble?_eq_none (.inl hx), kindCompare_of_graded ha hb (.inl hx)]
  | some x =>
    cases hy : b.toDouble? with
    | none => rw [compare_of_toDouble?_eq_none (.inr hy), kindCompare_of_graded ha hb (.inr hy)]
    | some y => rw [compare_of_toDouble? hx hy, gradedCompare_of_toDouble? hx hy]

/-- A decimal number or a symbol is compared with every value by rank alone. -/
theorem compare_of_not_graded {a b : Value} (h : (a.isGraded && b.isGraded) = false) :
    a.compare b = Ord.compare a.rank b.rank := by
  have hnone : a.toDouble? = none ∨ b.toDouble? = none := by
    cases hx : a.toDouble? with
    | none => exact .inl rfl
    | some x =>
      cases hy : b.toDouble? with
      | none => exact .inr rfl
      | some y =>
        rw [(rank_of_toDouble? hx).2.2, (rank_of_toDouble? hy).2.2] at h
        cases h
  rw [compare_of_toDouble?_eq_none hnone, kindCompare_of_not_graded h]

/-! ## Laws -/

theorem compare_self (a : Value) : a.compare a = .eq := by
  cases ha : a.isGraded with
  | true =>
    rw [compare_of_graded ha ha]
    exact Std.ReflCmp.compare_self
  | false =>
    rw [compare_of_not_graded (by rw [ha]; rfl)]
    exact Std.ReflOrd.compare_self

theorem compare_swap (a b : Value) : b.compare a = (a.compare b).swap := by
  cases h : a.isGraded && b.isGraded with
  | true =>
    obtain ⟨ha, hb⟩ := Bool.and_eq_true_iff.1 h
    rw [compare_of_graded ha hb, compare_of_graded hb ha]
    exact Std.OrientedCmp.eq_swap
  | false =>
    have h' : (b.isGraded && a.isGraded) = false := by
      rw [Bool.and_comm]
      exact h
    rw [compare_of_not_graded h, compare_of_not_graded h']
    exact Std.OrientedOrd.eq_swap

/-- A value that stands above another in rank stands above it. -/
theorem rank_le_of_compare {a b : Value} (h : a.compare b ≠ .gt) : a.rank ≤ b.rank := by
  have hrank : Ord.compare a.rank b.rank ≠ .gt := by
    cases hgraded : a.isGraded && b.isGraded with
    | true =>
      obtain ⟨ha, hb⟩ := Bool.and_eq_true_iff.1 hgraded
      rw [compare_of_graded ha hb, gradedCompare_eq] at h
      intro hgt
      rw [hgt] at h
      exact h rfl
    | false =>
      rw [compare_of_not_graded hgraded] at h
      exact h
  exact Nat.compare_ne_gt.1 hrank

/-- The order is transitive through a graded value. -/
theorem compare_trans {a b c : Value} (hb : b.isGraded = true) (hab : a.compare b ≠ .gt)
    (hbc : b.compare c ≠ .gt) : a.compare c ≠ .gt := by
  cases h : a.isGraded && c.isGraded with
  | true =>
    obtain ⟨ha, hc⟩ := Bool.and_eq_true_iff.1 h
    rw [compare_of_graded ha hb] at hab
    rw [compare_of_graded hb hc] at hbc
    rw [compare_of_graded ha hc]
    exact Ordering.isLE_iff_ne_gt.1
      (Std.TransCmp.isLE_trans (Ordering.isLE_iff_ne_gt.2 hab) (Ordering.isLE_iff_ne_gt.2 hbc))
  | false =>
    have hrank := Nat.le_trans (rank_le_of_compare hab) (rank_le_of_compare hbc)
    rw [compare_of_not_graded h]
    exact Nat.compare_ne_gt.2 hrank

/-- Through a decimal number and through a symbol the order is not transitive: two numbers, or two
strings, stand on either side of it in both directions. -/
theorem exists_compare_gt {b : Value} (hb : b.isGraded = false) :
    ∃ a c : Value, a.compare b ≠ .gt ∧ b.compare c ≠ .gt ∧ a.compare c = .gt := by
  have hpair : ∀ a c : Value, a.rank = b.rank → b.rank = c.rank →
      a.compare b ≠ .gt ∧ b.compare c ≠ .gt := by
    intro a c ha hc
    have hab : (a.isGraded && b.isGraded) = false := by rw [hb, Bool.and_false]
    have hbc : (b.isGraded && c.isGraded) = false := by rw [hb, Bool.false_and]
    rw [compare_of_not_graded hab, compare_of_not_graded hbc, ha, hc]
    exact ⟨Nat.compare_ne_gt.2 (Nat.le_refl _), Nat.compare_ne_gt.2 (Nat.le_refl _)⟩
  cases b with
  | decimal128 x =>
    obtain ⟨hab, hbc⟩ := hpair (.int32 2) (.int32 1) rfl rfl
    exact ⟨.int32 2, .int32 1, hab, hbc, by decide +kernel⟩
  | symbol s =>
    obtain ⟨hab, hbc⟩ := hpair (.string "b") (.string "a") rfl rfl
    exact ⟨.string "b", .string "a", hab, hbc, by decide +kernel⟩
  | _ => cases hb

/-- Every value compares as equal to itself, and comparing it with another gives the reverse of
comparing the other with it. The order is transitive through it exactly if it is graded. -/
theorem compare_preorder (b : Value) :
    b.compare b = .eq ∧ (∀ a : Value, b.compare a = (a.compare b).swap) ∧
      ((∀ a c : Value, a.compare b ≠ .gt → b.compare c ≠ .gt → a.compare c ≠ .gt) ↔
        b.isGraded = true) := by
  refine ⟨compare_self b, fun a => compare_swap a b, fun htrans => ?_, fun hb a c => ?_⟩
  · rw [← Bool.not_eq_false]
    intro hb
    obtain ⟨a, c, hab, hbc, hac⟩ := exists_compare_gt hb
    exact htrans a c hab hbc hac
  · exact compare_trans hb

/-- A symbol stands on both sides of two strings, so that values have no total order. -/
theorem not_forall_compare_trans :
    ¬ ((∀ a : Value, a.compare a = .eq) ∧ (∀ a b : Value, b.compare a = (a.compare b).swap) ∧
      ∀ a b c : Value, a.compare b ≠ .gt → b.compare c ≠ .gt → a.compare c ≠ .gt) := by
  rintro ⟨-, -, htrans⟩
  have hgt : (Value.string "b").compare (.string "a") = .gt := by decide +kernel
  exact htrans (.string "b") (.symbol "m") (.string "a") (by decide) (by decide) hgt

end DocQuery.Value
