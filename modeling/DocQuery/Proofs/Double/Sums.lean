import DocQuery.Proofs.Double.Integers

/-!
# Sums that do not move

A sum of doubles is rounded, so a summand that is not zero may leave no trace. Next to a zero it
always does: nothing is rounded to zero. So a sum that equals its first summand is that summand to
the last bit, except that adding a zero to the negative zero can give the positive one.

## Main results

* `Double.isZero_ofRatio`: a sum of units is rounded to zero only if it is zero
* `Double.eq_zero_of_isZero`: the two words for zero
* `Double.add_of_numEq`: a sum that equals its first summand
-/

namespace DocQuery.Double

variable {x y : Double}

/-! ## Zeros -/

theorem magnitudeBits_lt (x : Double) : x.magnitudeBits < 2 ^ 63 :=
  Nat.mod_lt _ (Nat.two_pow_pos 63)

theorem eq_of_word_eq (h : x.word = y.word) : x = y := by
  have hbits : x.bits = y.bits := UInt64.toNat_inj.1 h
  exact congrArg Double.mk hbits

theorem isNaN_of_isZero (h : x.isZero = true) : x.isNaN = false := by
  have hbits : x.magnitudeBits = 0 := of_decide_eq_true h
  exact decide_eq_false (by omega)

theorem isInfinite_of_isZero (h : x.isZero = true) : x.isInfinite = false := by
  have hbits : x.magnitudeBits = 0 := of_decide_eq_true h
  exact decide_eq_false (by omega)

/-- There are two words for zero, one of each sign. -/
theorem eq_zero_of_isZero (h : x.isZero = true) :
    x = if x.negative then negZero else zero := by
  have hbits : x.word % 2 ^ 63 = 0 := of_decide_eq_true h
  have hword : x.word < 2 ^ 64 := x.bits.toNat_lt
  refine eq_of_word_eq ?_
  by_cases hsign : 2 ^ 63 ≤ x.word
  · have hnegative : x.negative = true := decide_eq_true hsign
    have hzero : negZero.word = 2 ^ 63 := word_ofParts (Nat.two_pow_pos 63) true
    rw [hnegative, if_pos rfl, hzero]
    omega
  · have hnegative : x.negative = false := decide_eq_false hsign
    have hzero : zero.word = 0 := rfl
    rw [hnegative, if_neg Bool.false_ne_true, hzero]
    omega

theorem scaled_of_isZero (h : x.isZero = true) : x.scaled = 0 := by
  rw [eq_zero_of_isZero h]
  cases x.negative <;> decide +kernel

/-- A finite double of no units is a zero. -/
theorem isZero_of_scaled (h : x.scaled = 0) : x.isZero = true := by
  have hmagnitude : x.magnitude = 0 := by
    unfold scaled at h
    split at h <;> omega
  have hsignificand : x.significand = 0 :=
    (Nat.mul_eq_zero.1 hmagnitude).resolve_right (Nat.ne_of_gt (Nat.two_pow_pos _))
  unfold significand at hsignificand
  split at hsignificand
  · next hexponent =>
    -- Neither the exponent nor the fraction has a bit.
    refine decide_eq_true ?_
    unfold exponentField magnitudeBits at hexponent
    unfold fraction at hsignificand
    unfold magnitudeBits
    omega
  · omega

/-! ## Rounding -/

/-- A whole number of units is rounded to zero only if there are none. -/
theorem isZero_ofRatio {units : Nat} (h : units ≠ 0) (sign : Bool) :
    (ofRatio sign units unitsPerOne).isZero = false := by
  have hquotient : units * unitsPerOne / unitsPerOne = units :=
    Nat.mul_div_cancel units unitsPerOne_pos
  have hbits : magnitudeOfRatio units unitsPerOne ≠ 0 := by
    unfold magnitudeOfRatio
    dsimp only
    rw [hquotient]
    by_cases hshift : units.log2 - 52 = 0
    · -- Few units are not rounded at all.
      have hsignificand : roundQuotient (units * unitsPerOne) (unitsPerOne * 2 ^ 0) = units := by
        rw [Nat.pow_zero, Nat.mul_one]
        exact roundQuotient_mul unitsPerOne_pos units
      rw [hshift, hsignificand]
      omega
    · omega
  rw [isZero, ofRatio, magnitudeBits_ofParts (magnitudeOfRatio_lt_two_pow _ _)]
  exact decide_eq_false hbits

theorem isZero_quiet (x : Double) : x.quiet.isZero = false := by
  have hpayload : x.magnitudeBits ||| 2 ^ 51 < 2 ^ 63 :=
    Nat.or_lt_two_pow x.magnitudeBits_lt (by decide)
  have hquiet : 2 ^ 51 ≤ x.magnitudeBits ||| 2 ^ 51 := Nat.right_le_or
  rw [isZero, quiet, magnitudeBits_ofParts hpayload]
  exact decide_eq_false (by omega)

/-! ## Sums -/

/-- A sum that starts with a zero and gives one adds a zero, and it is negative only if both are. -/
theorem add_of_isZero (hx : x.isZero = true) (h : (x.add y).isZero = true) :
    y.isZero = true ∧ x.add y = if x.negative && y.negative then negZero else zero := by
  unfold add at h ⊢
  rw [isNaN_of_isZero hx, isInfinite_of_isZero hx, scaled_of_isZero hx, Int.zero_add] at h ⊢
  simp only [Bool.false_eq_true, if_false] at h ⊢
  by_cases hnan : y.isNaN = true
  · rw [if_pos hnan, isZero_quiet] at h
    cases h
  rw [if_neg hnan] at h ⊢
  by_cases hinfinite : y.isInfinite = true
  · rw [if_pos hinfinite] at h
    rw [isInfinite_of_isZero h] at hinfinite
    cases hinfinite
  rw [if_neg hinfinite] at h ⊢
  by_cases hunits : y.scaled = 0
  · rw [if_pos hunits]
    exact ⟨isZero_of_scaled hunits, rfl⟩
  · have hne : y.scaled.natAbs ≠ 0 := by omega
    rw [if_neg hunits, isZero_ofRatio hne] at h
    cases h

/-- A sum that equals its first summand is that summand, unless that is the negative zero and a zero
is added. -/
theorem add_of_numEq (h : (x.add y).numEq x = true) :
    x.add y = x ∨ x = negZero ∧ y.isZero = true := by
  simp only [numEq, Bool.and_eq_true, Bool.or_eq_true, beq_iff_eq] at h
  obtain ⟨-, hbits | ⟨hsum, hx⟩⟩ := h
  · exact .inl (congrArg Double.mk hbits)
  · obtain ⟨hy, heq⟩ := add_of_isZero hx hsum
    have hzero := eq_zero_of_isZero hx
    cases hsign : x.negative with
    | true =>
      rw [hsign] at hzero
      exact .inr ⟨hzero, hy⟩
    | false =>
      rw [hsign] at hzero heq
      exact .inl (heq.trans hzero.symm)

end DocQuery.Double
