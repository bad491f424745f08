import DocQuery.Double.Basic
import Mathlib.Data.Nat.Basic

/-!
# Integers as doubles

The double nearest to an integer keeps the order of integers, but it keeps two integers apart for
certain only if one of them is below `2 ^ 53` in absolute value. Such an integer is held without
rounding and read back as it was.

## Main definitions

* `Double.integerSignificand`: the significand of a positive integer, rounded to fifty-three bits

## Main results

* `Double.magnitudeOfRatio_integer`: the bits of an integer, by its place and its significand
* `Double.totalCompare_eq_iff`: the total order tells all words apart
* `Double.totalCompare_ofInt_ne_gt`: rounding keeps the order of integers
* `Double.totalCompare_ofInt`: next to an integer below `2 ^ 53` the order is that of the integers
* `Double.toCount_ofInt`: a natural number below `2 ^ 53` is read back from its double
-/

namespace DocQuery.Double

/-! ## Rounded quotients -/

theorem div_le_roundQuotient (num den : Nat) : num / den ≤ roundQuotient num den := by
  unfold roundQuotient
  dsimp only
  split <;> omega

theorem roundQuotient_le (num den : Nat) : roundQuotient num den ≤ num / den + 1 := by
  unfold roundQuotient
  dsimp only
  split <;> omega

/-- A whole quotient is not rounded. -/
theorem roundQuotient_mul {den : Nat} (hden : 0 < den) (n : Nat) :
    roundQuotient (n * den) den = n := by
  have hrest : n * den % den = 0 := Nat.mul_mod_left n den
  have hquotient : n * den / den = n := Nat.mul_div_cancel n hden
  unfold roundQuotient
  dsimp only
  rw [hrest, hquotient, if_neg (by omega)]

/-- Rounding keeps the order of quotients. -/
theorem roundQuotient_mono {m n : Nat} (h : m ≤ n) (den : Nat) :
    roundQuotient m den ≤ roundQuotient n den := by
  have hquotient : m / den ≤ n / den := Nat.div_le_div_right h
  by_cases hlt : m / den < n / den
  · have hm := roundQuotient_le m den
    have hn := div_le_roundQuotient n den
    omega
  · have heq : m / den = n / den := by omega
    have hrest : m % den ≤ n % den := by
      have hm := Nat.div_add_mod m den
      have hn := Nat.div_add_mod n den
      rw [heq] at hm
      omega
    unfold roundQuotient
    dsimp only
    rw [heq]
    split <;> split <;> omega

/-- A common factor does not change a rounded quotient. -/
theorem roundQuotient_mul_right {c : Nat} (hc : 0 < c) (num den : Nat) :
    roundQuotient (num * c) (den * c) = roundQuotient num den := by
  have hquotient : num * c / (den * c) = num / den := Nat.mul_div_mul_right num den hc
  have hrest : num * c % (den * c) = num % den * c := Nat.mul_mod_mul_right c num den
  have hlt : den * c < 2 * (num % den * c) ↔ den < 2 * (num % den) := by
    rw [← Nat.mul_assoc]
    exact Nat.mul_lt_mul_right hc
  have heq : den * c = 2 * (num % den * c) ↔ den = 2 * (num % den) := by
    rw [← Nat.mul_assoc]
    exact Nat.mul_left_inj (Nat.ne_of_gt hc)
  unfold roundQuotient
  dsimp only
  rw [hquotient, hrest]
  simp only [hlt, heq]

/-! ## The bits of an integer -/

/-- The significand of a positive integer, rounded to fifty-three bits. -/
def integerSignificand (n : Nat) : Nat := roundQuotient (n * 2 ^ 52) (2 ^ n.log2)

theorem log2_mul_two_pow {n : Nat} (hn : n ≠ 0) (e : Nat) : (n * 2 ^ e).log2 = n.log2 + e := by
  have hpos : 0 < 2 ^ e := Nat.two_pow_pos e
  have hlow : 2 ^ n.log2 ≤ n := Nat.log2_self_le hn
  have hhigh : n < 2 ^ (n.log2 + 1) := Nat.lt_log2_self
  refine (Nat.log2_eq_iff (Nat.mul_ne_zero hn (Nat.ne_of_gt hpos))).2 ⟨?_, ?_⟩
  · rw [Nat.pow_add]
    exact Nat.mul_le_mul_right _ hlow
  · rw [Nat.add_right_comm, Nat.pow_add]
    exact Nat.mul_lt_mul_of_pos_right hhigh hpos

theorem integerSignificand_bounds {n : Nat} (hn : n ≠ 0) :
    2 ^ 52 ≤ integerSignificand n ∧ integerSignificand n ≤ 2 ^ 53 := by
  have hpos : 0 < 2 ^ n.log2 := Nat.two_pow_pos _
  have hlow : 2 ^ n.log2 ≤ n := Nat.log2_self_le hn
  have hhigh : n < 2 ^ (n.log2 + 1) := Nat.lt_log2_self
  have hle : 2 ^ 52 ≤ n * 2 ^ 52 / 2 ^ n.log2 := by
    rw [Nat.le_div_iff_mul_le hpos, Nat.mul_comm]
    exact Nat.mul_le_mul_right _ hlow
  have hlt : n * 2 ^ 52 / 2 ^ n.log2 < 2 ^ 53 := by
    rw [Nat.div_lt_iff_lt_mul hpos]
    rw [Nat.pow_succ] at hhigh
    omega
  have hdown := div_le_roundQuotient (n * 2 ^ 52) (2 ^ n.log2)
  have hup := roundQuotient_le (n * 2 ^ 52) (2 ^ n.log2)
  unfold integerSignificand
  omega

/-- An integer of fifty-three bits is its significand, up to its place. -/
theorem integerSignificand_of_lt {n : Nat} (hn : n ≠ 0) (hlt : n < 2 ^ 53) :
    integerSignificand n = n * 2 ^ (52 - n.log2) := by
  have hplaces : n.log2 < 53 := (Nat.log2_lt hn).2 hlt
  have hsplit : 2 ^ 52 = 2 ^ (52 - n.log2) * 2 ^ n.log2 := by
    rw [← Nat.pow_add]
    congr 1
    omega
  unfold integerSignificand
  rw [hsplit, ← Nat.mul_assoc]
  exact roundQuotient_mul (Nat.two_pow_pos _) _

theorem integerSignificand_lt {n : Nat} (hn : n ≠ 0) (hlt : n < 2 ^ 53) :
    integerSignificand n < 2 ^ 53 := by
  have hplaces : n.log2 < 53 := (Nat.log2_lt hn).2 hlt
  have hexponent : n.log2 + 1 + (52 - n.log2) = 53 := by omega
  rw [integerSignificand_of_lt hn hlt]
  calc n * 2 ^ (52 - n.log2) < 2 ^ (n.log2 + 1) * 2 ^ (52 - n.log2) :=
        Nat.mul_lt_mul_of_pos_right Nat.lt_log2_self (Nat.two_pow_pos _)
    _ = 2 ^ 53 := by rw [← Nat.pow_add, hexponent]

theorem unitsPerOne_pos : 0 < unitsPerOne := by
  rw [unitsPerOne]
  exact Nat.two_pow_pos 1074

theorem two_pow_mul_two_pow {a b : Nat} (h : a + b = 1074) : 2 ^ a * 2 ^ b = unitsPerOne := by
  rw [← Nat.pow_add, h, unitsPerOne]

/-- The bits of a positive integer: its place counts the exponent, and its significand is added. -/
theorem magnitudeOfRatio_integer {n : Nat} (hn : n ≠ 0) :
    magnitudeOfRatio n 1 =
      min ((n.log2 + 1022) * 2 ^ 52 + integerSignificand n) (2047 * 2 ^ 52) := by
  have hunits : n * unitsPerOne = n * 2 ^ 52 * 2 ^ 1022 := by
    rw [Nat.mul_assoc, two_pow_mul_two_pow (a := 52) (b := 1022) rfl]
  have hlog : (n * unitsPerOne).log2 = n.log2 + 1074 := by
    rw [unitsPerOne]
    exact log2_mul_two_pow hn 1074
  have hshift : n.log2 + 1074 - 52 = n.log2 + 1022 := by omega
  unfold magnitudeOfRatio integerSignificand
  dsimp only
  rw [Nat.div_one, hlog, hshift, Nat.one_mul, hunits, Nat.pow_add 2 n.log2 1022,
    roundQuotient_mul_right (Nat.two_pow_pos 1022)]

theorem magnitudeOfRatio_zero : magnitudeOfRatio 0 1 = 0 := by decide +kernel

/-- The bits of integers keep their order. -/
theorem magnitudeOfRatio_mono {m n : Nat} (h : m ≤ n) :
    magnitudeOfRatio m 1 ≤ magnitudeOfRatio n 1 := by
  by_cases hm : m = 0
  · rw [hm, magnitudeOfRatio_zero]
    exact Nat.zero_le _
  · have hn : n ≠ 0 := by omega
    have hlog : m.log2 ≤ n.log2 := (Nat.le_log2 hn).2 (Nat.le_trans (Nat.log2_self_le hm) h)
    rw [magnitudeOfRatio_integer hm, magnitudeOfRatio_integer hn]
    by_cases hplace : m.log2 = n.log2
    · have hsignificand : integerSignificand m ≤ integerSignificand n := by
        unfold integerSignificand
        rw [hplace]
        exact roundQuotient_mono (Nat.mul_le_mul_right _ h) _
      rw [hplace]
      omega
    · -- The least significand of a higher place outweighs the greatest of a lower one.
      have hmax := (integerSignificand_bounds hm).2
      have hmin := (integerSignificand_bounds hn).1
      omega

/-- The bits of an integer below `2 ^ 53` tell it from every greater integer. -/
theorem magnitudeOfRatio_lt {m n : Nat} (hm : m < 2 ^ 53) (h : m < n) :
    magnitudeOfRatio m 1 < magnitudeOfRatio n 1 := by
  have hn : n ≠ 0 := by omega
  rw [magnitudeOfRatio_integer hn]
  have hmin := (integerSignificand_bounds hn).1
  by_cases hzero : m = 0
  · rw [hzero, magnitudeOfRatio_zero]
    omega
  · have hplaces : m.log2 < 53 := (Nat.log2_lt hzero).2 hm
    have hlog : m.log2 ≤ n.log2 :=
      (Nat.le_log2 hn).2 (Nat.le_trans (Nat.log2_self_le hzero) (Nat.le_of_lt h))
    have hbelow := integerSignificand_lt hzero hm
    rw [magnitudeOfRatio_integer hzero]
    by_cases hplace : m.log2 = n.log2
    · -- In one place neither is rounded, and the significands are ordered as the integers are.
      have hnlt : n < 2 ^ 53 := (Nat.log2_lt hn).1 (by omega)
      have hsignificand : integerSignificand m < integerSignificand n := by
        rw [integerSignificand_of_lt hzero hm, integerSignificand_of_lt hn hnlt, ← hplace]
        exact Nat.mul_lt_mul_of_pos_right h (Nat.two_pow_pos _)
      have hmax := (integerSignificand_bounds hn).2
      omega
    · omega

/-- An integer below `2 ^ 53` is far from the infinities. -/
theorem magnitudeOfRatio_of_lt {n : Nat} (hn : n ≠ 0) (hlt : n < 2 ^ 53) :
    magnitudeOfRatio n 1 = (n.log2 + 1022) * 2 ^ 52 + integerSignificand n := by
  have hplaces : n.log2 < 53 := (Nat.log2_lt hn).2 hlt
  have hbelow := integerSignificand_lt hn hlt
  rw [magnitudeOfRatio_integer hn]
  omega

/-! ## The words of integers -/

theorem magnitudeOfRatio_le (num den : Nat) : magnitudeOfRatio num den ≤ 2047 * 2 ^ 52 :=
  Nat.min_le_right _ _

theorem magnitudeOfRatio_lt_two_pow (num den : Nat) : magnitudeOfRatio num den < 2 ^ 63 := by
  have hle := magnitudeOfRatio_le num den
  omega

theorem word_ofParts {bits : Nat} (h : bits < 2 ^ 63) (sign : Bool) :
    (ofParts sign bits).word = (if sign then 2 ^ 63 else 0) + bits := by
  have hfits : (if sign then 2 ^ 63 else 0) + bits < 2 ^ 64 := by
    split <;> omega
  exact UInt64.toNat_ofNat_of_lt' hfits

theorem magnitudeBits_ofParts {bits : Nat} (h : bits < 2 ^ 63) (sign : Bool) :
    (ofParts sign bits).magnitudeBits = bits := by
  rw [magnitudeBits, word_ofParts h]
  split <;> omega

theorem negative_ofParts {bits : Nat} (h : bits < 2 ^ 63) (sign : Bool) :
    (ofParts sign bits).negative = sign := by
  rw [negative, word_ofParts h]
  cases sign with
  | false => exact decide_eq_false (by simp only [Bool.false_eq_true, if_false]; omega)
  | true => exact decide_eq_true (by simp only [if_true]; omega)

theorem magnitudeBits_ofInt (n : Int) :
    (ofInt n).magnitudeBits = magnitudeOfRatio n.natAbs 1 :=
  magnitudeBits_ofParts (magnitudeOfRatio_lt_two_pow _ _) _

theorem negative_ofInt (n : Int) : (ofInt n).negative = decide (n < 0) :=
  negative_ofParts (magnitudeOfRatio_lt_two_pow _ _) _

theorem isNaN_ofInt (n : Int) : (ofInt n).isNaN = false := by
  have hle := magnitudeOfRatio_le n.natAbs 1
  rw [isNaN, magnitudeBits_ofInt]
  exact decide_eq_false (by omega)

theorem isAtLeastZero_ofInt (n : Nat) : (ofInt n).isAtLeastZero = true := by
  have hsign : decide ((n : Int) < 0) = false := decide_eq_false (by omega)
  rw [isAtLeastZero, isNaN_ofInt, negative_ofInt, hsign]
  rfl

/-! ## Order -/

/-- The total order tells all words apart. -/
theorem totalCompare_eq_iff {x y : Double} : x.totalCompare y = .eq ↔ x = y := by
  constructor
  · intro h
    have hkeys : x.orderKey = y.orderKey := Int.compare_eq_eq.1 h
    have hx : x.word < 2 ^ 64 := x.bits.toNat_lt
    have hy : y.word < 2 ^ 64 := y.bits.toNat_lt
    have hwords : x.word = y.word := by
      simp only [orderKey, negative, magnitudeBits, decide_eq_true_eq] at hkeys
      split at hkeys <;> split at hkeys <;> omega
    have hbits : x.bits = y.bits := UInt64.toNat_inj.1 hwords
    exact congrArg Double.mk hbits
  · rintro rfl
    exact Int.compare_eq_eq.2 rfl

theorem orderKey_ofInt (n : Int) :
    (ofInt n).orderKey = if n < 0 then -(magnitudeOfRatio n.natAbs 1 : Int) - 1
      else magnitudeOfRatio n.natAbs 1 := by
  rw [orderKey, negative_ofInt, magnitudeBits_ofInt]
  simp only [decide_eq_true_eq]

theorem orderKey_ofInt_mono {m n : Int} (h : m ≤ n) :
    (ofInt m).orderKey ≤ (ofInt n).orderKey := by
  rw [orderKey_ofInt, orderKey_ofInt]
  by_cases hm : m < 0
  · by_cases hn : n < 0
    · -- Of two negative integers the smaller one has the greater bits.
      have hbits : magnitudeOfRatio n.natAbs 1 ≤ magnitudeOfRatio m.natAbs 1 :=
        magnitudeOfRatio_mono (by omega)
      rw [if_pos hm, if_pos hn]
      omega
    · rw [if_pos hm, if_neg hn]
      omega
  · have hbits : magnitudeOfRatio m.natAbs 1 ≤ magnitudeOfRatio n.natAbs 1 :=
      magnitudeOfRatio_mono (by omega)
    rw [if_neg hm, if_neg (by omega)]
    omega

theorem orderKey_ofInt_lt {m n : Int} (h : m < n)
    (hsmall : m.natAbs < 2 ^ 53 ∨ n.natAbs < 2 ^ 53) :
    (ofInt m).orderKey < (ofInt n).orderKey := by
  rw [orderKey_ofInt, orderKey_ofInt]
  by_cases hm : m < 0
  · by_cases hn : n < 0
    · have hbits : magnitudeOfRatio n.natAbs 1 < magnitudeOfRatio m.natAbs 1 :=
        magnitudeOfRatio_lt (by omega) (by omega)
      rw [if_pos hm, if_pos hn]
      omega
    · rw [if_pos hm, if_neg hn]
      omega
  · have hbits : magnitudeOfRatio m.natAbs 1 < magnitudeOfRatio n.natAbs 1 :=
      magnitudeOfRatio_lt (by omega) (by omega)
    rw [if_neg hm, if_neg (by omega)]
    omega

/-- Rounding never turns two integers round. -/
theorem totalCompare_ofInt_ne_gt {m n : Int} (h : m ≤ n) :
    (ofInt m).totalCompare (ofInt n) ≠ .gt := by
  unfold totalCompare
  exact Int.compare_ne_gt.2 (orderKey_ofInt_mono h)

/-- Two integers of which one is below `2 ^ 53` in absolute value are ordered as integers. -/
theorem totalCompare_ofInt {m n : Int} (hsmall : m.natAbs < 2 ^ 53 ∨ n.natAbs < 2 ^ 53) :
    (ofInt m).totalCompare (ofInt n) = compare m n := by
  unfold totalCompare
  rcases Int.lt_trichotomy m n with hlt | heq | hgt
  · have hkeys := orderKey_ofInt_lt hlt hsmall
    rw [Int.compare_eq_lt.2 hkeys, Int.compare_eq_lt.2 hlt]
  · subst heq
    rw [Int.compare_eq_eq.2 rfl, Int.compare_eq_eq.2 rfl]
  · have hkeys := orderKey_ofInt_lt hgt hsmall.symm
    rw [Int.compare_eq_gt.2 hkeys, Int.compare_eq_gt.2 hgt]

/-- The two least neighbours that rounding takes for one. -/
example : (ofInt (2 ^ 53)).totalCompare (ofInt (2 ^ 53 + 1)) = .eq := by decide +kernel

/-! ## Exact integers -/

theorem word_ofInt (n : Nat) : (ofInt n).word = magnitudeOfRatio n 1 := by
  have hword : (ofInt n).word =
      (if decide ((n : Int) < 0) then 2 ^ 63 else 0) + magnitudeOfRatio (n : Int).natAbs 1 :=
    word_ofParts (magnitudeOfRatio_lt_two_pow _ _) _
  rw [hword, decide_eq_false (by omega), Int.natAbs_natCast]
  exact Nat.zero_add _

/-- A natural number below `2 ^ 53` is held without rounding. -/
theorem magnitude_ofInt {n : Nat} (hlt : n < 2 ^ 53) :
    (ofInt n).magnitude = n * unitsPerOne := by
  by_cases hn : n = 0
  · subst hn
    decide +kernel
  · have hbits := magnitudeOfRatio_of_lt hn hlt
    have hmin := (integerSignificand_bounds hn).1
    have hmax := integerSignificand_lt hn hlt
    have hplaces : n.log2 < 53 := (Nat.log2_lt hn).2 hlt
    have hexponent : (ofInt n).exponentField = n.log2 + 1023 := by
      rw [exponentField, magnitudeBits_ofInt, Int.natAbs_natCast, hbits]
      omega
    have hfraction : (ofInt n).fraction = integerSignificand n - 2 ^ 52 := by
      rw [fraction, word_ofInt, hbits]
      omega
    have hsignificand : (ofInt n).significand = integerSignificand n := by
      rw [significand, hexponent, if_neg (by omega), hfraction]
      omega
    have hshift : (ofInt n).shift = n.log2 + 1022 := by
      rw [shift, hexponent]
      omega
    rw [magnitude, hsignificand, hshift, integerSignificand_of_lt hn hlt, Nat.mul_assoc,
      two_pow_mul_two_pow (by omega)]

/-- A natural number below `2 ^ 53` is read back from its double. -/
theorem toCount_ofInt {n : Nat} (hlt : n < 2 ^ 53) : (ofInt n).toCount = n := by
  have hwhole : (ofInt n).wholePart = n := by
    rw [wholePart, magnitude_ofInt hlt]
    exact Nat.mul_div_cancel n unitsPerOne_pos
  have hpositive : (ofInt n).negative = false := by
    rw [negative_ofInt]
    exact decide_eq_false (by omega)
  have hbounded : (ofInt n).isInfinite = false := by
    rw [isInfinite, magnitudeBits_ofInt, Int.natAbs_natCast]
    refine decide_eq_false (Nat.ne_of_lt ?_)
    by_cases hn : n = 0
    · rw [hn, magnitudeOfRatio_zero]
      omega
    · have hbits := magnitudeOfRatio_of_lt hn hlt
      have hmax := integerSignificand_lt hn hlt
      have hplaces : n.log2 < 53 := (Nat.log2_lt hn).2 hlt
      omega
  simp only [toCount, isNaN_ofInt, hpositive, hbounded, hwhole, Bool.or_self, Bool.false_eq_true,
    if_false]
  omega

/-- A positive integer is never rounded down to nothing, however large it is. -/
theorem one_le_toCount_ofInt {n : Nat} (hn : n ≠ 0) : 1 ≤ (ofInt n).toCount := by
  have hpositive : (ofInt n).negative = false := by
    rw [negative_ofInt]
    exact decide_eq_false (by omega)
  have hmin := (integerSignificand_bounds hn).1
  have hbits : (ofInt n).magnitudeBits =
      min ((n.log2 + 1022) * 2 ^ 52 + integerSignificand n) (2047 * 2 ^ 52) := by
    rw [magnitudeBits_ofInt, Int.natAbs_natCast, magnitudeOfRatio_integer hn]
  have hexponent : 1023 ≤ (ofInt n).exponentField := by
    rw [exponentField, hbits]
    omega
  have hsignificand : 2 ^ 52 ≤ (ofInt n).significand := by
    rw [significand, if_neg (by omega)]
    omega
  obtain ⟨places, hplaces⟩ : ∃ places, 52 + places = 1074 := ⟨1022, rfl⟩
  have hshift : places ≤ (ofInt n).shift := by
    rw [shift]
    omega
  have hwhole : 1 ≤ (ofInt n).wholePart := by
    rw [wholePart, Nat.le_div_iff_mul_le unitsPerOne_pos, Nat.one_mul,
      ← two_pow_mul_two_pow hplaces]
    exact Nat.mul_le_mul hsignificand (Nat.pow_le_pow_right Nat.two_pos hshift)
  rw [toCount, isNaN_ofInt, hpositive]
  simp only [Bool.or_self, Bool.false_eq_true, if_false]
  split
  · decide
  · exact Nat.le_min.2 ⟨hwhole, by decide⟩

end DocQuery.Double
