import DocQuery.Regex.Matcher
import Mathlib.Data.Nat.Bitwise
import Mathlib.Logic.Function.Iterate
import Mathlib.Logic.Relation

/-!
# What a pattern matches

The stretches of a text that a pattern matches, as a relation between positions with one clause for
each pattern, and the proof that matching follows it: a pattern leads from a set of positions to
exactly those that one of its stretches ends at.

## Main definitions

* `Chain`: a number of steps of a relation, one after another
* `Haystack.Spans`: the stretches that a pattern matches

## Main results

* `Haystack.follows_reach`: matching follows the stretches
* `Haystack.isMatch_iff`: a pattern matches in a text if it matches some stretch of it

## Design notes

A repetition without bound has chains of every length, of which matching tries those that are no
longer than the text. That is enough because no stretch goes back: the steps of a chain that stay
where they are can be left out, and each of the others takes at least one character.
-/

namespace DocQuery.Regex

/-! ## Chains of steps -/

/-- A number of steps of a relation, one after another. -/
def Chain (R : Nat → Nat → Prop) : Nat → Nat → Nat → Prop
  | 0, i, j => i = j
  | count + 1, i, j => ∃ m, Chain R count i m ∧ R m j

namespace Chain

variable {R : Nat → Nat → Prop}

theorem add_iff {a b i j : Nat} :
    Chain R (a + b) i j ↔ ∃ m, Chain R a i m ∧ Chain R b m j := by
  induction b generalizing j with
  | zero => simp [Chain]
  | succ b ih =>
    constructor
    · rintro ⟨m, hchain, hstep⟩
      obtain ⟨k, hfirst, hsecond⟩ := ih.mp hchain
      exact ⟨k, hfirst, m, hsecond, hstep⟩
    · rintro ⟨k, hfirst, m, hsecond, hstep⟩
      exact ⟨m, ih.mpr ⟨k, hfirst, hsecond⟩, hstep⟩

/-- Steps that do not go back need not be repeated more often than there are positions between the
ends of the chain. -/
theorem exists_short (forward : ∀ {i j}, R i j → i ≤ j) {count i j : Nat}
    (h : Chain R count i j) : ∃ few, few ≤ count ∧ i + few ≤ j ∧ Chain R few i j := by
  induction count generalizing j with
  | zero => exact ⟨0, le_rfl, le_of_eq h, h⟩
  | succ count ih =>
    obtain ⟨m, hchain, hstep⟩ := h
    obtain ⟨few, hcount, hends, hfew⟩ := ih hchain
    rcases (forward hstep).eq_or_lt with rfl | hlt
    · exact ⟨few, by omega, hends, hfew⟩
    · exact ⟨few + 1, by omega, by omega, m, hfew, hstep⟩

/-- Any number of steps of a relation lead to what can be reached by it. -/
theorem reflTransGen_iff {i j : Nat} :
    Relation.ReflTransGen R i j ↔ ∃ count, Chain R count i j := by
  constructor
  · intro hreach
    induction hreach with
    | refl => exact ⟨0, rfl⟩
    | tail _ hstep ih =>
      obtain ⟨count, hchain⟩ := ih
      exact ⟨count + 1, _, hchain, hstep⟩
  · rintro ⟨count, hchain⟩
    induction count generalizing j with
    | zero => exact hchain ▸ .refl
    | succ count ih =>
      obtain ⟨m, hinit, hstep⟩ := hchain
      exact (ih hinit).tail hstep

end Chain

/-! ## Sets of positions -/

namespace Walk

/-- Stopping early leaves the result of applying the step as often as asked. -/
theorem times_eq_iterate (step : Nat → Nat) (count set : Nat) :
    times step count set = step^[count] set := by
  induction count generalizing set with
  | zero => rfl
  | succ count ih =>
    rw [times, Function.iterate_succ_apply]
    split
    · next fixed => rw [fixed, Function.iterate_fixed fixed]
    · exact ih (step set)

theorem grow_eq_iterate (step : Nat → Nat) (start count set : Nat) :
    grow step start count set = (fun s => start ||| step s)^[count] set := by
  induction count generalizing set with
  | zero => rfl
  | succ count ih =>
    rw [grow, Function.iterate_succ_apply]
    split
    · next fixed => exact (congrArg _ fixed).trans (Function.iterate_fixed fixed _) |>.symm
    · exact ih (start ||| step set)

/-- A function on sets of positions that follows a relation: it leads to the positions that are
related to one in the set. -/
def Follows (step : Nat → Nat) (R : Nat → Nat → Prop) : Prop :=
  ∀ set j, (step set).testBit j = true ↔ ∃ i, set.testBit i = true ∧ R i j

variable {step : Nat → Nat} {R : Nat → Nat → Prop}

theorem follows_times (h : Follows step R) (count : Nat) :
    Follows (times step count) (Chain R count) := by
  intro set j
  rw [times_eq_iterate]
  induction count generalizing j with
  | zero => simp [Chain]
  | succ count ih =>
    rw [Function.iterate_succ_apply', h]
    constructor
    · rintro ⟨m, hm, hstep⟩
      obtain ⟨i, hi, hchain⟩ := (ih m).mp hm
      exact ⟨i, hi, m, hchain, hstep⟩
    · rintro ⟨i, hi, m, hchain, hstep⟩
      exact ⟨m, (ih m).mpr ⟨i, hi, hchain⟩, hstep⟩

theorem follows_grow (h : Follows step R) (count : Nat) :
    Follows (fun start => grow step start count start)
      (fun i j => ∃ k, k ≤ count ∧ Chain R k i j) := by
  intro start j
  simp only [grow_eq_iterate]
  induction count generalizing j with
  | zero => simp [Chain]
  | succ count ih =>
    rw [Function.iterate_succ_apply', Nat.testBit_or, Bool.or_eq_true, h]
    constructor
    · rintro (hj | ⟨m, hm, hstep⟩)
      · exact ⟨j, hj, 0, Nat.zero_le _, rfl⟩
      · obtain ⟨i, hi, k, hk, hchain⟩ := (ih m).mp hm
        exact ⟨i, hi, k + 1, Nat.succ_le_succ hk, m, hchain, hstep⟩
    · rintro ⟨i, hi, k, hk, hchain⟩
      cases k with
      | zero =>
        have hij : i = j := hchain
        exact .inl (hij ▸ hi)
      | succ k =>
        obtain ⟨m, hinit, hstep⟩ := hchain
        exact .inr ⟨m, (ih m).mpr ⟨i, hi, k, Nat.le_of_succ_le_succ hk, hinit⟩, hstep⟩

end Walk

/-! ## Stretches -/

namespace Haystack

variable (h : Haystack)

/-- The stretches of a text, from one position to another, that a pattern matches. -/
def Spans : Pattern → Nat → Nat → Prop
  | .empty, i, j => i = j
  | .one c, i, j => (h.chars[i]?).any c.contains = true ∧ j = i + 1
  | .assert a, i, j => (h.contexts[i]?).any a.holds = true ∧ j = i
  | .seq p q, i, j => ∃ m, Spans p i m ∧ Spans q m j
  | .alt p q, i, j => Spans p i j ∨ Spans q i j
  | .rep p least most?, i, j =>
    ∃ count, least ≤ count ∧ (∀ most ∈ most?, count ≤ max least most) ∧
      Chain (Spans p) count i j

variable {h}

/-- A stretch does not go back, and unless it is empty it ends in the text. -/
theorem Spans.le {p : Pattern} {i j : Nat} (hspan : h.Spans p i j) :
    i ≤ j ∧ (j = i ∨ j ≤ h.chars.length) := by
  induction p generalizing i j with
  | empty =>
    have hij : i = j := hspan
    omega
  | one c =>
    obtain ⟨hc, rfl⟩ := hspan
    have hi : i < h.chars.length := by
      by_contra hge
      rw [List.getElem?_eq_none (by omega)] at hc
      simp at hc
    omega
  | assert a =>
    obtain ⟨-, rfl⟩ := hspan
    omega
  | seq p q ihp ihq =>
    obtain ⟨m, hp, hq⟩ := hspan
    have := ihp hp
    have := ihq hq
    omega
  | alt p q ihp ihq =>
    rcases hspan with hp | hq
    · exact ihp hp
    · exact ihq hq
  | rep p least most? ih =>
    obtain ⟨count, -, -, hchain⟩ := hspan
    clear * - hchain ih
    induction count generalizing j with
    | zero =>
      have hij : i = j := hchain
      omega
    | succ count ihcount =>
      obtain ⟨m, hinit, hstep⟩ := hchain
      have := ihcount hinit
      have := ih hstep
      omega

/-- A repetition without bound needs no more repetitions beyond the least than the text has
characters. -/
theorem exists_count_le {p : Pattern} {least count i j : Nat} (hleast : least ≤ count)
    (hchain : Chain (h.Spans p) count i j) :
    ∃ more, more ≤ h.chars.length + 1 ∧ Chain (h.Spans p) (least + more) i j := by
  obtain ⟨m, hfirst, hrest⟩ := Chain.add_iff.mp (Nat.add_sub_cancel' hleast ▸ hchain)
  obtain ⟨more, -, hends, hmore⟩ := Chain.exists_short (fun hspan => hspan.le.1) hrest
  refine ⟨more, ?_, Chain.add_iff.mpr ⟨m, hfirst, hmore⟩⟩
  have hspan : h.Spans (.rep p 0 none) m j := ⟨more, Nat.zero_le _, by simp, hmore⟩
  have := hspan.le
  omega

/-- The repetitions that matching tries are those that the bounds allow, as far as they differ. -/
theorem spans_rep_iff {p : Pattern} {least : Nat} {most? : Option Nat} {i j : Nat} :
    h.Spans (.rep p least most?) i j ↔
      ∃ m, Chain (h.Spans p) least i m ∧
        ∃ more, more ≤ most?.elim (h.chars.length + 1) (· - least) ∧
          Chain (h.Spans p) more m j := by
  constructor
  · rintro ⟨count, hleast, hmost, hchain⟩
    cases most? with
    | none =>
      obtain ⟨more, hmore, hshort⟩ := exists_count_le hleast hchain
      obtain ⟨m, hfirst, hrest⟩ := Chain.add_iff.mp hshort
      exact ⟨m, hfirst, more, hmore, hrest⟩
    | some most =>
      have hcount := hmost most rfl
      obtain ⟨m, hfirst, hrest⟩ := Chain.add_iff.mp (Nat.add_sub_cancel' hleast ▸ hchain)
      exact ⟨m, hfirst, count - least, by simp only [Option.elim_some]; omega, hrest⟩
  · rintro ⟨m, hfirst, more, hmore, hrest⟩
    refine ⟨least + more, Nat.le_add_right _ _, ?_, Chain.add_iff.mpr ⟨m, hfirst, hrest⟩⟩
    rintro most rfl
    simp only [Option.elim_some] at hmore
    omega

variable (h)

/-- Matching leads from a set of positions to those that a stretch of the pattern ends at. -/
theorem follows_reach (p : Pattern) : Walk.Follows (h.reach p) (h.Spans p) := by
  induction p with
  | empty =>
    intro set j
    change set.testBit j = true ↔ _
    simp [Spans]
  | one c =>
    intro set j
    change ((set &&& maskOf c.contains h.chars) <<< 1).testBit j = true ↔ _
    rw [Nat.testBit_shiftLeft, Nat.testBit_and, testBit_maskOf]
    constructor
    · intro hj
      simp only [Bool.and_eq_true, decide_eq_true_eq] at hj
      exact ⟨j - 1, hj.2.1, hj.2.2, by omega⟩
    · rintro ⟨i, hi, hc, rfl⟩
      simp [hi, hc]
  | assert a =>
    intro set j
    change (set &&& maskOf a.holds h.contexts).testBit j = true ↔ _
    rw [Nat.testBit_and, testBit_maskOf, Bool.and_eq_true]
    constructor
    · rintro ⟨hj, ha⟩
      exact ⟨j, hj, ha, rfl⟩
    · rintro ⟨i, hi, ha, rfl⟩
      exact ⟨hi, ha⟩
  | seq p q ihp ihq =>
    intro set j
    change (h.reach q (h.reach p set)).testBit j = true ↔ _
    rw [ihq]
    constructor
    · rintro ⟨m, hm, hq⟩
      obtain ⟨i, hi, hp⟩ := (ihp set m).mp hm
      exact ⟨i, hi, m, hp, hq⟩
    · rintro ⟨i, hi, m, hp, hq⟩
      exact ⟨m, (ihp set m).mpr ⟨i, hi, hp⟩, hq⟩
  | alt p q ihp ihq =>
    intro set j
    change (h.reach p set ||| h.reach q set).testBit j = true ↔ _
    rw [Nat.testBit_or, Bool.or_eq_true, ihp, ihq]
    simp only [Spans, and_or_left, exists_or]
  | rep p least most? ih =>
    intro set j
    have hmore : h.reach (.rep p least most?) set =
        Walk.grow (h.reach p) (Walk.times (h.reach p) least set)
          (most?.elim (h.chars.length + 1) (· - least)) (Walk.times (h.reach p) least set) := by
      cases most? <;> rfl
    rw [hmore, Walk.follows_grow ih]
    constructor
    · rintro ⟨m, hm, more, hle, hrest⟩
      obtain ⟨i, hi, hfirst⟩ := (Walk.follows_times ih least set m).mp hm
      exact ⟨i, hi, spans_rep_iff.mpr ⟨m, hfirst, more, hle, hrest⟩⟩
    · rintro ⟨i, hi, hspan⟩
      obtain ⟨m, hfirst, more, hle, hrest⟩ := spans_rep_iff.mp hspan
      exact ⟨m, (Walk.follows_times ih least set m).mpr ⟨i, hi, hfirst⟩, more, hle, hrest⟩

/-- A pattern matches in a text if it matches some stretch of it. -/
theorem isMatch_iff (p : Pattern) :
    h.isMatch p = true ↔ ∃ i, i ≤ h.chars.length ∧ ∃ j, h.Spans p i j := by
  have hall (i : Nat) : h.allPositions.testBit i = true ↔ i ≤ h.chars.length := by
    rw [allPositions, Nat.testBit_two_pow_sub_one, decide_eq_true_eq, Nat.lt_succ_iff]
  rw [isMatch, bne_iff_ne]
  constructor
  · intro hne
    obtain ⟨j, hj⟩ := Nat.exists_testBit_of_ne_zero hne
    obtain ⟨i, hi, hspan⟩ := (h.follows_reach p _ j).mp hj
    exact ⟨i, (hall i).mp hi, j, hspan⟩
  · rintro ⟨i, hi, j, hspan⟩ hzero
    have hj := (h.follows_reach p _ j).mpr ⟨i, (hall i).mpr hi, hspan⟩
    rw [hzero, Nat.zero_testBit] at hj
    exact Bool.false_ne_true hj

end Haystack

end DocQuery.Regex
