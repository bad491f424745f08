import DocQuery.Proofs.Mutation.Unchanged
import DocQuery.Proofs.Value.Integers
import DocQuery.Regex.Basic
import Mathlib.Algebra.BigOperators.Group.List.Basic
import Mathlib.Algebra.Ring.Int.Defs
import Mathlib.Data.List.Infix

/-!
# Increments of integers

The sum that an increment writes is an integer of sixty-four bits if one of the summands is, and
otherwise one of thirty-two where it fits. Only a sum outside of sixty-four bits is not exact. So
as long as no sum lies outside, a run of increments adds up to the sum of its amounts, and the order
of the amounts can change the width of the last integer, but not the integer.

## Main definitions

* `Mutation.IsSum`: the sum of two integers, as a value
* `Mutation.counted`: the number that an increment finds, which is zero where nothing stands
* `Mutation.AddsUp`: a run of increments that succeed and store sums

## Main results

* `Mutation.exists_add?`: two integers have a sum
* `Mutation.exists_increment`: one increment of an integer
* `Mutation.exists_addsUp`: a run of increments of an integer
* `Mutation.addsUp_of_perm`: where no sum lies outside, the integer is the exact sum in every order
-/

namespace DocQuery.Mutation

open Document

/-! ## Sums of two integers -/

/-- The integer fits into thirty-two bits. -/
def FitsInt32 (n : Int) : Prop := -2 ^ 31 ≤ n ∧ n < 2 ^ 31

/-- The integer fits into sixty-four bits. -/
def FitsInt64 (n : Int) : Prop := -2 ^ 63 ≤ n ∧ n < 2 ^ 63

instance (n : Int) : Decidable (FitsInt32 n) := inferInstanceAs (Decidable (_ ∧ _))

instance (n : Int) : Decidable (FitsInt64 n) := inferInstanceAs (Decidable (_ ∧ _))

/-- The integer of sixty-four bits that is nearest to a given one. -/
def nearestInt64 (n : Int) : Int := max (-2 ^ 63) (min n (2 ^ 63 - 1))

/-- Whether a value is an integer of thirty-two bits. -/
def isInt32 : Value → Bool
  | .int32 _ => true
  | _ => false

/-- A value holds the sum of two integers, moved into the range of sixty-four bits. It has thirty-two
bits exactly if both summands do and the sum fits. -/
def IsSum (a b sum : Value) : Prop :=
  ∃ m n, a.integer? = some m ∧ b.integer? = some n ∧ sum.integer? = some (nearestInt64 (m + n)) ∧
    (isInt32 sum ↔ isInt32 a ∧ isInt32 b ∧ FitsInt32 (m + n))

variable {a b : Value} {m n : Int}

theorem nearestInt64_of_fits (h : FitsInt64 n) : nearestInt64 n = n := by
  unfold FitsInt64 at h
  unfold nearestInt64
  omega

theorem integer?_saturated (n : Int) : (saturated n).integer? = some (nearestInt64 n) := by
  refine congrArg some (Int64.toInt_ofInt_of_le ?_ ?_)
  · simp only [int64Bounds]
    omega
  · simp only [int64Bounds]
    omega

/-- Two integers have a sum. -/
theorem exists_add? (ha : a.integer? = some m) (hb : b.integer? = some n) :
    ∃ sum, add? a b = some sum ∧ IsSum a b sum := by
  -- A sum with a summand of sixty-four bits is saturated.
  have hwide : add? a b = some (saturated (m + n)) → ¬ (isInt32 a ∧ isInt32 b) →
      ∃ sum, add? a b = some sum ∧ IsSum a b sum := by
    intro hadd hwidth
    refine ⟨_, hadd, m, n, ha, hb, integer?_saturated _, nofun, fun h => ?_⟩
    exact absurd ⟨h.1, h.2.1⟩ hwidth
  cases a with
  | int32 x =>
    obtain rfl : x.toInt = m := Option.some.inj ha
    cases b with
    | int32 y =>
      obtain rfl : y.toInt = n := Option.some.inj hb
      have hx := x.le_toInt
      have hx' := x.toInt_lt
      have hy := y.le_toInt
      have hy' := y.toInt_lt
      have hexact : nearestInt64 (x.toInt + y.toInt) = x.toInt + y.toInt :=
        nearestInt64_of_fits ⟨by omega, by omega⟩
      by_cases hfits : FitsInt32 (x.toInt + y.toInt)
      · refine ⟨.int32 (Int32.ofInt (x.toInt + y.toInt)), if_pos hfits, _, _, rfl, rfl, ?_, ?_⟩
        · rw [hexact]
          exact congrArg some (Int32.toInt_ofInt_of_le hfits.1 hfits.2)
        · exact ⟨fun _ => ⟨rfl, rfl, hfits⟩, fun _ => rfl⟩
      · refine ⟨.int64 (Int64.ofInt (x.toInt + y.toInt)), if_neg hfits, _, _, rfl, rfl, ?_, ?_⟩
        · rw [hexact]
          exact congrArg some (Int64.toInt_ofInt_of_le (by omega) (by omega))
        · exact ⟨nofun, fun h => absurd h.2.2 hfits⟩
    | int64 y =>
      obtain rfl : y.toInt = n := Option.some.inj hb
      exact hwide rfl nofun
    | _ => cases hb
  | int64 x =>
    obtain rfl : x.toInt = m := Option.some.inj ha
    cases b with
    | int32 y | int64 y =>
      obtain rfl : y.toInt = n := Option.some.inj hb
      exact hwide rfl nofun
    | _ => cases hb
  | _ => cases ha

/-! ## One increment -/

/-- The number that an increment finds at a path, which is zero where nothing stands. -/
def counted (d : Document) (path : String) : Value := (atPath? d path).getD (.int32 0)

/-- The mutation document of one increment. -/
def incrementOf (path : String) (amount : Value) : Document :=
  [("$inc", .document [(path, amount)])]

variable {d next last : Document} {path : String} {amount sum : Value} {start : Int}

section

variable [Regex.Engine]

theorem applyUpdate_incrementOf {changed : Bool}
    (h : increment d path amount = .ok (next, changed)) :
    applyUpdate (incrementOf path amount) d = ⟨next, .ok changed⟩ := by
  have hfields : applyFields "$inc" [(path, amount)] d = ⟨next, .ok changed⟩ := by
    have hfield : applyField "$inc" d path amount = .ok (next, changed) := h
    simp only [applyFields, hfield, Outcome.after, Except.map, Bool.or_false]
  simp only [incrementOf, applyUpdate, hfields, Outcome.after, Except.map, Bool.or_false]

/-- An increment of an integer by an integer succeeds and stores the sum, and can be repeated. -/
theorem exists_increment (hpath : Path.IsReadable path)
    (hwrite : ¬ IsBlocked d (Path.segments path)) (hstart : (counted d path).integer? = some start)
    (hamount : amount.integer? = some n) :
    ∃ next changed sum, applyUpdate (incrementOf path amount) d = ⟨next, .ok changed⟩ ∧
      atPath? next path = some sum ∧ IsSum (counted d path) amount sum ∧
      ¬ IsBlocked next (Path.segments path) := by
  obtain ⟨sum, hadd, hsum⟩ := exists_add? hstart hamount
  obtain ⟨next, hset⟩ : ∃ next, setSegments d (Path.segments path) sum = .ok next :=
    exists_setSegments_iff.2 hwrite
  have hincrement := increment_eq_ok_iff.2 ⟨sum, hadd, hset, rfl⟩
  have hreach := reach?_setSegments_self (Path.segments_ne_nil path) hset
  exact ⟨next, _, sum, applyUpdate_incrementOf hincrement, atPath?_setPath_self hpath hset, hsum,
    not_isBlocked_of_reach? hreach⟩

/-! ## Runs of increments -/

/-- Increments at a path by one amount after another, each in an update of its own: no update
fails, and each stores the sum of what it finds and its amount. -/
inductive AddsUp (path : String) : Document → List Value → Document → Prop where
  | nil (d : Document) : AddsUp path d [] d
  | cons {d next last : Document} {amount sum : Value} {rest : List Value} {changed : Bool} :
      applyUpdate (incrementOf path amount) d = ⟨next, .ok changed⟩ →
      atPath? next path = some sum → IsSum (counted d path) amount sum →
      AddsUp path next rest last → AddsUp path d (amount :: rest) last

/-- The integers that values hold. -/
def integers (values : List Value) : List Int := values.filterMap Value.integer?

/-- No partial sum lies outside of sixty-four bits. -/
def SumsFit (start : Int) (amounts : List Int) : Prop :=
  ∀ part, part <+: amounts → FitsInt64 (start + part.sum)

instance (start : Int) (amounts : List Int) : Decidable (SumsFit start amounts) :=
  decidable_of_iff (∀ part ∈ amounts.inits, FitsInt64 (start + part.sum))
    (forall_congr' fun part => by rw [List.mem_inits])

variable {amounts : List Value}

omit [Regex.Engine] in
theorem counted_of_atPath? (h : atPath? d path = some sum) : counted d path = sum := by
  rw [counted, h]
  rfl

omit [Regex.Engine] in
theorem SumsFit.head {amounts : List Int} (h : SumsFit start (n :: amounts)) :
    FitsInt64 (start + n) := by
  have hpart := h [n] (List.cons_prefix_cons.2 ⟨rfl, List.nil_prefix⟩)
  rwa [List.sum_singleton] at hpart

omit [Regex.Engine] in
theorem SumsFit.tail {amounts : List Int} (h : SumsFit start (n :: amounts)) :
    SumsFit (start + n) amounts := by
  intro part hpart
  have hmore := h (n :: part) (List.cons_prefix_cons.2 ⟨rfl, hpart⟩)
  rwa [List.sum_cons, ← Int.add_assoc] at hmore

/-- A run of increments of an integer succeeds, and where no sum lies outside of sixty-four bits it
ends with the exact sum. -/
theorem exists_addsUp (hpath : Path.IsReadable path) (hwrite : ¬ IsBlocked d (Path.segments path))
    (hstart : (counted d path).integer? = some start)
    (hamounts : ∀ amount ∈ amounts, amount.integer?.isSome) :
    ∃ last, AddsUp path d amounts last ∧ (SumsFit start (integers amounts) →
      (counted last path).integer? = some (start + (integers amounts).sum)) := by
  induction amounts generalizing d start with
  | nil => exact ⟨d, .nil d, fun _ => by simpa [integers] using hstart⟩
  | cons amount rest ih =>
    obtain ⟨hamount, hrest⟩ := List.forall_mem_cons.1 hamounts
    obtain ⟨n, hn⟩ := Option.isSome_iff_exists.1 hamount
    obtain ⟨next, changed, sum, happly, hread, hsum, hnext⟩ :=
      exists_increment hpath hwrite hstart hn
    have ⟨m', n', hm', hn', hinteger, _⟩ := hsum
    obtain rfl : start = m' := Option.some.inj (hstart.symm.trans hm')
    obtain rfl : n = n' := Option.some.inj (hn.symm.trans hn')
    have hcounted : (counted next path).integer? = some (nearestInt64 (start + n)) := by
      rw [counted_of_atPath? hread, hinteger]
    obtain ⟨last, hrun, hlast⟩ := ih hnext hcounted hrest
    refine ⟨last, .cons happly hread hsum hrun, fun hfits => ?_⟩
    have hintegers : integers (amount :: rest) = n :: integers rest := List.filterMap_cons_some hn
    rw [hintegers] at hfits ⊢
    -- The first sum is exact, and the others go on from it.
    rw [nearestInt64_of_fits hfits.head] at hlast
    rw [hlast hfits.tail, List.sum_cons, Int.add_assoc]

theorem AddsUp.isSome_atPath? (h : AddsUp path d amounts last) (hne : amounts ≠ []) :
    (atPath? last path).isSome := by
  induction h with
  | nil d => exact absurd rfl hne
  | @cons d next last amount sum rest changed happly hread hsum hrun ih =>
    cases hrun with
    | nil => exact Option.isSome_iff_exists.2 ⟨sum, hread⟩
    | cons => exact ih nofun

/-- Increments of an integer, or of what is missing, by integers in any order: no step fails, each
stores the sum, moved into the range of sixty-four bits, and if no partial sum lies outside of it,
the last integer is the first one plus all amounts. -/
theorem addsUp_of_perm (hpath : Path.IsReadable path)
    (hwrite : ∃ value left, setPath d path value = .ok left)
    (hstart : (counted d path).integer? = some start)
    (hamounts : ∀ amount ∈ amounts, amount.integer?.isSome) (hne : amounts ≠ []) :
    ∀ others, others.Perm amounts → ∃ last, AddsUp path d others last ∧
      (SumsFit start (integers others) → ∃ sum, atPath? last path = some sum ∧
        sum.integer? = some (start + (integers amounts).sum)) := by
  intro others hperm
  obtain ⟨value, left, hleft⟩ := hwrite
  have hfree : ¬ IsBlocked d (Path.segments path) := exists_setSegments_iff.1 ⟨left, hleft⟩
  have hothers : ∀ amount ∈ others, amount.integer?.isSome :=
    fun amount hmem => hamounts amount (hperm.mem_iff.1 hmem)
  obtain ⟨last, hrun, hlast⟩ := exists_addsUp hpath hfree hstart hothers
  refine ⟨last, hrun, fun hfits => ?_⟩
  have hsome : others ≠ [] := fun hnil => hne (List.perm_nil.1 (hnil ▸ hperm.symm))
  obtain ⟨sum, hsum⟩ := Option.isSome_iff_exists.1 (hrun.isSome_atPath? hsome)
  refine ⟨sum, hsum, ?_⟩
  rw [← counted_of_atPath? hsum, hlast hfits]
  exact congrArg (fun total => some (start + total)) (hperm.filterMap Value.integer?).sum_eq

end

/-- The greatest integer of thirty-two bits is counted down and up again. The width depends on the
order of the two steps, and the integer does not. -/
theorem addsUp_of_perm_hits :
    let d : Document := [("page", .document [("hits", .int32 2147483647)])]
    let amounts : List Value := [.int32 (-1), .int32 1]
    Path.IsReadable "page.hits" ∧ (∃ value left, setPath d "page.hits" value = .ok left) ∧
      (counted d "page.hits").integer? = some 2147483647 ∧
      (∀ amount ∈ amounts, amount.integer?.isSome) ∧ amounts ≠ [] ∧
      amounts.reverse.Perm amounts ∧ SumsFit 2147483647 (integers amounts.reverse) ∧
      ∃ last, AddsUp "page.hits" d amounts.reverse last ∧
        ∃ sum, atPath? last "page.hits" = some sum ∧ sum.integer? = some 2147483647 := by
  intro d amounts
  have hpath : Path.IsReadable "page.hits" := by decide
  have hwrite : ∃ value left, setPath d "page.hits" value = .ok left := ⟨.null, _, rfl⟩
  have hstart : (counted d "page.hits").integer? = some 2147483647 := by decide +kernel
  have hamounts : ∀ amount ∈ amounts, amount.integer?.isSome := by simp [amounts, Value.integer?]
  have hfits : SumsFit 2147483647 (integers amounts.reverse) := by decide +kernel
  obtain ⟨last, hrun, hlast⟩ := addsUp_of_perm hpath hwrite hstart hamounts nofun amounts.reverse
    (List.reverse_perm amounts)
  exact ⟨hpath, hwrite, hstart, hamounts, nofun, List.reverse_perm amounts, hfits, last, hrun,
    hlast hfits⟩

end DocQuery.Mutation
