import DocQuery.Proofs.Double.Sums
import DocQuery.Proofs.Path.Reach
import DocQuery.Mutation
import DocQuery.Regex.Basic

/-!
# Mutations that report no change

A mutation that reports no change was silent at every path. A silent step leaves its document as it
was, except for an increment by zero: it always writes, and where nothing was read it puts a zero
that it does not count. So what a silent mutation leaves is the work of its increments by zero.

## Main definitions

* `Mutation.isZeroAmount`, `Mutation.zeroIncrements`: the increments of a mutation by zero

## Main results

* `Mutation.add?_same`: sums that a step takes for its first summand
* `Mutation.applyField_silent`: what one silent step leaves
* `Mutation.applyFields_zeroIncrements`: a silent mutation does what its increments by zero do
* `Mutation.applyUpdate_silent`: when a silent mutation leaves its document as it was
-/

namespace DocQuery

namespace Document

variable {d d' : Document} {p q : List String} {value : Value}

/-- Every part of a way that leads somewhere leads somewhere. -/
theorem isSome_follow?_of_prefix (hp : p ≠ []) (hpq : p <+: q) (h : (follow? d q).isSome) :
    (follow? d p).isSome := by
  obtain ⟨rest, rfl⟩ := hpq
  rw [follow?_append d hp] at h
  exact Option.isSome_of_isSome_bind h

/-- A write keeps what is read, if it does not end halfway. -/
theorem isSome_follow?_setSegments (hset : setSegments d q value = .ok d') (hq : q ≠ [])
    (hqp : q <+: p → q = p) (h : (follow? d p).isSome) : (follow? d' p).isSome := by
  have hwritten : (follow? d' q).isSome := by
    rw [follow?_setSegments_self hq hset]
    rfl
  by_cases hpq : p <+: q
  · have hp : p ≠ [] := by
      rintro rfl
      cases h
    exact isSome_follow?_of_prefix hp hpq hwritten
  · by_cases habove : q <+: p
    · rwa [← hqp habove]
    · rwa [follow?_setSegments ⟨habove, hpq⟩ hset]

end Document

namespace Mutation

open Document

/-- Whether an amount is a zero of some width. -/
def isZeroAmount (amount : Value) : Bool := amount.toDouble?.any Double.isZero

/-- The increments by zero among the changes of one operator. -/
def zerosOf (op : String) (fields : Document) : Document :=
  fields.filter fun field => op == "$inc" && isZeroAmount field.2

/-- The increments of a mutation by zero. -/
def zeroIncrements : Document → Document
  | [] => []
  | (op, .document fields) :: rest => zerosOf op fields ++ zeroIncrements rest
  | _ :: rest => zeroIncrements rest

/-! ## Sums -/

variable {a b c : Value}

/-- A sum that is taken for its first summand is that summand, unless that is the negative zero and
a zero is added. -/
theorem add?_same (h : add? a b = some c) (hsame : c.same a = true) :
    c = a ∨ a = .double Double.negZero ∧ isZeroAmount b = true := by
  unfold add? at h
  split at h
  · next x y =>
    dsimp only at h
    split at h
    · cases h
      exact .inl (congrArg Value.int32 (beq_iff_eq.1 hsame))
    · cases h
      cases hsame
  · cases h
    cases hsame
  · cases h
    exact .inl (congrArg Value.int64 (beq_iff_eq.1 hsame))
  · cases h
    exact .inl (congrArg Value.int64 (beq_iff_eq.1 hsame))
  · split at h
    · next x y hx hy =>
      cases h
      -- A double is taken for a double alone.
      cases a with
      | double z =>
        cases hx
        obtain hsum | ⟨hzero, hy'⟩ := Double.add_of_numEq hsame
        · exact .inl (congrArg Value.double hsum)
        · refine .inr ⟨congrArg Value.double hzero, ?_⟩
          rw [isZeroAmount, hy]
          exact hy'
      | _ => cases hsame
    · cases h

/-- Only a zero makes a missing number stay zero. -/
theorem isZeroAmount_of_add? (h : add? (.int32 0) b = some c) (hsame : c.same (.int32 0) = true) :
    isZeroAmount b = true := by
  obtain rfl := (add?_same h hsame).resolve_right nofun
  cases b with
  | int32 y =>
    have hsum : (Int32.ofInt (Int32.toInt 0 + y.toInt)) = 0 := by
      unfold add? at h
      dsimp only at h
      split at h
      · exact Value.int32.inj (Option.some.inj h)
      · cases h
    obtain rfl : y = 0 := by simpa using hsum
    decide +kernel
  | _ => cases h

/-! ## Silent steps -/

theorem Outcome.after_silent {o : Outcome} {changed : Bool} {left : Document} :
    o.after changed = ⟨left, .ok false⟩ ↔ changed = false ∧ o = ⟨left, .ok false⟩ := by
  obtain ⟨doc, result⟩ := o
  cases result with
  | error e => simp [Outcome.after, Except.map]
  | ok c => cases changed <;> simp [Outcome.after, Except.map]

variable {d next left : Document} {op path : String} {operand amount : Value}
  {fields rest update : Document}

/-- An increment writes the sum, a missing number being zero. -/
theorem increment_eq_ok_iff {changed : Bool} :
    increment d path amount = .ok (next, changed) ↔
      ∃ sum, add? ((atPath? d path).getD (.int32 0)) amount = some sum ∧
        setPath d path sum = .ok next ∧
        changed = !sum.same ((atPath? d path).getD (.int32 0)) := by
  unfold increment
  dsimp only
  cases add? ((atPath? d path).getD (.int32 0)) amount with
  | none => simp
  | some sum =>
    constructor
    · intro h
      obtain ⟨written, hset, heq⟩ := Except.bind_eq_ok_iff.1 h
      cases heq
      exact ⟨sum, rfl, hset, rfl⟩
    · rintro ⟨_, hsum, hset, rfl⟩
      cases hsum
      exact Except.bind_eq_ok_iff.2 ⟨next, hset, rfl⟩

/-- A silent increment leaves its document as it was, or it is an increment by zero that finds
nothing or the negative zero. -/
theorem increment_silent (h : increment d path amount = .ok (next, false)) :
    next = d ∨ isZeroAmount amount = true ∧
      (atPath? d path = none ∨ atPath? d path = some (.double Double.negZero)) := by
  obtain ⟨sum, hadd, hset, hsilent⟩ := increment_eq_ok_iff.1 h
  have hsame : sum.same ((atPath? d path).getD (.int32 0)) = true := by simpa using hsilent.symm
  cases hread : atPath? d path with
  | none =>
    rw [hread] at hadd hsame
    exact .inr ⟨isZeroAmount_of_add? hadd hsame, .inl rfl⟩
  | some found =>
    rw [hread] at hadd hsame
    obtain heq | ⟨hnegative, hamount⟩ := add?_same hadd hsame
    · -- What is found is written back.
      obtain rfl : sum = found := heq
      exact .inl (eq_of_setSegments (follow?_of_atPath? hread) hset)
    · have hfound : found = .double Double.negZero := hnegative
      exact .inr ⟨hamount, .inr (congrArg some hfound)⟩

theorem set_silent (h : set d path operand = .ok (next, false)) : next = d := by
  unfold set at h
  split at h
  · split at h
    · cases h
      rfl
    · obtain ⟨_, -, heq⟩ := Except.bind_eq_ok_iff.1 h
      cases heq
  · obtain ⟨_, -, heq⟩ := Except.bind_eq_ok_iff.1 h
    cases heq

theorem unset_silent (h : unset d path = .ok (next, false)) : next = d := by
  unfold unset at h
  split at h
  · cases h
  · cases h
    rfl

theorem push_silent (h : push d path operand = .ok (next, false)) : next = d := by
  obtain ⟨items, -, h⟩ := Except.bind_eq_ok_iff.1 h
  -- Whatever array is read, only a push of no items is silent.
  have hextended : ∀ array : List Value, (do
      if items.isEmpty then return (d, false)
      return (← setPath d path (.array (array ++ items)), true) : Change) = .ok (next, false) →
      next = d := by
    intro array h
    split at h
    · cases h
      rfl
    · obtain ⟨_, -, heq⟩ := Except.bind_eq_ok_iff.1 h
      cases heq
  dsimp only at h
  split at h
  · exact hextended _ h
  · exact hextended [] h
  · exact hextended [] h
  · cases h

section

variable [Regex.Engine]

theorem pull_silent (h : pull d path operand = .ok (next, false)) : next = d := by
  unfold pull at h
  split at h
  · obtain ⟨kept, -, h⟩ := Except.bind_eq_ok_iff.1 h
    split at h
    · cases h
      rfl
    · obtain ⟨_, -, heq⟩ := Except.bind_eq_ok_iff.1 h
      cases heq
  · cases h
    rfl

/-- A silent step leaves its document as it was, unless it is an increment by zero. -/
theorem applyField_silent (h : applyField op d path operand = .ok (next, false)) :
    next = d ∨ op = "$inc" ∧ isZeroAmount operand = true := by
  unfold applyField at h
  split at h
  · exact .inl (set_silent h)
  · exact .inl (unset_silent h)
  · exact (increment_silent h).imp_right fun hzero => ⟨rfl, hzero.1⟩
  · exact .inl (push_silent h)
  · exact .inl (pull_silent h)
  · cases h

/-! ## Silent runs -/

/-- A silent run starts with a silent step. -/
theorem applyFields_cons_silent :
    applyFields op ((path, operand) :: rest) d = ⟨left, .ok false⟩ ↔
      ∃ next, applyField op d path operand = .ok (next, false) ∧
        applyFields op rest next = ⟨left, .ok false⟩ := by
  rw [applyFields]
  constructor
  · intro h
    split at h
    · cases h
    · next next changed hstep =>
      obtain ⟨hchanged, hrun⟩ := Outcome.after_silent.1 h
      rw [hchanged] at hstep
      exact ⟨next, hstep, hrun⟩
  · rintro ⟨next, hstep, hrun⟩
    rw [hstep]
    exact Outcome.after_silent.2 ⟨rfl, hrun⟩

theorem applyFields_append_silent {first second : Document} :
    applyFields op (first ++ second) d = ⟨left, .ok false⟩ ↔
      ∃ next, applyFields op first d = ⟨next, .ok false⟩ ∧
        applyFields op second next = ⟨left, .ok false⟩ := by
  induction first generalizing d with
  | nil =>
    constructor
    · exact fun h => ⟨d, rfl, h⟩
    · rintro ⟨next, hnil, h⟩
      cases hnil
      exact h
  | cons field first ih =>
    obtain ⟨path, operand⟩ := field
    simp only [List.cons_append, applyFields_cons_silent, ih]
    constructor
    · rintro ⟨next, hstep, last, hfirst, hsecond⟩
      exact ⟨last, ⟨next, hstep, hfirst⟩, hsecond⟩
    · rintro ⟨last, ⟨next, hstep, hfirst⟩, hsecond⟩
      exact ⟨next, hstep, last, hfirst, hsecond⟩

/-- Every part of a silent mutation is silent. -/
theorem applyUpdate_cons_silent :
    applyUpdate ((op, .document fields) :: rest) d = ⟨left, .ok false⟩ ↔
      ∃ next, applyFields op fields d = ⟨next, .ok false⟩ ∧
        applyUpdate rest next = ⟨left, .ok false⟩ := by
  rw [applyUpdate]
  cases hfirst : applyFields op fields d with
  | mk next result =>
    cases result with
    | error e =>
      constructor
      · intro h
        cases h
      · rintro ⟨_, heq, -⟩
        cases heq
    | ok changed =>
      dsimp only
      rw [Outcome.after_silent]
      constructor
      · rintro ⟨rfl, hrest⟩
        exact ⟨next, rfl, hrest⟩
      · rintro ⟨_, heq, hrest⟩
        cases heq
        exact ⟨rfl, hrest⟩

/-- The increments by zero of a silent run of one operator leave on their own what it leaves. -/
theorem applyFields_zerosOf (h : applyFields op fields d = ⟨left, .ok false⟩) :
    applyFields "$inc" (zerosOf op fields) d = ⟨left, .ok false⟩ := by
  induction fields generalizing d with
  | nil => exact h
  | cons field rest ih =>
    obtain ⟨path, operand⟩ := field
    obtain ⟨next, hstep, hrest⟩ := applyFields_cons_silent.1 h
    rw [zerosOf, List.filter_cons]
    by_cases hzero : op = "$inc" ∧ isZeroAmount operand = true
    · obtain ⟨rfl, hamount⟩ := hzero
      simp only [hamount, beq_self_eq_true, Bool.and_self, if_true]
      exact applyFields_cons_silent.2 ⟨next, hstep, ih hrest⟩
    · -- Any other step has done nothing.
      obtain rfl := (applyField_silent hstep).resolve_right hzero
      have hskipped : (op == "$inc" && isZeroAmount operand) = false := by
        rw [← Bool.not_eq_true, Bool.and_eq_true, beq_iff_eq]
        exact hzero
      simp only [hskipped, Bool.false_eq_true, if_false]
      exact ih hrest

/-- The increments by zero of a silent mutation leave on their own what the mutation leaves. -/
theorem applyFields_zeroIncrements (h : applyUpdate update d = ⟨left, .ok false⟩) :
    applyFields "$inc" (zeroIncrements update) d = ⟨left, .ok false⟩ := by
  induction update generalizing d with
  | nil => exact h
  | cons entry rest ih =>
    obtain ⟨op, operand⟩ := entry
    cases operand with
    | document fields =>
      obtain ⟨next, hfirst, hrest⟩ := applyUpdate_cons_silent.1 h
      exact applyFields_append_silent.2 ⟨next, applyFields_zerosOf hfirst, ih hrest⟩
    | _ => cases h

/-! ## What increments by zero leave -/

variable {zeros : Document}

/-- Increments that each find a value other than the negative zero do nothing if they are silent. -/
theorem eq_of_applyFields_increment (h : applyFields "$inc" zeros d = ⟨left, .ok false⟩)
    (hfound : ∀ zero ∈ zeros, ∃ found, atPath? d zero.1 = some found ∧
      found ≠ .double Double.negZero) : left = d := by
  induction zeros generalizing d with
  | nil =>
    cases h
    rfl
  | cons zero rest ih =>
    obtain ⟨path, amount⟩ := zero
    obtain ⟨next, hstep, hrest⟩ := applyFields_cons_silent.1 h
    obtain ⟨⟨found, hread, hne⟩, hothers⟩ := List.forall_mem_cons.1 hfound
    -- The document is still the one that the condition is about.
    have hnext : next = d := by
      obtain heq | ⟨-, hnone | hnegative⟩ := increment_silent hstep
      · exact heq
      · rw [hnone] at hread
        cases hread
      · rw [hnegative] at hread
        cases hread
        exact absurd rfl hne
    subst hnext
    exact ih hrest hothers

omit [Regex.Engine] in
/-- A silent increment keeps whatever is read. -/
theorem isSome_atPath?_of_increment {other : String} (hpath : Path.IsReadable path)
    (hother : Path.IsReadable other) (h : increment d path amount = .ok (next, false))
    (hsome : (atPath? d other).isSome) : (atPath? next other).isSome := by
  obtain rfl | ⟨-, hread⟩ := increment_silent h
  · exact hsome
  · obtain ⟨sum, -, hset, -⟩ := increment_eq_ok_iff.1 h
    rw [atPath?_of_isReadable hother] at hsome ⊢
    rw [atPath?_of_isReadable hpath] at hread
    refine isSome_follow?_setSegments hset (Path.segments_ne_nil path) (fun hway => ?_) hsome
    -- Nothing is read behind a place where nothing stands, or a number.
    obtain ⟨behind, hbehind⟩ := hway
    rw [← hbehind, follow?_append d (Path.segments_ne_nil path)] at hsome
    obtain hnone | hnegative := hread
    · rw [hnone] at hsome
      cases hsome
    · rw [hnegative] at hsome
      cases behind with
      | nil => rw [← hbehind, List.append_nil]
      | cons _ _ => cases hsome

/-- A run of silent increments keeps whatever is read. -/
theorem isSome_atPath?_of_applyFields {other : String}
    (hzeros : ∀ zero ∈ zeros, Path.IsReadable zero.1) (hother : Path.IsReadable other)
    (h : applyFields "$inc" zeros d = ⟨left, .ok false⟩) (hsome : (atPath? d other).isSome) :
    (atPath? left other).isSome := by
  induction zeros generalizing d with
  | nil =>
    cases h
    exact hsome
  | cons zero rest ih =>
    obtain ⟨hzero, hrest⟩ := List.forall_mem_cons.1 hzeros
    obtain ⟨next, hstep, hrun⟩ := applyFields_cons_silent.1 h
    exact ih hrest hrun (isSome_atPath?_of_increment hzero hother hstep hsome)

/-- Something is read wherever a silent run has incremented. -/
theorem forall_isSome_atPath?_of_applyFields (hzeros : ∀ zero ∈ zeros, Path.IsReadable zero.1)
    (h : applyFields "$inc" zeros d = ⟨left, .ok false⟩) :
    ∀ zero ∈ zeros, (atPath? left zero.1).isSome := by
  induction zeros generalizing d with
  | nil => exact fun zero hzero => nomatch hzero
  | cons zero rest ih =>
    obtain ⟨hzero, hrest⟩ := List.forall_mem_cons.1 hzeros
    obtain ⟨next, hstep, hrun⟩ := applyFields_cons_silent.1 h
    obtain ⟨sum, -, hset, -⟩ := increment_eq_ok_iff.1 hstep
    have hwritten : (atPath? next zero.1).isSome := by
      rw [atPath?_setPath_self hzero hset]
      rfl
    exact List.forall_mem_cons.2
      ⟨isSome_atPath?_of_applyFields hrest hzero hrun hwritten, ih hrest hrun⟩

/-! ## Silent mutations -/

/-- A mutation that reports no change leaves what its increments by zero leave, which report none
either. This is the document as it was if each of them finds a value other than the negative zero;
on paths that can be read, it is so only if each of them finds something. -/
theorem applyUpdate_silent (h : applyUpdate update d = ⟨left, .ok false⟩) :
    applyFields "$inc" (zeroIncrements update) d = ⟨left, .ok false⟩ ∧
      ((∀ zero ∈ zeroIncrements update, ∃ found, atPath? d zero.1 = some found ∧
        found ≠ .double Double.negZero) → left = d) ∧
      ((∀ zero ∈ zeroIncrements update, Path.IsReadable zero.1) → left = d →
        ∀ zero ∈ zeroIncrements update, ∃ found, atPath? d zero.1 = some found) := by
  have hzeros := applyFields_zeroIncrements h
  refine ⟨hzeros, eq_of_applyFields_increment hzeros, fun hreadable heq zero hzero => ?_⟩
  subst heq
  have hsome := forall_isSome_atPath?_of_applyFields hreadable hzeros zero hzero
  exact Option.isSome_iff_exists.1 hsome

end

/-- Silent steps of four operators: a value that is there, a full integer that cannot grow, a zero
that finds a number below a key, and an item that is not there. -/
theorem applyUpdate_silent_stock :
    let d : Document := [("name", .string "nut"), ("sold", .int64 9223372036854775807),
      ("stock", .document [("left", .int32 4)]), ("tags", .array [.string "a"])]
    let update : Document := [("$set", .document [("name", .string "nut")]),
      ("$inc", .document [("sold", .int32 1), ("stock.left", .int32 0)]),
      ("$unset", .document [("gone", .string "")]), ("$pull", .document [("tags", .string "b")])]
    let left := (applyUpdate update d).doc
    let zeros : Document := [("stock.left", .int32 0)]
    applyUpdate update d = ⟨left, .ok false⟩ ∧ zeroIncrements update = zeros ∧
      applyFields "$inc" zeros d = ⟨left, .ok false⟩ ∧ Path.IsReadable "stock.left" ∧
      (∃ found, atPath? d "stock.left" = some found) ∧ left = d := by
  intro d update left zeros
  have hsilent : applyUpdate update d = ⟨left, .ok false⟩ := by rfl
  have hzero : isZeroAmount (.int32 0) = true := by decide +kernel
  have hone : isZeroAmount (.int32 1) = false := by decide +kernel
  have hzeros : zeroIncrements update = zeros := by
    simp [update, zeros, zeroIncrements, zerosOf, hzero, hone]
  have hreadable : Path.IsReadable "stock.left" := by decide
  obtain ⟨hrun, hfound, honly⟩ := applyUpdate_silent hsilent
  rw [hzeros] at hrun hfound honly
  have hleft : left = d := hfound (List.forall_mem_singleton.2 ⟨.int32 4, rfl, nofun⟩)
  exact ⟨hsilent, hzeros, hrun, hreadable,
    honly (List.forall_mem_singleton.2 hreadable) hleft _ List.mem_cons_self, hleft⟩

/-- An increment by zero adds a missing field and reports no change. -/
theorem not_forall_silent_same :
    ¬ ∀ (d update left : Document), applyUpdate update d = ⟨left, .ok false⟩ →
      left.same d = true := by
  intro h
  have hsame := h [("_id", .int32 1)] [("$inc", .document [("n", .int32 0)])]
    [("_id", .int32 1), ("n", .int32 0)] rfl
  cases hsame

end Mutation

end DocQuery
