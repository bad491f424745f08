import DocQuery.Proofs.Filter.Clauses
import DocQuery.Proofs.Mutation.Pushes
import DocQuery.Proofs.Value.Order
import DocQuery.Proofs.Value.Sameness
import DocQuery.Regex.Basic

/-!
# Pulls

A pull writes the items back that do not satisfy its condition, so a second one finds nothing to do.
An item that was pushed equals itself, so a pull of the pushed items takes all of them out again; if
it takes out no other, the array is written as it was.

## Main definitions

* `Mutation.isTaken`: an item satisfies the condition of a pull
* `Mutation.IsPull`: what a pull that succeeds leaves
* `Value.HasNoInnerNaN`: a value without a NaN inside an array or a document

## Main results

* `Mutation.keptItems_eq_ok_iff`: a pull keeps the items that do not satisfy its condition
* `Mutation.isPull_of_apply`: a pull that succeeds takes out the items that satisfy its condition
* `Mutation.IsPull.again`: a second pull changes nothing
* `Mutation.pull_undoes_push`: a pull of the pushed items undoes the push
-/

namespace DocQuery

/-! ## Values that equal themselves -/

/-- There is no NaN inside an array or a document; the value itself may be one. -/
def Value.HasNoInnerNaN (v : Value) : Prop := v.isNaN = true ∨ v.IsNaNFree

instance (v : Value) : Decidable v.HasNoInnerNaN := inferInstanceAs (Decidable (_ ∨ _))

/-- For a query a value equals itself, a NaN too, unless there is one inside. -/
theorem Value.equals_self {v : Value} (hnan : v.HasNoInnerNaN) (hkeys : v.HasUniqueKeys) :
    v.equals v = true := by
  unfold equals
  split
  · rw [compare_self]
    rfl
  · next hnumber =>
    obtain hisNaN | hfree := hnan
    · -- A NaN is a number.
      cases v with
      | double x => exact absurd rfl hnumber
      | _ => cases hisNaN
    · exact same_self v hfree hkeys

/-- A value satisfies a list of values that it is in. -/
theorem Condition.inMatches_of_mem {v : Value} {values : List Value} (hnan : v.HasNoInnerNaN)
    (hkeys : v.HasUniqueKeys) (hv : v ∈ values) : inMatches (some v) (.array values) = .ok true := by
  have hself := v.equals_self hnan hkeys
  have heq : eqMatches (some v) v = true := by
    cases v with
    | array items => exact hself
    | _ => exact hself
  exact congrArg Except.ok (List.any_eq_true.2 ⟨v, hv, heq⟩)

namespace Mutation

open Document

variable {d left : Document} {path : String} {cond item : Value} {items kept stored : List Value}
  {changed : Bool}

/-! ## Items -/

section

variable [Regex.Engine]

/-- An item satisfies the condition of a pull. -/
def isTaken (cond item : Value) : Bool := Verdict.isTrue (isPulled cond item)

/-- The condition of a pull has a verdict on every item of a list. -/
def HasVerdicts (cond : Value) (items : List Value) : Prop :=
  ∀ item ∈ items, isPulled cond item = .ok (isTaken cond item)

/-- The items that do not satisfy the condition of a pull, in order. -/
def remaining (cond : Value) (items : List Value) : List Value :=
  items.filter fun item => !isTaken cond item

theorem isTaken_of_ok {b : Bool} (h : isPulled cond item = .ok b) : isTaken cond item = b := by
  rw [isTaken, h]
  rfl

theorem remaining_cons (cond item : Value) (rest : List Value) :
    remaining cond (item :: rest) =
      if isTaken cond item then remaining cond rest else item :: remaining cond rest := by
  rw [remaining, List.filter_cons, remaining]
  cases isTaken cond item <;> rfl

/-- A pull keeps the items that do not satisfy its condition, if there is a verdict on each. -/
theorem keptItems_eq_ok_iff :
    keptItems cond items = .ok kept ↔ HasVerdicts cond items ∧ kept = remaining cond items := by
  induction items generalizing kept with
  | nil =>
    rw [keptItems, Except.ok.injEq]
    exact ⟨fun h => ⟨nofun, h.symm⟩, fun h => h.2.symm⟩
  | cons item rest ih =>
    rw [keptItems]
    constructor
    · intro h
      obtain ⟨taken, htaken, hrest⟩ := Except.bind_eq_ok_iff.1 h
      obtain ⟨more, hmore, heq⟩ := Except.bind_eq_ok_iff.1 hrest
      obtain ⟨hverdicts, rfl⟩ := ih.1 hmore
      have hitem := isTaken_of_ok htaken
      refine ⟨List.forall_mem_cons.2 ⟨hitem ▸ htaken, hverdicts⟩, ?_⟩
      cases heq
      rw [remaining_cons, hitem]
    · rintro ⟨hverdicts, rfl⟩
      obtain ⟨hitem, hrest⟩ := List.forall_mem_cons.1 hverdicts
      rw [hitem, ih.2 ⟨hrest, rfl⟩, remaining_cons]
      rfl

theorem length_remaining_eq_iff :
    (remaining cond items).length = items.length ↔ items.any (isTaken cond) = false := by
  rw [remaining, List.length_filter_eq_length_iff, List.any_eq_false]
  simp

theorem remaining_eq_self (h : items.any (isTaken cond) = false) : remaining cond items = items := by
  rw [remaining, List.filter_eq_self]
  simpa using h

theorem hasVerdicts_remaining (h : HasVerdicts cond items) : HasVerdicts cond (remaining cond items) :=
  fun item hitem => h item (List.mem_filter.1 hitem).1

theorem any_isTaken_remaining : (remaining cond items).any (isTaken cond) = false := by
  simp [remaining]

/-! ## One pull -/

/-- The step of a pull. -/
def pullStep (path : String) (cond : Value) : Step := ⟨.pull, path, cond⟩

/-- A pull writes the remaining items, unless all of them remain. -/
theorem decide_pullStep_eq_ok_iff {decision : Option Value × Bool} :
    (pullStep path cond).decide (some (.array items)) = .ok decision ↔ HasVerdicts cond items ∧
      decision = if items.any (isTaken cond) then (some (.array (remaining cond items)), true)
        else (none, false) := by
  have hdecide : (pullStep path cond).decide (some (.array items)) = do
      let kept ← keptItems cond items
      return if kept.length = items.length then (none, false) else (some (.array kept), true) := rfl
  rw [hdecide, Except.bind_eq_ok_iff]
  constructor
  · rintro ⟨kept, hkept, h⟩
    obtain ⟨hverdicts, rfl⟩ := keptItems_eq_ok_iff.1 hkept
    refine ⟨hverdicts, ?_⟩
    cases h
    simp only [length_remaining_eq_iff]
    cases items.any (isTaken cond) <;> rfl
  · rintro ⟨hverdicts, rfl⟩
    refine ⟨_, keptItems_eq_ok_iff.2 ⟨hverdicts, rfl⟩, ?_⟩
    simp only [length_remaining_eq_iff]
    cases items.any (isTaken cond) <;> rfl

/-- What a pull that succeeds leaves: of an array at its path the items that do not satisfy its
condition, in order, and a document without such an array as it was. -/
structure IsPull (d : Document) (path : String) (cond : Value) (left : Document) (changed : Bool) :
    Prop where
  array : ∀ items, atPath? d path = some (.array items) → HasVerdicts cond items ∧
    atPath? left path = some (.array (remaining cond items)) ∧
      changed = items.any (isTaken cond)
  other : (∀ items, atPath? d path ≠ some (.array items)) → left = d ∧ changed = false
  frame : ∀ q, Path.Diverge (Path.segments path) (Path.segments q) → atPath? left q = atPath? d q
  unchanged : changed = false → left = d

omit [Regex.Engine] in
theorem isReadable_of_atPath? {v : Value} (h : atPath? d path = some v) : Path.IsReadable path := by
  refine Decidable.byContradiction fun hpath => ?_
  rw [atPath?_of_not_isReadable hpath] at h
  cases h

/-- A pull that succeeds takes out the items that satisfy its condition, and no others. -/
theorem isPull_of_apply (h : (pullStep path cond).apply d = .ok (left, changed)) :
    IsPull d path cond left changed := by
  obtain ⟨value?, hdecide, hwrite⟩ := Step.apply_eq_ok_iff.1 h
  have hframe : ∀ q, Path.Diverge (Path.segments path) (Path.segments q) →
      atPath? left q = atPath? d q := fun q hq => atPath?_writeIfAny hq hwrite
  by_cases harray : ∃ items, atPath? d path = some (.array items)
  · obtain ⟨items, hread⟩ := harray
    rw [show (pullStep path cond).path = path from rfl, hread, decide_pullStep_eq_ok_iff] at hdecide
    obtain ⟨hverdicts, hdecision⟩ := hdecide
    have hitems : ∀ others, atPath? d path = some (.array others) → others = items := by
      intro others hothers
      cases hread.symm.trans hothers
      rfl
    cases hany : items.any (isTaken cond) with
    | false =>
      rw [hany] at hdecision
      cases hdecision
      cases hwrite
      refine ⟨fun others hothers => ?_, fun hnone => ⟨rfl, rfl⟩, hframe, fun _ => rfl⟩
      obtain rfl := hitems others hothers
      exact ⟨hverdicts, by rw [remaining_eq_self hany, hread], hany.symm⟩
    | true =>
      rw [hany] at hdecision
      cases hdecision
      refine ⟨fun others hothers => ?_, fun hnone => absurd hread (hnone items), hframe, nofun⟩
      obtain rfl := hitems others hothers
      exact ⟨hverdicts, atPath?_setPath_self (isReadable_of_atPath? hread) hwrite, hany.symm⟩
  · have hnone : ∀ items, atPath? d path ≠ some (.array items) :=
      fun items hread => harray ⟨items, hread⟩
    have hsilent : (pullStep path cond).decide (atPath? d path) = .ok (none, false) := by
      cases hread : atPath? d path with
      | none => rfl
      | some v =>
        cases v with
        | array items => exact absurd hread (hnone items)
        | _ => rfl
    cases hsilent.symm.trans hdecide
    cases hwrite
    exact ⟨fun items hread => absurd hread (hnone items), fun _ => ⟨rfl, rfl⟩, hframe, fun _ => rfl⟩

/-- A second pull changes nothing. -/
theorem IsPull.again (h : IsPull d path cond left changed) :
    (pullStep path cond).apply left = .ok (left, false) := by
  refine Step.apply_eq_ok_iff.2 ⟨none, ?_, rfl⟩
  change (pullStep path cond).decide (atPath? left path) = .ok (none, false)
  by_cases harray : ∃ items, atPath? d path = some (.array items)
  · obtain ⟨items, hread⟩ := harray
    obtain ⟨hverdicts, hleft, -⟩ := h.array items hread
    rw [hleft, decide_pullStep_eq_ok_iff, any_isTaken_remaining]
    exact ⟨hasVerdicts_remaining hverdicts, rfl⟩
  · obtain ⟨rfl, -⟩ := h.other fun items hread => harray ⟨items, hread⟩
    cases hread : atPath? left path with
    | none => rfl
    | some v =>
      cases v with
      | array items => exact absurd ⟨items, hread⟩ harray
      | _ => rfl

/-! ## Pulls as updates -/

/-- A mutation document with one pull is its step. -/
theorem applyUpdate_pull (path : String) (cond : Value) (d : Document) :
    applyUpdate [("$pull", .document [(path, cond)])] d = runSteps [pullStep path cond] d :=
  applyUpdate_filterMap [(.pull, [(path, cond)])] d

theorem runSteps_singleton_eq_ok_iff {s : Step} :
    runSteps [s] d = ⟨left, .ok changed⟩ ↔ s.apply d = .ok (left, changed) := by
  rw [runSteps_cons_eq_ok_iff]
  constructor
  · rintro ⟨next, c, c', happly, hrun, rfl⟩
    cases hrun
    rw [Bool.or_false]
    exact happly
  · intro happly
    exact ⟨left, changed, false, happly, rfl, (Bool.or_false changed).symm⟩

/-! ## Pushed items -/

/-- The condition of a pull of a list of values. -/
def anyOf (values : List Value) : Value := .document [("$in", .array values)]

/-- A pull of a list of values takes the items that are in the list, as a query sees it. -/
theorem isPulled_anyOf (values : List Value) (item : Value) :
    isPulled (anyOf values) item =
      Condition.fieldMatches (some item) [("$in", .array values)] [] := by
  have hoperator : Condition.isOperatorDoc [("$in", .array values)] = true := by
    have hkey : Expression.isOperatorKey "$in" = true := by decide
    simp [Condition.isOperatorDoc, hkey]
  unfold isPulled anyOf
  exact if_pos hoperator

/-- An item that is in the list is taken, a NaN too, unless there is one inside. -/
theorem isPulled_anyOf_of_mem (hnan : item.HasNoInnerNaN) (hkeys : item.HasUniqueKeys)
    (hitem : item ∈ items) : isPulled (anyOf items) item = .ok true := by
  rw [isPulled_anyOf, Condition.fieldMatches_in]
  exact Condition.inMatches_of_mem hnan hkeys hitem

section Append

variable {old new : List Value} (hold : ∀ item ∈ old, isTaken cond item = false)
  (hnew : ∀ item ∈ new, isTaken cond item = true)
include hold hnew

/-- If no old item satisfies the condition of a pull and every new one does, the old items remain. -/
theorem remaining_append : remaining cond (old ++ new) = old := by
  rw [remaining, List.filter_append, List.filter_eq_self.2, List.filter_eq_nil_iff.2,
    List.append_nil]
  · simpa using hnew
  · simpa using hold

theorem any_isTaken_append : (old ++ new).any (isTaken cond) = !new.isEmpty := by
  have hnone : old.any (isTaken cond) = false :=
    List.any_eq_false.2 fun item hitem => Bool.eq_false_iff.1 (hold item hitem)
  rw [List.any_append, hnone, Bool.false_or]
  cases new with
  | nil => rfl
  | cons item rest => rw [List.any_cons, hnew item List.mem_cons_self]; rfl

end Append

/-- A pull of what was pushed onto an array leaves the document as it was. -/
theorem exists_apply_push_pull (hpath : Path.IsReadable path)
    (hreach : reach? d (Path.segments path) = some (.array stored))
    (hvalues : ∀ v ∈ items, v.HasNoInnerNaN ∧ v.HasUniqueKeys)
    (hstored : ∀ item ∈ stored,
      Condition.fieldMatches (some item) [("$in", .array items)] [] = .ok false) :
    ∃ pushed, (pushStep path items).apply d = .ok (pushed, !items.isEmpty) ∧
      (pullStep path (anyOf items)).apply pushed = .ok (d, !items.isEmpty) := by
  have hread := atPath?_of_reach? hpath hreach
  have hdecide := Step.decide_push path items (.inl hread)
  have hold : ∀ item ∈ stored, isPulled (anyOf items) item = .ok false := fun item hitem =>
    (isPulled_anyOf items item).trans (hstored item hitem)
  have hnew : ∀ item ∈ items, isPulled (anyOf items) item = .ok true := fun item hitem =>
    isPulled_anyOf_of_mem (hvalues item hitem).1 (hvalues item hitem).2 hitem
  have hverdicts : HasVerdicts (anyOf items) (stored ++ items) := by
    intro item hitem
    obtain hitem | hitem := List.mem_append.1 hitem
    · rw [isTaken_of_ok (hold item hitem), hold item hitem]
    · rw [isTaken_of_ok (hnew item hitem), hnew item hitem]
  have htaken := fun item hitem => isTaken_of_ok (hold item hitem)
  have hfresh := fun item hitem => isTaken_of_ok (hnew item hitem)
  have hpull : (pullStep path (anyOf items)).decide (some (.array (stored ++ items))) = .ok _ :=
    decide_pullStep_eq_ok_iff.2 ⟨hverdicts, rfl⟩
  rw [any_isTaken_append htaken hfresh, remaining_append htaken hfresh] at hpull
  cases hitems : items.isEmpty with
  | true =>
    -- Nothing is pushed, and nothing is taken out.
    obtain rfl := List.isEmpty_iff.1 hitems
    rw [List.append_nil] at hpull
    exact ⟨d, Step.apply_eq_ok_iff.2 ⟨none, hdecide, rfl⟩,
      Step.apply_eq_ok_iff.2 ⟨none, (congrArg (pullStep path _).decide hread).trans hpull, rfl⟩⟩
  | false =>
    rw [hitems] at hdecide hpull
    obtain ⟨pushed, hpushed⟩ : ∃ pushed, setPath d path (.array (stored ++ items)) = .ok pushed :=
      exists_setSegments_iff.2 (not_isBlocked_of_reach? hreach)
    have hback : setPath pushed path (.array stored) = .ok d :=
      (setSegments_setSegments hpushed _).trans (setSegments_of_reach? hreach)
    have hread' := atPath?_setPath_self hpath hpushed
    exact ⟨pushed, Step.apply_eq_ok_iff.2 ⟨_, hdecide, hpushed⟩,
      Step.apply_eq_ok_iff.2 ⟨_, (congrArg (pullStep path _).decide hread').trans hpull, hback⟩⟩

/-- A pull of what was pushed undoes the push: in updates of their own, one after the other, and in
one update, in whichever order they were added to it. And a pull by any condition that succeeds
takes out the items that satisfy it and no others, after which a second one changes nothing. -/
theorem pull_undoes_push :
    (∀ (d : Document) (path pushLabel pullLabel : String) (stored values : List Value),
      Path.IsReadable path → reach? d (Path.segments path) = some (.array stored) →
      (∀ v ∈ values, v.HasNoInnerNaN ∧ v.HasUniqueKeys) →
      (∀ item ∈ stored,
        Condition.fieldMatches (some item) [("$in", .array values)] [] = .ok false) →
      let push : String × UpdateValue := (pushLabel, .push ⟨path, values⟩)
      let pull : String × UpdateValue := (pullLabel, .pull ⟨path, .array values⟩)
      (∃ pushed, applyUpdate (Update.fields [push]).decompose d = ⟨pushed, .ok !values.isEmpty⟩ ∧
          applyUpdate (Update.fields [pull]).decompose pushed = ⟨d, .ok !values.isEmpty⟩) ∧
        applyUpdate (Update.fields [push, pull]).decompose d = ⟨d, .ok !values.isEmpty⟩ ∧
        applyUpdate (Update.fields [pull, push]).decompose d = ⟨d, .ok !values.isEmpty⟩) ∧
      ∀ (d left : Document) (path : String) (cond : Value) (changed : Bool),
        applyUpdate [("$pull", .document [(path, cond)])] d = ⟨left, .ok changed⟩ →
          IsPull d path cond left changed ∧
            applyUpdate [("$pull", .document [(path, cond)])] left = ⟨left, .ok false⟩ := by
  constructor
  · intro d path pushLabel pullLabel stored values hpath hreach hvalues hstored push pull
    obtain ⟨pushed, hpush, hpull⟩ := exists_apply_push_pull hpath hreach hvalues hstored
    -- In one update the pushes run before the pulls.
    have hboth : runSteps [pushStep path values, pullStep path (anyOf values)] d =
        ⟨d, .ok !values.isEmpty⟩ :=
      runSteps_cons_eq_ok_iff.2 ⟨pushed, _, _, hpush, runSteps_singleton_eq_ok_iff.2 hpull,
        (Bool.or_self _).symm⟩
    refine ⟨⟨pushed, ?_, ?_⟩, ?_, ?_⟩
    · rw [Update.applyUpdate_decompose_singleton]
      exact runSteps_singleton_eq_ok_iff.2 hpush
    · rw [Update.applyUpdate_decompose_singleton]
      exact runSteps_singleton_eq_ok_iff.2 hpull
    · rw [Update.applyUpdate_decompose]
      exact hboth
    · rw [Update.applyUpdate_decompose]
      exact hboth
  · intro d left path cond changed h
    rw [applyUpdate_pull, runSteps_singleton_eq_ok_iff] at h
    have hpull := isPull_of_apply h
    rw [applyUpdate_pull, runSteps_singleton_eq_ok_iff]
    exact ⟨hpull, hpull.again⟩

end

/-- A NaN, a number, an array and a document pushed and pulled, and a pull by a range. -/
theorem pull_undoes_push_samples :
    let d : Document := [("a", .document [("tags", .array [.int32 1, .string "x"])]), ("z", .null)]
    let values : List Value := [.double ⟨0x7ff8000000000000⟩, .int64 2, .array [.int32 1],
      .document [("k", .string "x"), ("l", .array [])]]
    let push : String × UpdateValue := ("p", .push ⟨"a.tags", values⟩)
    let pull : String × UpdateValue := ("q", .pull ⟨"a.tags", .array values⟩)
    let above : Document :=
      [("$pull", .document [("names", .document [("$gt", .string "m")])])]
    let full : Document := [("names", .array [.string "n", .null, .string "a", .string "z"])]
    let left : Document := [("names", .array [.null, .string "a"])]
    Path.IsReadable "a.tags" ∧
      reach? d (Path.segments "a.tags") = some (.array [.int32 1, .string "x"]) ∧
      (∀ v ∈ values, v.HasNoInnerNaN ∧ v.HasUniqueKeys) ∧
      (∀ item ∈ [Value.int32 1, .string "x"],
        Condition.fieldMatches (some item) [("$in", .array values)] [] = .ok false) ∧
      applyUpdate (Update.fields [pull, push]).decompose d = ⟨d, .ok true⟩ ∧
      applyUpdate above full = ⟨left, .ok true⟩ ∧ applyUpdate above left = ⟨left, .ok false⟩ := by
  intro d values push pull above full left
  have hpath : Path.IsReadable "a.tags" := by decide
  have hreach : reach? d (Path.segments "a.tags") = some (.array [.int32 1, .string "x"]) := rfl
  have hvalues : ∀ v ∈ values, v.HasNoInnerNaN ∧ v.HasUniqueKeys := by decide
  have hstored : ∀ item ∈ [Value.int32 1, .string "x"],
      Condition.fieldMatches (some item) [("$in", .array values)] [] = .ok false := by
    have hnone : ∀ item ∈ [Value.int32 1, .string "x"],
        values.any (Condition.eqMatches (some item)) = false := by decide +kernel
    intro item hitem
    rw [Condition.fieldMatches_in, hnone item hitem]
  have habove : applyUpdate above full = ⟨left, .ok true⟩ := rfl
  obtain ⟨-, -, hboth⟩ := pull_undoes_push.1 d "a.tags" "p" "q" _ values hpath hreach hvalues hstored
  obtain ⟨-, hagain⟩ := pull_undoes_push.2 full left "names" _ true habove
  exact ⟨hpath, hreach, hvalues, hstored, hboth, habove, hagain⟩

end Mutation

end DocQuery
