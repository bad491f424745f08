import DocQuery.Proofs.Group.Extremes

/-!
# Ties between extremes

Values of different widths and contents compare equal, so that a list can have many greatest values.
Accumulating takes the one at the last position, and of the least values the one at the first. An
extreme together with this rule for its position is a single value, so that the rule says exactly
what is accumulated.

## Main definitions

* `Group.IsExtremeAt`: the extreme of the values that are present, and its position in the list
* `Group.IsExtremeOrNull`: this extreme, or null if no value is present

## Main results

* `Group.IsExtremeOrNull.unique`: a list has one such value at most
* `Group.exists_position`: where a value of those that are present stands in the list
* `Group.accumulate_extremes`: the accumulated extremes are these values
-/

namespace DocQuery

namespace Value

theorem isPresent_eq_false_iff {v : Value} : v.isPresent = false ↔ v = .null ∨ v = .undefined := by
  cases v <;> simp [isPresent]

/-- Two values neither of which is beyond the other compare equal. -/
theorem compare_eq_of_ne {beyond : Ordering} (hbeyond : beyond ≠ .eq) {v w : Value}
    (hvw : v.compare w ≠ beyond) (hwv : w.compare v ≠ beyond) : v.compare w = .eq := by
  rw [compare_swap v w] at hwv
  revert hbeyond hvw hwv
  cases v.compare w <;> cases beyond <;> decide

end Value

namespace Group

open Value (isPresent)

/-- A value that is present stands at a position, and no value that is present is beyond it. Every
position of one that compares equal with it is `tie`-related to its own. -/
structure IsExtremeAt (beyond : Ordering) (tie : Nat → Nat → Prop) (values : List Value)
    (position : Nat) (best : Value) : Prop where
  getElem?_eq : values[position]? = some best
  present : best.isPresent = true
  leads {i : Nat} {v : Value} : values[i]? = some v → v.isPresent = true →
    v.compare best ≠ beyond ∧ (v.compare best = .eq → tie i position)

/-- Null if every value is null or undefined, and an extreme at its position if not. -/
def IsExtremeOrNull (beyond : Ordering) (tie : Nat → Nat → Prop) (values : List Value)
    (v : Value) : Prop :=
  (∀ x ∈ values, x = .null ∨ x = .undefined) ∧ v = .null ∨
    ∃ position, IsExtremeAt beyond tie values position v

variable {beyond : Ordering} {tie : Nat → Nat → Prop} {values : List Value} {best v w : Value}
  {i j : Nat}

/-! ## One value at most -/

theorem IsExtremeAt.not_forall_absent (h : IsExtremeAt beyond tie values i v) :
    ¬ ∀ x ∈ values, x = .null ∨ x = .undefined := by
  intro habsent
  have hv := Value.isPresent_eq_false_iff.2 (habsent v (List.mem_of_getElem? h.getElem?_eq))
  exact Bool.false_ne_true (hv.symm.trans h.present)

section Unique

variable (hbeyond : beyond ≠ .eq) (htie : ∀ i j, tie i j → tie j i → i = j)
include hbeyond htie

/-- Two extremes compare equal, so that their positions are related both ways. -/
theorem IsExtremeAt.unique (hv : IsExtremeAt beyond tie values i v)
    (hw : IsExtremeAt beyond tie values j w) : v = w := by
  obtain ⟨hvw, hij⟩ := hw.leads hv.getElem?_eq hv.present
  obtain ⟨hwv, hji⟩ := hv.leads hw.getElem?_eq hw.present
  have heq : i = j := htie i j (hij (Value.compare_eq_of_ne hbeyond hvw hwv))
    (hji (Value.compare_eq_of_ne hbeyond hwv hvw))
  subst heq
  exact Option.some.inj (hv.getElem?_eq.symm.trans hw.getElem?_eq)

theorem IsExtremeOrNull.unique (hv : IsExtremeOrNull beyond tie values v)
    (hw : IsExtremeOrNull beyond tie values w) : v = w := by
  obtain ⟨habsent, rfl⟩ | ⟨i, hv⟩ := hv
  · obtain ⟨-, rfl⟩ | ⟨j, hw⟩ := hw
    · rfl
    · exact absurd habsent hw.not_forall_absent
  · obtain ⟨habsent, -⟩ | ⟨j, hw⟩ := hw
    · exact absurd habsent hv.not_forall_absent
    · exact hv.unique hbeyond htie hw

end Unique

/-! ## Where an extreme stands -/

/-- A value of those that are present stands at a position in the list. What is known of those
before it holds at smaller positions, and what is known of those behind it at greater ones. -/
theorem exists_position {before after : List Value} {early late : Value → Prop}
    (h : values.filter isPresent = before ++ best :: after) (hbefore : ∀ v ∈ before, early v)
    (hafter : ∀ v ∈ after, late v) :
    ∃ position : Nat, values[position]? = some best ∧ best.isPresent = true ∧
      ∀ (i : Nat) (v : Value), values[i]? = some v → v.isPresent = true →
        i < position ∧ early v ∨ i = position ∧ v = best ∨ position < i ∧ late v := by
  obtain ⟨front, rest, rfl, hfront, hrest⟩ := List.filter_eq_append_iff.1 h
  -- Values that are not present can stand right before this one.
  obtain ⟨gap, back, rfl, hgap, hpresent, hback⟩ := List.filter_eq_cons_iff.1 hrest
  rw [← List.append_assoc]
  have hat : (front ++ gap ++ best :: back)[(front ++ gap).length]? = some best := by
    rw [List.getElem?_append_right (Nat.le_refl _), Nat.sub_self]
    rfl
  refine ⟨(front ++ gap).length, hat, hpresent, fun i v hi hv => ?_⟩
  obtain hlt | rfl | hgt := Nat.lt_trichotomy i (front ++ gap).length
  · rw [List.getElem?_append_left hlt] at hi
    obtain hmem | hmem := List.mem_append.1 (List.mem_of_getElem? hi)
    · exact .inl ⟨hlt, hbefore v (hfront ▸ List.mem_filter.2 ⟨hmem, hv⟩)⟩
    · exact absurd hv (hgap v hmem)
  · exact .inr (.inl ⟨rfl, Option.some.inj (hi.symm.trans hat)⟩)
  · obtain ⟨distance, rfl⟩ := Nat.exists_eq_add_of_lt hgt
    rw [List.getElem?_append_right (by omega), Nat.add_assoc, Nat.add_sub_cancel_left,
      List.getElem?_cons_succ] at hi
    have hmem := List.mem_filter.2 ⟨List.mem_of_getElem? hi, hv⟩
    exact .inr (.inr ⟨hgt, hafter v (hback ▸ hmem)⟩)

theorem IsLastGreatest.exists_isExtremeAt (h : IsLastGreatest (values.filter isPresent) best) :
    ∃ position, IsExtremeAt .gt (· ≤ ·) values position best := by
  obtain ⟨before, after, heq, hbefore, hafter⟩ := h
  obtain ⟨position, hat, hpresent, hsides⟩ := exists_position heq hbefore hafter
  refine ⟨position, hat, hpresent, fun {i v} hi hv => ?_⟩
  obtain ⟨hlt, hle⟩ | ⟨rfl, rfl⟩ | ⟨-, hless⟩ := hsides i v hi hv
  · exact ⟨hle, fun _ => Nat.le_of_lt hlt⟩
  · rw [Value.compare_self]
    exact ⟨nofun, fun _ => Nat.le_refl i⟩
  · rw [hless]
    exact ⟨nofun, nofun⟩

theorem IsFirstLeast.exists_isExtremeAt (h : IsFirstLeast (values.filter isPresent) best) :
    ∃ position, IsExtremeAt .lt (· ≥ ·) values position best := by
  obtain ⟨before, after, heq, hbefore, hafter⟩ := h
  obtain ⟨position, hat, hpresent, hsides⟩ := exists_position heq hbefore hafter
  refine ⟨position, hat, hpresent, fun {i v} hi hv => ?_⟩
  obtain ⟨-, hmore⟩ | ⟨rfl, rfl⟩ | ⟨hgt, hge⟩ := hsides i v hi hv
  · rw [hmore]
    exact ⟨nofun, nofun⟩
  · rw [Value.compare_self]
    exact ⟨nofun, fun _ => Nat.le_refl i⟩
  · exact ⟨hge, fun _ => Nat.le_of_lt hgt⟩

/-! ## Accumulated values -/

theorem forall_absent (h : values.filter isPresent = []) :
    ∀ x ∈ values, x = .null ∨ x = .undefined := fun x hx =>
  Value.isPresent_eq_false_iff.1 (Bool.eq_false_iff.2 (List.filter_eq_nil_iff.1 h x hx))

theorem IsExtreme.greatestOrNull (h : IsExtreme .greatest values v) :
    IsExtremeOrNull .gt (· ≤ ·) values v := by
  obtain ⟨hnil, rfl⟩ | ⟨-, hgreatest⟩ | ⟨hmeasure, -⟩ := h
  · exact .inl ⟨forall_absent hnil, rfl⟩
  · exact .inr hgreatest.exists_isExtremeAt
  · cases hmeasure

theorem IsExtreme.leastOrNull (h : IsExtreme .least values v) :
    IsExtremeOrNull .lt (· ≥ ·) values v := by
  obtain ⟨hnil, rfl⟩ | ⟨hmeasure, -⟩ | ⟨-, hleast⟩ := h
  · exact .inl ⟨forall_absent hnil, rfl⟩
  · cases hmeasure
  · exact .inr hleast.exists_isExtremeAt

/-- A list without decimal numbers and symbols always has accumulated extremes. They are null if
every value is null or undefined. Otherwise the greatest is a value that is neither and that no
other such value is above, the last of those that compare equal; the least is one that none is
below, the first of those that compare equal. No other values are like this. -/
theorem accumulate_extremes (h : ∀ v ∈ values, v.isGraded = true) :
    (∃ greatest, accumulate "$max" values = .ok greatest ∧
        ∀ v, IsExtremeOrNull .gt (· ≤ ·) values v ↔ v = greatest) ∧
      ∃ least, accumulate "$min" values = .ok least ∧
        ∀ v, IsExtremeOrNull .lt (· ≥ ·) values v ↔ v = least := by
  have hgreatestOp : accumulator? .greatest = some "$max" := rfl
  have hleastOp : accumulator? .least = some "$min" := rfl
  obtain ⟨greatest, hmax, hgreatest⟩ := accumulate_eq hgreatestOp h
  obtain ⟨least, hmin, hleast⟩ := accumulate_eq hleastOp h
  have hlast := hgreatest.greatestOrNull
  have hfirst := hleast.leastOrNull
  refine ⟨⟨greatest, hmax, fun v => ⟨fun hv => ?_, fun hv => hv ▸ hlast⟩⟩,
    least, hmin, fun v => ⟨fun hv => ?_, fun hv => hv ▸ hfirst⟩⟩
  · exact hv.unique (by decide) (fun _ _ => Nat.le_antisymm) hlast
  · exact hv.unique (by decide) (fun _ _ hge hle => Nat.le_antisymm hle hge) hfirst

/-- The two arrays compare equal, and the last one is taken. So do the three numbers, each of another
width, and the first one is taken. -/
theorem accumulate_extremes_mixed :
    let values : List Value := [.null, .int32 1, .array [.null], .double ⟨0x3FF0000000000000⟩,
      .string "a", .undefined, .array [], .int64 1]
    (∀ v ∈ values, v.isGraded = true) ∧
      accumulate "$max" values = .ok (.array []) ∧ accumulate "$min" values = .ok (.int32 1) ∧
      (∀ v, IsExtremeOrNull .gt (· ≤ ·) values v ↔ v = .array []) ∧
      ∀ v, IsExtremeOrNull .lt (· ≥ ·) values v ↔ v = .int32 1 := by
  intro values
  have h : ∀ v ∈ values, v.isGraded = true := by decide
  have hpresent : values.filter isPresent = [.int32 1, .array [.null],
      .double ⟨0x3FF0000000000000⟩, .string "a", .array [], .int64 1] := rfl
  have hmax : accumulate "$max" values = .ok (.array []) := rfl
  have hdouble : (Value.int32 1).compare (.double ⟨0x3FF0000000000000⟩) = .eq := by decide +kernel
  have hint64 : (Value.int32 1).compare (.int64 1) = .eq := by decide +kernel
  have hstring : (Value.int32 1).compare (.string "a") = .lt := rfl
  have harray (items : List Value) : (Value.int32 1).compare (.array items) = .lt := rfl
  have hmin : accumulate "$min" values = .ok (.int32 1) := by
    simp [accumulate, hpresent, least?, hdouble, hint64, hstring, harray]
  obtain ⟨⟨greatest, hgreatest, hlast⟩, least, hleast, hfirst⟩ := accumulate_extremes h
  obtain rfl := Except.ok.inj (hmax.symm.trans hgreatest)
  obtain rfl := Except.ok.inj (hmin.symm.trans hleast)
  exact ⟨h, hmax, hmin, hlast, hfirst⟩

/-- A symbol compares equal with every string, and the last of two strings on its sides is taken. -/
example : accumulate "$max" [.string "b", .symbol "m", .string "a"] = .ok (.string "a") := rfl

end Group

end DocQuery
