import DocQuery.Proofs.Document.Fields
import DocQuery.Proofs.Expression.References
import DocQuery.Proofs.Pipeline.Rows
import DocQuery.Proofs.Value.Order

/-!
# Extremes of groups

Greatest and least values are found by going through a list with the best value so far. As long as
the order is transitive on the list, the result stands between values that it does not yield to and
values that do not replace it: the last of the greatest, the first of the least.

## Main definitions

* `Group.IsKept`: the value that is left of a list when each value is kept or passed over
* `Group.IsExtreme`: the extreme of the values that are present, or null if none is

## Main results

* `Group.isKept_foldl`: going through a list leaves such a value
* `Group.accumulate_eq`: the accumulated extremes
* `Group.run_computed`: the row of a measure over all rows
-/

namespace DocQuery.Group

open Value (isGraded isPresent)

/-! ## One value of many -/

/-- A value is left of a list: those before it were passed over, and it was kept against those
behind it. -/
def IsKept (keep : Value → Value → Bool) (values : List Value) (best : Value) : Prop :=
  ∃ before after, values = before ++ best :: after ∧
    (∀ v ∈ before, keep v best = false) ∧ ∀ v ∈ after, keep best v = true

/-- Keeping a value and passing it over are transitive on graded values. -/
structure IsOrderly (keep : Value → Value → Bool) : Prop where
  pass {a b c : Value} : b.isGraded = true → c.isGraded = true → keep a b = false →
    keep b c = false → keep a c = false
  outlast {a b c : Value} : a.isGraded = true → b.isGraded = true → keep a b = true →
    keep a c = false → keep b c = false

variable {keep : Value → Value → Bool} {values : List Value} {best v x : Value}

theorem IsKept.mem (h : IsKept keep values best) : best ∈ values := by
  obtain ⟨before, after, rfl, -, -⟩ := h
  exact List.mem_append_right before List.mem_cons_self

/-- A value that the first one is kept against can stand behind it. -/
theorem IsKept.insert (hkeep : IsOrderly keep) (hv : v.isGraded = true) (hx : x.isGraded = true)
    (h : IsKept keep (v :: values) best) (hvx : keep v x = true) :
    IsKept keep (v :: x :: values) best := by
  obtain ⟨before, after, heq, hbefore, hafter⟩ := h
  cases before with
  | nil =>
    obtain ⟨rfl, rfl⟩ := List.cons.inj heq
    exact ⟨[], x :: values, rfl, nofun, List.forall_mem_cons.2 ⟨hvx, hafter⟩⟩
  | cons first before =>
    obtain ⟨rfl, rfl⟩ := List.cons.inj heq
    obtain ⟨hfirst, hrest⟩ := List.forall_mem_cons.1 hbefore
    refine ⟨v :: x :: before, after, rfl, ?_, hafter⟩
    exact List.forall_mem_cons.2
      ⟨hfirst, List.forall_mem_cons.2 ⟨hkeep.outlast hv hx hvx hfirst, hrest⟩⟩

/-- A value that is passed over for the first one can stand before it. -/
theorem IsKept.cons (hkeep : IsOrderly keep) (hx : x.isGraded = true)
    (hvalues : ∀ y ∈ values, y.isGraded = true) (h : IsKept keep (x :: values) best)
    (hvx : keep v x = false) : IsKept keep (v :: x :: values) best := by
  have hall : ∀ y ∈ x :: values, y.isGraded = true := List.forall_mem_cons.2 ⟨hx, hvalues⟩
  have hbest := hall best h.mem
  obtain ⟨before, after, heq, hbefore, hafter⟩ := h
  refine ⟨v :: before, after, congrArg (v :: ·) heq, List.forall_mem_cons.2 ⟨?_, hbefore⟩, hafter⟩
  cases before with
  | nil =>
    obtain ⟨rfl, -⟩ := List.cons.inj heq
    exact hvx
  | cons first before =>
    obtain ⟨rfl, -⟩ := List.cons.inj heq
    exact hkeep.pass hx hbest hvx (hbefore x List.mem_cons_self)

/-- Going through a list with the best value so far leaves a value of the list. -/
theorem isKept_foldl (hkeep : IsOrderly keep) (hv : v.isGraded = true)
    (hvalues : ∀ y ∈ values, y.isGraded = true) :
    IsKept keep (v :: values) (values.foldl (fun best x => if keep best x then best else x) v) := by
  induction values generalizing v with
  | nil => exact ⟨[], [], rfl, nofun, nofun⟩
  | cons x rest ih =>
    obtain ⟨hx, hrest⟩ := List.forall_mem_cons.1 hvalues
    rw [List.foldl_cons]
    by_cases hvx : keep v x = true
    · rw [if_pos hvx]
      exact (ih hv hrest).insert hkeep hv hx hvx
    · rw [if_neg hvx]
      exact (ih hx hrest).cons hkeep hx hrest (Bool.eq_false_iff.2 hvx)

/-! ## The two extremes -/

/-- The last of the greatest values of a list. -/
def IsLastGreatest (values : List Value) (best : Value) : Prop :=
  ∃ before after, values = before ++ best :: after ∧
    (∀ v ∈ before, v.compare best ≠ .gt) ∧ ∀ v ∈ after, v.compare best = .lt

/-- The first of the least values of a list. -/
def IsFirstLeast (values : List Value) (best : Value) : Prop :=
  ∃ before after, values = before ++ best :: after ∧
    (∀ v ∈ before, v.compare best = .gt) ∧ ∀ v ∈ after, v.compare best ≠ .lt

/-- The extreme of the values that are present, or null if none is. -/
def IsExtreme (measure : Measure) (values : List Value) (v : Value) : Prop :=
  values.filter isPresent = [] ∧ v = .null ∨
    measure = .greatest ∧ IsLastGreatest (values.filter isPresent) v ∨
    measure = .least ∧ IsFirstLeast (values.filter isPresent) v

theorem IsLastGreatest.compare_ne_gt (h : IsLastGreatest values best) (hv : v ∈ values) :
    v.compare best ≠ .gt := by
  obtain ⟨before, after, rfl, hbefore, hafter⟩ := h
  obtain hv | hv := List.mem_append.1 hv
  · exact hbefore v hv
  · obtain rfl | hv := List.mem_cons.1 hv
    · rw [Value.compare_self]
      nofun
    · rw [hafter v hv]
      nofun

/-- No value that is present stands above the greatest. -/
theorem IsExtreme.compare_ne_gt (h : IsExtreme .greatest values best) (hv : v ∈ values)
    (hpresent : v.isPresent = true) : v.compare best ≠ .gt := by
  have hmem : v ∈ values.filter isPresent := List.mem_filter.2 ⟨hv, hpresent⟩
  obtain ⟨hnil, -⟩ | ⟨-, hgreatest⟩ | ⟨hmeasure, -⟩ := h
  · rw [hnil] at hmem
    cases hmem
  · exact hgreatest.compare_ne_gt hmem
  · cases hmeasure

/-- Whether a value stands above another. -/
def isAbove (a b : Value) : Bool := a.compare b == .gt

theorem isAbove_eq_true_iff {a b : Value} : isAbove a b = true ↔ a.compare b = .gt := beq_iff_eq

theorem isAbove_eq_false_iff {a b : Value} : isAbove a b = false ↔ a.compare b ≠ .gt :=
  beq_eq_false_iff_ne

theorem compare_eq_lt_iff {a b : Value} : a.compare b = .lt ↔ b.compare a = .gt := by
  rw [Value.compare_swap b a, Ordering.swap_eq_lt]

theorem isOrderly_isAbove : IsOrderly isAbove where
  pass hb _ hab hbc := by
    rw [isAbove_eq_false_iff] at *
    exact Value.compare_trans hb hab hbc
  outlast ha _ hab hac := by
    rw [isAbove_eq_false_iff] at *
    have hba := compare_eq_lt_iff.2 (isAbove_eq_true_iff.1 hab)
    exact Value.compare_trans ha (by rw [hba]; nofun) hac

theorem isOrderly_not_isAbove : IsOrderly fun a b => !isAbove a b where
  pass _ hc hab hbc := by
    simp only [Bool.not_eq_false', isAbove_eq_true_iff] at *
    have hcb := compare_eq_lt_iff.2 hbc
    refine Decidable.byContradiction fun hac => ?_
    exact Value.compare_trans hc hac (by rw [hcb]; nofun) hab
  outlast _ hb hab hac := by
    simp only [Bool.not_eq_false', Bool.not_eq_true', isAbove_eq_true_iff,
      isAbove_eq_false_iff] at *
    refine Decidable.byContradiction fun hbc => ?_
    exact Value.compare_trans hb hab hbc hac

theorem IsKept.isLastGreatest (h : IsKept isAbove values best) : IsLastGreatest values best := by
  obtain ⟨before, after, heq, hbefore, hafter⟩ := h
  exact ⟨before, after, heq, fun v hv => isAbove_eq_false_iff.1 (hbefore v hv),
    fun v hv => compare_eq_lt_iff.2 (isAbove_eq_true_iff.1 (hafter v hv))⟩

theorem IsKept.isFirstLeast (h : IsKept (fun a b => !isAbove a b) values best) :
    IsFirstLeast values best := by
  obtain ⟨before, after, heq, hbefore, hafter⟩ := h
  simp only [Bool.not_eq_false', Bool.not_eq_true', isAbove_eq_true_iff,
    isAbove_eq_false_iff] at hbefore hafter
  refine ⟨before, after, heq, hbefore, fun v hv hlt => hafter v hv (compare_eq_lt_iff.1 hlt)⟩

theorem greatest?_cons (hv : v.isGraded = true) (hvalues : ∀ y ∈ values, y.isGraded = true) :
    ∃ best, greatest? (v :: values) = some best ∧ IsLastGreatest (v :: values) best :=
  ⟨_, rfl, (isKept_foldl isOrderly_isAbove hv hvalues).isLastGreatest⟩

theorem least?_cons (hv : v.isGraded = true) (hvalues : ∀ y ∈ values, y.isGraded = true) :
    ∃ best, least? (v :: values) = some best ∧ IsFirstLeast (v :: values) best := by
  have hstep : (fun best x => if !isAbove best x then best else x) =
      fun best x => if best.compare x == .gt then x else best := by
    funext best x
    unfold isAbove
    cases best.compare x == .gt <;> rfl
  have hkept := (isKept_foldl isOrderly_not_isAbove hv hvalues).isFirstLeast
  rw [hstep] at hkept
  exact ⟨_, rfl, hkept⟩

/-! ## Accumulated extremes -/

/-- The accumulator of an extreme. -/
def accumulator? : Measure → Option String
  | .greatest => some "$max"
  | .least => some "$min"
  | _ => none

/-- The accumulated value is the extreme. -/
theorem accumulate_eq {measure : Measure} {op : String} (hop : accumulator? measure = some op)
    (h : ∀ v ∈ values, v.isGraded = true) :
    ∃ v, accumulate op values = .ok v ∧ IsExtreme measure values v := by
  have hgraded : ∀ v ∈ values.filter isPresent, v.isGraded = true :=
    fun v hv => h v (List.mem_of_mem_filter hv)
  cases hpresent : values.filter isPresent with
  | nil =>
    refine ⟨.null, ?_, .inl ⟨hpresent, rfl⟩⟩
    cases measure <;> cases hop <;> simp only [accumulate, hpresent] <;> rfl
  | cons v rest =>
    rw [hpresent] at hgraded
    obtain ⟨hv, hrest⟩ := List.forall_mem_cons.1 hgraded
    unfold IsExtreme
    rw [hpresent]
    cases measure with
    | length | count => cases hop
    | greatest =>
      cases hop
      obtain ⟨best, hbest, hgreatest⟩ := greatest?_cons hv hrest
      refine ⟨best, ?_, .inr (.inl ⟨rfl, hgreatest⟩)⟩
      simp only [accumulate, hpresent, hbest, Option.getD_some]
    | least =>
      cases hop
      obtain ⟨best, hbest, hleast⟩ := least?_cons hv hrest
      refine ⟨best, ?_, .inr (.inr ⟨rfl, hleast⟩)⟩
      simp only [accumulate, hpresent, hbest, Option.getD_some]

/-! ## One group of all rows -/

/-- Rows whose key is the same constant form one group. -/
theorem collect_null (vars : Document) (docs members : List Document) :
    collect vars .null docs [⟨.null, members⟩] = .ok [⟨.null, members ++ docs⟩] := by
  induction docs generalizing members with
  | nil => rw [List.append_nil]; rfl
  | cons doc rest ih =>
    rw [collect]
    have hplace : place .null doc [⟨.null, members⟩] = [⟨.null, members ++ [doc]⟩] := rfl
    have heval : Expression.eval doc vars .null = .ok .null := rfl
    rw [heval]
    simp only [bind, Except.bind, hplace, ih, List.append_assoc, List.singleton_append]

theorem evalAll_fieldReference {field : String} (h : Expression.isOperatorKey field = false)
    (vars : Document) (docs : List Document) :
    evalAll vars (.string (fieldReference field)) docs =
      .ok (docs.map (Document.atPathOrNull · field)) := by
  induction docs with
  | nil => rfl
  | cons doc rest ih =>
    have heval : Expression.eval doc vars (.string (fieldReference field)) =
        .ok (Document.atPathOrNull doc field) :=
      congrArg Except.ok (Expression.resolve_fieldReference doc vars h)
    rw [evalAll, heval, ih]
    rfl

/-- The body of a stage that makes one group of all rows, with one accumulated value. -/
def oneGroup (name op field : String) : Document :=
  [("_id", .null), (name, .document [(op, .string (fieldReference field))])]

theorem document_eq {c : Computed} {op : String} (hop : accumulator? c.measure = some op)
    (halias : c.alias ≠ "_id") :
    c.document = [("$group", .document (oneGroup c.alias op c.field))] := by
  have hbody : ∀ accumulator, Document.ofList [("_id", .null), (c.alias, accumulator)] =
      [("_id", .null), (c.alias, accumulator)] := by
    intro accumulator
    exact Document.ofList_of_nodup (by simp [Document.HasUniqueKeys, Document.keys, halias.symm])
  obtain ⟨measure, field, target⟩ := c
  cases measure <;> cases hop <;>
    simp only [Computed.document, Computed.groupStage, hbody, oneGroup]

/-- All rows make one group, whose row has the accumulated value. -/
theorem run_oneGroup {name op field : String} (hname : name ≠ "_id")
    (hfield : Expression.isOperatorKey field = false) {docs : List Document} (hne : docs ≠ [])
    {v : Value} (haccumulate : accumulate op (docs.map (Document.atPathOrNull · field)) = .ok v) :
    run [] (oneGroup name op field) docs = .ok [[("_id", .null), (name, v)]] := by
  have hcollect : collect [] .null docs [] = .ok [⟨.null, docs⟩] := by
    cases docs with
    | nil => exact absurd rfl hne
    | cons doc rest => exact collect_null [] rest [doc]
  have hrow : accumulateAll [] docs (oneGroup name op field) [("_id", .null)] =
      .ok [("_id", .null), (name, v)] := by
    have hskip : accumulateAll [] docs (oneGroup name op field) [("_id", .null)] =
        accumulateAll [] docs [(name, .document [(op, .string (fieldReference field))])]
          [("_id", .null)] := rfl
    rw [hskip, accumulateAll, if_neg hname]
    simp only [evalAll_fieldReference hfield, haccumulate, bind, Except.bind, accumulateAll,
      Document.insert, hname.symm, if_false]
  have hkey : (Document.get? (oneGroup name op field) "_id").getD .null = .null := rfl
  rw [run, hkey, hcollect]
  simp only [bind, Except.bind, rows, hrow]
  rfl

/-- The stage of an extreme makes one row of all rows, or none if there are none. -/
theorem run_computed [Regex.Engine] {c : Computed} {op : String}
    (hop : accumulator? c.measure = some op) (halias : c.alias ≠ "_id")
    (hfield : Expression.isOperatorKey c.field = false) {docs : List Document}
    (h : ∀ d ∈ docs, (Document.atPathOrNull d c.field).isGraded = true)
    (collections : Collections) :
    ∃ v, IsExtreme c.measure (docs.map (Document.atPathOrNull · c.field)) v ∧
      Pipeline.run collections docs [c.document] [] =
        .ok (if docs.isEmpty then [] else [[("_id", .null), (c.alias, v)]]) := by
  have hgraded : ∀ v ∈ docs.map (Document.atPathOrNull · c.field), v.isGraded = true :=
    List.forall_mem_map.2 h
  obtain ⟨v, haccumulate, hextreme⟩ := accumulate_eq hop hgraded
  refine ⟨v, hextreme, ?_⟩
  have hstage : Pipeline.run collections docs [c.document] [] =
      run [] (oneGroup c.alias op c.field) docs := by
    rw [document_eq hop halias, Pipeline.run_singleton,
      Pipeline.runStage_of_ne _ _ _ (by decide), Pipeline.runPlain]
    rfl
  rw [hstage]
  cases docs with
  | nil => rfl
  | cons doc rest => exact run_oneGroup halias hfield (List.cons_ne_nil doc rest) haccumulate

end DocQuery.Group
