import DocQuery.Proofs.Group.Extremes
import DocQuery.Proofs.Query.Sources
import DocQuery.Proofs.Selection.Projection

/-!
# Extremes over the rows of a query

The stage of a group comes last, so a greatest or least value is that of the rows as the projection
of the selection leaves them: of all rows that are found, or of the first one alone where one row is
asked for. It is that of the documents where the selection shows the field.

## Main definitions

* `Query.ShowsExtreme`: one row with the extreme of what a selection leaves of documents

## Main results

* `QueryState.run_shapeStages_group`: rows are projected before they are grouped
* `Query.showsExtreme_of_findAll`: the row that a query with any limit finds
* `Query.showsExtreme_of_select`: the rows of finding all and of finding one
-/

namespace DocQuery

/-- Rows are projected before they are grouped. -/
theorem QueryState.run_shapeStages_group [Regex.Engine] {s : QueryState}
    (hraw : s.hasRawStages = false) {stage : Document} (hgroup : s.group? = some stage)
    (collections : Collections) (docs : List Document) :
    Pipeline.run collections docs s.shapeStages [] =
      (Pipeline.mapDocs (fun d => Project.doc d s.fields []) docs >>= fun rows =>
        Pipeline.run collections rows [stage] []) := by
  have hstages : s.shapeStages = { s with group? := none }.shapeStages ++ [stage] := by
    rw [shapeStages, shapeStages, hgroup, rawStages_eq_nil hraw,
      rawStages_eq_nil (s := { s with group? := none }) hraw]
    simp only [Option.toList_some, Option.toList_none, List.append_nil]
  rw [hstages, Pipeline.run_append, run_shapeStages (s := { s with group? := none }) hraw rfl]

namespace Query

variable {κ : Type}

open Document (atPathOrNull)

/-- The rows are one row with the extreme of a field over what a selection leaves of documents, or
none if there are no documents. Where the selection shows the field, this is what the documents have
there. -/
def ShowsExtreme (fields : List Field) (c : Computed) (docs rows : List Document) : Prop :=
  ∃ left : List Document,
    List.Forall₂ (fun d row => Project.doc d (Selection.resolve fields).fields [] = .ok row)
      docs left ∧
    (Selection.Shows fields c.field →
      left.map (atPathOrNull · c.field) = docs.map (atPathOrNull · c.field)) ∧
    ((∀ row ∈ left, (atPathOrNull row c.field).isGraded = true) →
      ∃ v, Group.IsExtreme c.measure (left.map (atPathOrNull · c.field)) v ∧
        rows = if docs.isEmpty then [] else [[("_id", .null), (c.alias, v)]])

/-- The documents of the collection with the lengths added that a selection asks for. Where none of
them gets in the way, they have at a path what the documents have. -/
def Lengthened (q : Query κ) (s : Store) (fields : List Field) (path : String)
    (docs : List Document) : Prop :=
  ∃ collection, q.collection? = some collection ∧
    List.Forall₂ (fun d e => Project.addFields [] (Selection.resolve fields).addFields d = .ok e ∧
      ((∀ c, .computed c ∈ fields → c.measure = .length →
          Path.Diverge (Path.segments c.alias) (Path.segments path)) →
        atPathOrNull e path = atPathOrNull d path))
      (s.documents collection.name) docs

theorem isEmpty_of_forall₂ {α β : Type} {R : α → β → Prop} {xs : List α} {ys : List β}
    (h : List.Forall₂ R xs ys) : ys.isEmpty = xs.isEmpty := by
  cases h <;> rfl

theorem map_atPathOrNull_eq {fields : List Field} {path : String} {docs left : List Document}
    (hshows : Selection.Shows fields path)
    (h : List.Forall₂ (fun d row => Project.doc d (Selection.resolve fields).fields [] = .ok row)
      docs left) :
    left.map (atPathOrNull · path) = docs.map (atPathOrNull · path) := by
  induction h with
  | nil => rfl
  | cons hdoc _ ih =>
    rw [List.map_cons, List.map_cons, ih, atPathOrNull, hshows.atPath?_eq hdoc]
    rfl

theorem lengthened_of_forall₂ {q : Query κ} {s : Store} {fields : List Field} {path : String}
    {docs : List Document} {collection : Collection κ}
    (hcollection : q.collection? = some collection)
    (h : List.Forall₂
      (fun d e => Project.addFields [] (Selection.resolve fields).addFields d = .ok e)
      (s.documents collection.name) docs) : Lengthened q s fields path docs := by
  refine ⟨collection, hcollection, h.imp fun d e hde => ⟨hde, fun hdiverge => ?_⟩⟩
  have hkeep : Document.atPath? e path = Document.atPath? d path := by
    refine Project.atPath?_addFields (fun entry hentry => ?_) hde
    obtain ⟨length, hmem, hlength, heq⟩ := Selection.mem_addFields_resolve hentry
    rw [heq]
    exact hdiverge length hmem hlength
  exact congrArg (Option.getD · Value.null) hkeep

section Select

variable [Regex.Engine] {q : Query κ} {s : Store} (hraw : q.state.hasRawStages = false)
  (hlookup : q.state.lookup? = none) (hunwind : q.state.unwind? = none)
  (hskip : q.state.skip = 0) {before after : List Field} {c : Computed}
  (hmeasure : c.measure = .greatest ∨ c.measure = .least) (halias : c.alias ≠ "_id")
  (hfield : Expression.isOperatorKey c.field = false)
  (hcount : ∀ field ∈ before ++ .computed c :: after, field.measure? ≠ some .count)
  (hafter : ∀ field ∈ after, field.measure? ≠ some .greatest ∧ field.measure? ≠ some .least)
include hraw hlookup hunwind hskip hmeasure halias hfield hcount hafter

/-- Finding all rows with a limit gives the extreme of as many matching documents. -/
theorem showsExtreme_of_findAll (hlimit : q.state.limit < 2 ^ 53) {r : ResultSet}
    (h : ((q.select (before ++ .computed c :: after)).findAll s).2.result = .ok r) :
    ∃ docs, Lengthened q s (before ++ .computed c :: after) c.field docs ∧
      ShowsExtreme (before ++ .computed c :: after) c
        (if q.state.limit = 0 then q.matched docs else (q.matched docs).take q.state.limit)
        r.rows := by
  have hgroup : (Selection.resolve (before ++ .computed c :: after)).group? = some c.document :=
    Selection.group?_resolve hmeasure hafter
  have hnumber := Selection.count?_resolve hcount
  rw [result_findAll _ s hnumber] at h
  obtain ⟨rows, hrows, rfl⟩ := Except.map_eq_ok_iff.1 h
  obtain ⟨found, hfound, hshaped⟩ := Except.bind_eq_ok_iff.1 hrows
  rw [Except.mapError_eq_ok_iff,
    QueryState.run_shapeStages_group (s := (q.select _).state) hraw hgroup] at hshaped
  obtain ⟨left, hleft, hrow⟩ := Except.bind_eq_ok_iff.1 hshaped
  obtain ⟨collection, docs, hcollection, hadded, rfl⟩ :=
    rowsOf_rowStages (q := q.select (before ++ .computed c :: after)) hraw hlookup hunwind hskip
      hlimit hfound
  have hleft' := Pipeline.mapDocs_eq_ok_iff.1 hleft
  refine ⟨docs, lengthened_of_forall₂ hcollection hadded, left, hleft',
    fun hshows => map_atPathOrNull_eq hshows hleft', ?_⟩
  intro hgraded
  obtain ⟨op, hop⟩ : ∃ op, Group.accumulator? c.measure = some op := by
    obtain heq | heq := hmeasure <;> rw [heq] <;> exact ⟨_, rfl⟩
  obtain ⟨v, hextreme, hrun⟩ := Group.run_computed hop halias hfield hgraded s.collections
  have hempty : left.isEmpty = (if q.state.limit = 0 then q.matched docs
      else (q.matched docs).take q.state.limit).isEmpty := isEmpty_of_forall₂ hleft'
  refine ⟨v, hextreme, ?_⟩
  rw [← hempty]
  exact Except.ok.inj (hrow.symm.trans hrun)

end Select

/-- With no count, the last greatest or least value that is selected makes the only row: when all
rows are asked for, of the matching documents, and when one is, of the first of them. -/
theorem showsExtreme_of_select [Regex.Engine] (q : Query κ) (s : Store)
    (hraw : q.state.hasRawStages = false) (hlookup : q.state.lookup? = none)
    (hunwind : q.state.unwind? = none) (hskip : q.state.skip = 0) (hlimit : q.state.limit = 0)
    (before after : List Field) (c : Computed)
    (hmeasure : c.measure = .greatest ∨ c.measure = .least) (halias : c.alias ≠ "_id")
    (hfield : Expression.isOperatorKey c.field = false)
    (hcount : ∀ field ∈ before ++ .computed c :: after, field.measure? ≠ some .count)
    (hafter : ∀ field ∈ after, field.measure? ≠ some .greatest ∧ field.measure? ≠ some .least)
    (r : ResultSet) :
    (((q.select (before ++ .computed c :: after)).findAll s).2.result = .ok r →
        ∃ docs, Lengthened q s (before ++ .computed c :: after) c.field docs ∧
          ShowsExtreme (before ++ .computed c :: after) c (q.matched docs) r.rows) ∧
      (((q.select (before ++ .computed c :: after)).find s).2.result = .ok r →
        ∃ docs, Lengthened q s (before ++ .computed c :: after) c.field docs ∧
          ShowsExtreme (before ++ .computed c :: after) c ((q.matched docs).take 1) r.rows) := by
  constructor
  · intro h
    have hbound : q.state.limit < 2 ^ 53 := by omega
    obtain ⟨docs, hdocs, hextreme⟩ := showsExtreme_of_findAll hraw hlookup hunwind hskip hmeasure
      halias hfield hcount hafter hbound h
    rw [if_pos hlimit] at hextreme
    exact ⟨docs, hdocs, hextreme⟩
  · intro h
    rw [result_find] at h
    obtain ⟨found, hfound, rfl⟩ := Except.map_eq_ok_iff.1 h
    have hbound : q.forOne.state.limit < 2 ^ 53 := by
      change 1 < 2 ^ 53
      decide
    have hextreme := showsExtreme_of_findAll (q := q.forOne) hraw hlookup hunwind hskip hmeasure
      halias hfield hcount hafter hbound hfound
    exact hextreme

/-- The greatest age of two rows next to their ages, and the age of the first row. -/
theorem showsExtreme_of_select_users :
    let q : Query Unit := ⟨none, some ⟨(), "users"⟩, .empty, true, true⟩
    let s : Store := ⟨[("users", [[("_id", .int32 1), ("age", .int32 30)],
      [("_id", .int32 2), ("age", .int32 40)]])], 0⟩
    let c := Computed.ofField .greatest "age"
    let shown (r : ResultSet) :=
      r.rows.map fun row => (Document.get? row "age_max").map Value.keyText
    ∃ all one docs first, ((q.select [.name "age", .computed c]).findAll s).2.result = .ok all ∧
      ShowsExtreme [.name "age", .computed c] c (q.matched docs) all.rows ∧
      shown all = [some "40"] ∧
      ((q.select [.name "age", .computed c]).find s).2.result = .ok one ∧
      ShowsExtreme [.name "age", .computed c] c ((q.matched first).take 1) one.rows ∧
      shown one = [some "30"] := by
  intro q s c shown
  have hall : ((q.select [.name "age", .computed c]).findAll s).2.result.toOption.map shown =
      some [some "40"] := by decide +kernel
  have hone : ((q.select [.name "age", .computed c]).find s).2.result.toOption.map shown =
      some [some "30"] := by decide +kernel
  obtain ⟨all, hfound, hshown⟩ := Except.toOption_map_eq_some_iff.1 hall
  obtain ⟨one, hfirst, hshown'⟩ := Except.toOption_map_eq_some_iff.1 hone
  have hcount : ∀ field ∈ [Field.name "age", .computed c], field.measure? ≠ some .count := by decide
  have hextreme (r : ResultSet) := showsExtreme_of_select q s rfl rfl rfl rfl rfl [.name "age"] []
    c (.inl rfl) (by decide) (by decide) hcount nofun r
  obtain ⟨docs, -, hdocs⟩ := (hextreme all).1 hfound
  obtain ⟨first, -, hfirst'⟩ := (hextreme one).2 hfirst
  exact ⟨all, one, docs, first, hfound, hdocs, hshown, hfirst, hfirst', hshown'⟩

/-- The greatest age of two rows is not shown where one row is asked for, nor next to their names,
and the greatest value under a key that looks like a variable is not shown at all. -/
theorem exists_not_isExtreme :
    let q : Query Unit := ⟨none, some ⟨(), "users"⟩, .empty, true, true⟩
    let s : Store := ⟨[("users",
      [[("_id", .int32 1), ("name", .string "al"), ("age", .int32 30), ("$age", .int32 30)],
        [("_id", .int32 2), ("name", .string "bo"), ("age", .int32 40), ("$age", .int32 40)]])], 0⟩
    let ages := (s.documents "users").map (atPathOrNull · "age")
    let signed := (s.documents "users").map (atPathOrNull · "$age")
    (∃ r, ((q.select [.computed ⟨.greatest, "age", "top"⟩]).find s).2.result = .ok r ∧
        ∀ v, Group.IsExtreme .greatest ages v → r.rows ≠ [[("_id", .null), ("top", v)]]) ∧
      (∃ r, ((q.select [.name "name", .computed ⟨.greatest, "age", "top"⟩]).findAll s).2.result =
          .ok r ∧
        ∀ v, Group.IsExtreme .greatest ages v → r.rows ≠ [[("_id", .null), ("top", v)]]) ∧
      ∃ r, ((q.select [.computed ⟨.greatest, "$age", "top"⟩]).findAll s).2.result = .ok r ∧
        ∀ v, Group.IsExtreme .greatest signed v → r.rows ≠ [[("_id", .null), ("top", v)]] := by
  intro q s ages signed
  -- What is shown stands below forty, which is among the values.
  let shown (r : ResultSet) :=
    r.rows.map fun row => (Document.get? row "top").map ((Value.int32 40).compare ·)
  have hbelow : ∀ {result : Except QueryError ResultSet} {values : List Value},
      result.toOption.map shown = some [some .gt] → .int32 40 ∈ values →
        ∃ r, result = .ok r ∧
          ∀ v, Group.IsExtreme .greatest values v → r.rows ≠ [[("_id", .null), ("top", v)]] := by
    intro result values hresult hmem
    obtain ⟨r, hr, hshown⟩ := Except.toOption_map_eq_some_iff.1 hresult
    refine ⟨r, hr, fun v hextreme hrows => hextreme.compare_ne_gt hmem rfl ?_⟩
    have hcompare : [some ((Value.int32 40).compare v)] = [some Ordering.gt] := by
      rw [← hshown]
      simp only [shown, hrows]
      rfl
    exact Option.some.inj (List.cons.inj hcompare).1
  have hage : .int32 40 ∈ ages := List.mem_cons_of_mem _ List.mem_cons_self
  have hsigned : .int32 40 ∈ signed := List.mem_cons_of_mem _ List.mem_cons_self
  exact ⟨hbelow (by decide +kernel) hage, hbelow (by decide +kernel) hage,
    hbelow (by decide +kernel) hsigned⟩

end Query

end DocQuery
