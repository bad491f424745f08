import DocQuery.Proofs.Query.Merge
import Mathlib.Data.List.Induction

/-!
# Merging is associative

Queries can be merged in parts and the parts merged afterwards: the grouping makes no difference,
and neither does an empty query among them. Each setting has a rule of its own, and each rule is
associative: documents are written over one another, conditions are added at the end, and every
other setting is replaced by one that is not at its default.

## Main definitions

* `QueryState.HasUniqueKeys`: the documents of a state repeat no key

## Main results

* `QueryState.merge_assoc`, `QueryState.empty_merge`: the laws of states
* `foldl_eq_op_foldl`: merging a list into a start is merging the merged list into it
* `Query.merge_assoc_unit`: the laws of states, of lists of states and of lists of queries

## Design notes

A key that stood twice in a document would be written to its first place alone, so the laws are about
documents without repeated keys. Every document that is written field by field is one of them, and a
merged state holds no others, so that lists of states and of queries need no such condition.
-/

namespace DocQuery

/-- A setting that is replaced unless the other one is absent. -/
theorem ite_absent_assoc {α : Type} (absent : α → Prop) [DecidablePred absent] (x y z : α) :
    (if absent z then (if absent y then x else y) else z) =
      if absent (if absent z then y else z) then x else (if absent z then y else z) := by
  by_cases hz : absent z <;> simp [hz]

/-- Folding a list into a start is folding it on its own and combining the two, for an operation that
is associative where the operand in the middle is valid. -/
theorem foldl_eq_op_foldl {α : Type} {op : α → α → α} {unit : α} {P : α → Prop}
    (hunit : ∀ a, op a unit = a) (hvalid : P unit)
    (hop : ∀ a b, P a → P (op a b))
    (hassoc : ∀ a b c, P b → op (op a b) c = op a (op b c)) (xs : List α) (a : α) :
    xs.foldl op a = op a (xs.foldl op unit) ∧ P (xs.foldl op unit) := by
  induction xs using List.reverseRecOn with
  | nil => exact ⟨(hunit a).symm, hvalid⟩
  | append_singleton xs x ih =>
    obtain ⟨hfold, hinner⟩ := ih
    simp only [List.foldl_append, List.foldl_cons, List.foldl_nil]
    exact ⟨by rw [hfold, hassoc _ _ _ hinner], hop _ x hinner⟩

namespace QueryState

/-- The documents of a state that are merged key by key repeat no key. -/
structure HasUniqueKeys (s : QueryState) : Prop where
  fields : Document.HasUniqueKeys s.fields
  lookup : ∀ stage ∈ s.lookup?, Document.HasUniqueKeys stage
  unwind : ∀ stage ∈ s.unwind?, Document.HasUniqueKeys stage

theorem hasUniqueKeys_empty : empty.HasUniqueKeys := ⟨List.nodup_nil, nofun, nofun⟩

theorem hasUniqueKeys_mergeStage {first? : Option Document}
    (h : ∀ stage ∈ first?, Document.HasUniqueKeys stage) (second? : Option Document) :
    ∀ stage ∈ mergeStage first? second?, Document.HasUniqueKeys stage := by
  cases second? with
  | none => exact h
  | some second =>
    rintro _ ⟨⟩
    cases first? with
    | none =>
      have hnil : Document.HasUniqueKeys ([] : Document) := List.nodup_nil
      exact hnil.extend second
    | some first => exact (h first rfl).extend second

/-- A merged state is as valid as the first one, whatever is merged into it. -/
theorem HasUniqueKeys.merge {s : QueryState} (h : s.HasUniqueKeys) (other : QueryState) :
    (s.merge other).HasUniqueKeys where
  fields := h.fields.extend other.fields
  lookup := hasUniqueKeys_mergeStage h.lookup other.lookup?
  unwind := hasUniqueKeys_mergeStage h.unwind other.unwind?

theorem mergeStage_assoc (first? : Option Document) {second? : Option Document}
    (h : ∀ stage ∈ second?, Document.HasUniqueKeys stage) (third? : Option Document) :
    mergeStage (mergeStage first? second?) third? =
      mergeStage first? (mergeStage second? third?) := by
  cases third? with
  | none => rfl
  | some third =>
    cases second? with
    | none =>
      -- Nothing stands between the two, and the last stage is written over the first.
      have hsecond : Document.HasUniqueKeys ([] : Document) := List.nodup_nil
      exact congrArg some (Document.extend_extend _ hsecond third)
    | some second => exact congrArg some (Document.extend_extend _ (h second rfl) third)

theorem none_mergeStage {stage? : Option Document}
    (h : ∀ stage ∈ stage?, Document.HasUniqueKeys stage) : mergeStage none stage? = stage? := by
  cases stage? with
  | none => rfl
  | some stage => exact congrArg some (Document.ofList_of_nodup (h stage rfl))

/-- Merging states is associative. -/
theorem merge_assoc (x : QueryState) {y : QueryState} (hy : y.HasUniqueKeys) (z : QueryState) :
    (x.merge y).merge z = x.merge (y.merge z) := by
  have hfilters : (x.filters.append y.filters).append z.filters =
      x.filters.append (y.filters.append z.filters) :=
    congrArg Filters.mk (List.append_assoc _ _ _)
  have hfields := Document.extend_extend x.fields hy.fields z.fields
  have hlookup := mergeStage_assoc x.lookup? hy.lookup z.lookup?
  have hunwind := mergeStage_assoc x.unwind? hy.unwind z.unwind?
  have haddFields := ite_absent_assoc (fun d : Document => d.isEmpty = true)
    x.addFields y.addFields z.addFields
  have hlimit := ite_absent_assoc (· = 0) x.limit y.limit z.limit
  have hskip := ite_absent_assoc (· = 0) x.skip y.skip z.skip
  simp only [merge, hfilters, hfields, hlookup, hunwind, haddFields, hlimit, hskip,
    Option.orElse_eq_orElse, Option.orElse_eq_or, Option.or_assoc]

/-- A state that is merged into the empty one stays as it is. -/
theorem empty_merge {s : QueryState} (h : s.HasUniqueKeys) : empty.merge s = s := by
  have hfields : Document.extend [] s.fields = s.fields := Document.ofList_of_nodup h.fields
  have haddFields : (if s.addFields.isEmpty then [] else s.addFields) = s.addFields := by
    cases s.addFields <;> rfl
  have hcount : ∀ n : Nat, (if n = 0 then 0 else n) = n := by
    intro n
    by_cases hn : n = 0 <;> simp [hn]
  have hfilters : Filters.empty.append s.filters = s.filters := rfl
  simp only [merge, empty, hfields, haddFields, hcount, hfilters, none_mergeStage h.lookup,
    none_mergeStage h.unwind, Option.orElse_eq_orElse, Option.orElse_eq_or, Option.or_none]

theorem foldl_merge_eq (states : List QueryState) (s : QueryState) :
    states.foldl merge s = s.merge (merged states) ∧ (merged states).HasUniqueKeys :=
  foldl_eq_op_foldl merge_empty hasUniqueKeys_empty (fun _ other h => h.merge other)
    (fun x _ z hy => merge_assoc x hy z) states s

end QueryState

namespace Query

variable {κ : Type}

theorem mergeWith_empty (q : Query κ) : q.mergeWith empty = q := by
  simp only [mergeWith, empty, QueryState.merge_empty, Bool.and_true]
  rfl

/-- Merging queries is associative. -/
theorem mergeWith_assoc (x : Query κ) {y : Query κ} (hy : y.state.HasUniqueKeys) (z : Query κ) :
    (x.mergeWith y).mergeWith z = x.mergeWith (y.mergeWith z) := by
  have hstate := QueryState.merge_assoc x.state hy z.state
  simp only [mergeWith, hstate, Option.orElse_eq_orElse, Option.orElse_eq_or, Option.or_assoc,
    Bool.and_assoc]

theorem foldl_mergeWith_eq (queries : List (Query κ)) (q : Query κ) :
    queries.foldl mergeWith q = q.mergeWith (merge queries) ∧
      (merge queries).state.HasUniqueKeys :=
  foldl_eq_op_foldl (P := fun p : Query κ => p.state.HasUniqueKeys) mergeWith_empty
    QueryState.hasUniqueKeys_empty (fun _ other h => h.merge other.state)
    (fun x _ z hy => mergeWith_assoc x hy z) queries q

theorem expectMany_foldl_mergeWith (queries : List (Query κ)) (q : Query κ) :
    (queries.foldl mergeWith q).expectMany = q.expectMany := by
  induction queries generalizing q with
  | nil => rfl
  | cons other rest ih => exact ih (q.mergeWith other)

theorem empty_mergeWith {q : Query κ} (hstate : q.state.HasUniqueKeys)
    (hmany : q.expectMany = true) : empty.mergeWith q = q := by
  obtain ⟨connection?, collection?, state, expectMany, strictInserts⟩ := q
  cases hmany
  simp only [mergeWith, empty, QueryState.empty_merge hstate, Option.orElse_eq_orElse,
    Option.orElse_eq_or, Option.or_none, Bool.true_and]

/-- Merging is associative, with the empty state as its unit: for states whose documents repeat no
key, for lists of states, and for lists of queries, whose collections, connections and insertion
settings are merged as well. -/
theorem merge_assoc_unit :
    (∀ x y z : QueryState, y.HasUniqueKeys → (x.merge y).merge z = x.merge (y.merge z)) ∧
      (∀ x : QueryState, x.HasUniqueKeys →
        x.merge QueryState.empty = x ∧ QueryState.empty.merge x = x) ∧
      (∀ xs ys : List QueryState, QueryState.merged (xs ++ ys) =
        (QueryState.merged xs).merge (QueryState.merged ys)) ∧
      ∀ xs ys : List (Query κ), merge [merge xs, merge ys] = merge (xs ++ ys) := by
  refine ⟨fun x y z hy => QueryState.merge_assoc x hy z,
    fun x hx => ⟨QueryState.merge_empty x, QueryState.empty_merge hx⟩, ?_, ?_⟩
  · intro xs ys
    unfold QueryState.merged
    rw [List.foldl_append]
    exact (QueryState.foldl_merge_eq ys _).1
  · intro xs ys
    have hxs : empty.mergeWith (merge xs) = merge xs :=
      empty_mergeWith (foldl_mergeWith_eq xs empty).2 (expectMany_foldl_mergeWith xs empty)
    calc merge [merge xs, merge ys] = (empty.mergeWith (merge xs)).mergeWith (merge ys) := rfl
      _ = (merge xs).mergeWith (merge ys) := by rw [hxs]
      _ = ys.foldl mergeWith (merge xs) := (foldl_mergeWith_eq ys _).1.symm
      _ = merge (xs ++ ys) := List.foldl_append.symm

/-- Three states that write the same field, with settings at their defaults among them. -/
theorem merge_assoc_unit_fields :
    let x : QueryState :=
      { QueryState.empty with fields := [("name", .int32 1), ("_id", .int32 0)], limit := 5 }
    let y : QueryState :=
      { QueryState.empty with
        fields := [("age", .int32 1), ("name", .string "$nick")]
        lookup? := some (Join.on "users" "user" "id").lookupStage }
    let z : QueryState := { QueryState.empty with fields := [("age", .int32 0)], skip := 2 }
    x.HasUniqueKeys ∧ y.HasUniqueKeys ∧
      ((x.merge y).merge z).fields =
        [("name", .string "$nick"), ("_id", .int32 0), ("age", .int32 0)] ∧
      (x.merge y).merge z = x.merge (y.merge z) ∧
      x.merge QueryState.empty = x ∧ QueryState.empty.merge x = x := by
  intro x y z
  have hx : x.HasUniqueKeys := by
    refine ⟨?_, ?_, ?_⟩ <;> simp [x, QueryState.empty, Document.HasUniqueKeys, Document.keys]
  have hy : y.HasUniqueKeys := by
    refine ⟨?_, ?_, ?_⟩ <;>
      simp [y, QueryState.empty, Join.lookupStage, Document.HasUniqueKeys, Document.keys]
  obtain ⟨hassoc, hunit, -⟩ := @merge_assoc_unit Unit
  exact ⟨hx, hy, rfl, hassoc x y z hy, hunit x hx⟩

end Query

end DocQuery
