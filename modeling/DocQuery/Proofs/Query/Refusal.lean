import DocQuery.Proofs.Query.Deletion
import DocQuery.Proofs.Query.Edits

/-!
# Changes without a condition

An update or a deletion is refused if no call has recorded a condition. What counts is that
something was recorded: a group is recorded as one condition whatever it holds, and a query whose
conditions are groups of groups with nothing inside is not refused. It treats all documents alike.

## Main definitions

* `Query.Built`: the queries that calls and merges make, with the calls that were accepted
* `Query.Call.isCondition`: the calls that record a condition
* `Condition.IsHollow`, `Query.Call.IsHollow`: groups of groups with nothing inside, as query
  documents and as calls

## Main results

* `Query.filters_of_apply`, `Query.Built.isEmpty_filters`: what is recorded, by one call and by many
* `Condition.IsHollow.docMatches`: a hollow query document does not look at the document
* `Query.Built.delete_of_isHollow`: what a deletion under hollow conditions does
* `Query.Built.refused_iff_no_condition`: which changes are refused
-/

namespace DocQuery

/-! ## Hollow query documents -/

namespace Condition

/-- A query document without a condition on a field: nothing at all, or a connective over such
query documents. -/
inductive IsHollow : Document → Prop
  | nothing : IsHollow []
  | group (connective : Connective) {members : List Document}
      (h : ∀ member ∈ members, IsHollow member) :
      IsHollow [(connective.key, .array (members.map .document))]

/-- A hollow query document has one verdict for all documents. -/
theorem IsHollow.docMatches [Regex.Engine] {query : Document} (h : IsHollow query)
    (doc vars : Document) :
    docMatches doc query vars = .ok (isMatch query [] []) := by
  induction h generalizing doc vars with
  | nothing => rfl
  | @group connective members _ ih =>
    have hjoin : ∀ doc vars,
        Condition.docMatches doc [(connective.key, .array (members.map .document))] vars =
          Verdict.join connective (members.map fun member => .ok (isMatch member [] [])) := by
      intro doc vars
      rw [docMatches_join]
      exact congrArg _ (List.map_congr_left fun member hmember => ih member hmember doc vars)
    obtain ⟨b, hb⟩ := Verdict.exists_join_ok (isMatch · [] []) members connective
    rw [isMatch_of_ok ((hjoin [] []).trans hb), hjoin, hb]

end Condition

open Condition (IsHollow docMatches isMatch)

namespace RawFilter

theorem isHollow_document {r : RawFilter} (h : ∀ query ∈ r.conditions, IsHollow query) :
    IsHollow r.document := .group r.connective h

end RawFilter

namespace Filters

/-- Every recorded condition is hollow. -/
def IsHollow (f : Filters) : Prop := ∀ e ∈ f.entries, Condition.IsHollow e.filter

theorem isHollow_empty : empty.IsHollow := by
  intro e he
  cases he

theorem IsHollow.push {f : Filters} (h : f.IsHollow) (connective : Connective) {filter : Document}
    (hfilter : Condition.IsHollow filter) : (f.push connective filter).IsHollow := by
  intro e he
  obtain he | he := List.mem_append.1 he
  · exact h e he
  · rw [List.mem_singleton.1 he]
    exact hfilter

theorem IsHollow.append {f g : Filters} (hf : f.IsHollow) (hg : g.IsHollow) :
    (f.append g).IsHollow := by
  intro e he
  obtain he | he := List.mem_append.1 he
  · exact hf e he
  · exact hg e he

theorem IsHollow.normalized {f : Filters} (h : f.IsHollow) : Condition.IsHollow f.normalized := by
  unfold Filters.normalized
  split
  · exact .nothing
  · rename_i first rest hentries
    have hmembers : ∀ member ∈ (first :: rest).map FilterEntry.filter,
        Condition.IsHollow member := by
      intro member hmember
      obtain ⟨e, he, rfl⟩ := List.mem_map.1 hmember
      exact h e (hentries ▸ he)
    have hmap : (first :: rest).map (fun e : FilterEntry => Value.document e.filter) =
        ((first :: rest).map FilterEntry.filter).map Value.document := by
      rw [List.map_map]
      rfl
    rw [hmap]
    exact .group _ hmembers

theorem isEmpty_push (f : Filters) (connective : Connective) (filter : Document) :
    (f.push connective filter).isEmpty = false := by
  simp [isEmpty, push]

theorem isEmpty_append (f g : Filters) : (f.append g).isEmpty = (f.isEmpty && g.isEmpty) := by
  unfold append isEmpty
  cases f.entries <;> rfl

end Filters

namespace Query

variable {κ : Type}

/-! ## What calls record -/

/-- Whether a call records a condition. -/
def Call.isCondition : Call κ → Bool
  | .compare .. | .compareWith .. | .compareDate .. | .predicate .. | .group .. | .oneOf ..
  | .noneOf .. | .regex .. | .text .. => true
  | _ => false

/-- A call without a condition on a field: one that records no condition, a group of such calls, or
a ready-made group that is hollow. -/
inductive Call.IsHollow : Call κ → Prop
  | other {call : Call κ} (h : call.isCondition = false) : IsHollow call
  | group (connective : Connective) {calls : List (Call κ)} (h : ∀ call ∈ calls, IsHollow call) :
      IsHollow (.group connective calls)
  | raw (connective : Connective) {r : RawFilter}
      (h : ∀ query ∈ r.conditions, Condition.IsHollow query) :
      IsHollow (.predicate connective (.raw r))

section

variable [Regex.Engine]

/-- An accepted call records one condition or none. -/
theorem filters_of_apply {q q' : Query κ} {call : Call κ} (h : apply q call = .ok q') :
    (call.isCondition = false ∧ q'.state.filters = q.state.filters) ∨
      (call.isCondition = true ∧
        ∃ connective filter, q'.state.filters = q.state.filters.push connective filter) := by
  have hfilters := congrArg QueryState.filters (state_of_apply h)
  -- An unknown token and a group with a refused call are excluded by the call being accepted.
  cases call with
  | compareWith connective field token value =>
    rw [apply] at h
    obtain ⟨op, hop, -⟩ := Except.bind_eq_ok_iff.1 h
    rw [Call.edit, tokenEdit_of_ok hop] at hfilters
    exact .inr ⟨rfl, _, _, hfilters⟩
  | compareDate connective field token millis =>
    rw [apply] at h
    obtain ⟨op, hop, -⟩ := Except.bind_eq_ok_iff.1 h
    rw [Call.edit, tokenEdit_of_ok hop] at hfilters
    exact .inr ⟨rfl, _, _, hfilters⟩
  | group connective calls =>
    rw [apply] at h
    obtain ⟨inner, hinner, -⟩ := Except.bind_eq_ok_iff.1 h
    rw [Call.edit, hinner] at hfilters
    exact .inr ⟨rfl, _, _, hfilters⟩
  | joinOperator source localField token foreignField =>
    rw [Call.edit] at hfilters
    split at hfilters
    · exact .inl ⟨rfl, hfilters⟩
    · exact .inl ⟨rfl, hfilters⟩
  | compare | predicate | oneOf | noneOf | regex | text => exact .inr ⟨rfl, _, _, hfilters⟩
  | _ => exact .inl ⟨rfl, hfilters⟩

theorem isEmpty_filters_of_apply {q q' : Query κ} {call : Call κ} (h : apply q call = .ok q') :
    q'.state.filters.isEmpty = (q.state.filters.isEmpty && !call.isCondition) := by
  obtain ⟨hcall, hfilters⟩ | ⟨hcall, connective, filter, hfilters⟩ := filters_of_apply h
  · rw [hfilters, hcall, Bool.not_false, Bool.and_true]
  · rw [hfilters, hcall, Filters.isEmpty_push, Bool.not_true, Bool.and_false]

/-- Hollow calls record hollow conditions. -/
theorem Call.IsHollow.filters_of_apply {call : Call κ} (hcall : call.IsHollow) {q q' : Query κ}
    (hq : q.state.filters.IsHollow) (h : apply q call = .ok q') : q'.state.filters.IsHollow := by
  induction hcall generalizing q q' with
  | other hother =>
    obtain ⟨-, hfilters⟩ | ⟨hcondition, -⟩ := Query.filters_of_apply h
    · rw [hfilters]
      exact hq
    · rw [hother] at hcondition
      cases hcondition
  | @group connective calls _ ih =>
    rw [apply] at h
    obtain ⟨inner, hinner, hq'⟩ := Except.bind_eq_ok_iff.1 h
    cases hq'
    have hinside : inner.state.filters.IsHollow :=
      of_applyAll (P := fun p => p.state.filters.IsHollow) ih Filters.isHollow_empty hinner
    refine hq.push connective (RawFilter.isHollow_document ?_)
    intro query hquery
    rw [List.mem_singleton.1 hquery]
    exact hinside.normalized
  | raw connective hr =>
    rw [apply] at h
    cases h
    exact hq.push connective (RawFilter.isHollow_document hr)

/-! ## Queries and how they were made -/

/-- The queries that can be made, each with the calls that were accepted on the way. -/
inductive Built : Query κ → List (Call κ) → Prop
  | empty : Built empty []
  | withConnection {q : Query κ} {calls : List (Call κ)} (connection : κ) :
      Built q calls → Built (q.withConnection connection) calls
  | call {q q' : Query κ} {calls : List (Call κ)} {call : Call κ} :
      Built q calls → apply q call = .ok q' → Built q' (calls ++ [call])
  | merge {q other : Query κ} {calls more : List (Call κ)} :
      Built q calls → Built other more → Built (q.mergeWith other) (calls ++ more)
  | find {q : Query κ} {calls : List (Call κ)} : Built q calls → Built q.forOne calls
  | findAll {q : Query κ} {calls : List (Call κ)} : Built q calls → Built q.forAll calls
  | count {q : Query κ} {calls : List (Call κ)} : Built q calls → Built q.forCount calls

/-- Nothing is recorded exactly if no call that was accepted records a condition. -/
theorem Built.isEmpty_filters {q : Query κ} {calls : List (Call κ)} (h : Built q calls) :
    q.state.filters.isEmpty = calls.all fun call => !call.isCondition := by
  induction h with
  | empty => rfl
  | withConnection connection _ ih => exact ih
  | call _ happly ih =>
    rw [isEmpty_filters_of_apply happly, ih, List.all_append, List.all_cons, List.all_nil,
      Bool.and_true]
  | merge _ _ ih ihmore =>
    rw [List.all_append, ← ih, ← ihmore]
    exact Filters.isEmpty_append _ _
  | find _ ih => exact ih
  | findAll _ ih => exact ih
  | count _ ih => exact ih

/-- What hollow calls have recorded is hollow. -/
theorem Built.isHollow_filters {q : Query κ} {calls : List (Call κ)} (h : Built q calls)
    (hcalls : ∀ call ∈ calls, call.IsHollow) : q.state.filters.IsHollow := by
  induction h with
  | empty => exact Filters.isHollow_empty
  | withConnection connection _ ih => exact ih hcalls
  | @call q q' calls call _ happly ih =>
    have hcall : call.IsHollow := hcalls call (by simp)
    exact hcall.filters_of_apply (ih fun c hc => hcalls c (List.mem_append_left _ hc)) happly
  | merge _ _ ih ihmore =>
    exact (ih fun c hc => hcalls c (List.mem_append_left _ hc)).append
      (ihmore fun c hc => hcalls c (List.mem_append_right _ hc))
  | find _ ih => exact ih hcalls
  | findAll _ ih => exact ih hcalls
  | count _ ih => exact ih hcalls

/-! ## Refusals -/

omit [Regex.Engine] in
/-- What reaches the store is not refused for a missing condition. -/
theorem result_withCollection_traced_ne {α : Type} (q : Query κ) (s : Store)
    (event : String → TraceEvent) (call : String → Store.Effect StoreError α) (action : FilteredAction) :
    (q.withCollection s fun collection => traced (event collection) (call collection)).result ≠
      .error (.missingFilter action) := by
  intro h
  unfold withCollection at h
  cases hcollection : q.collection? with
  | none =>
    rw [hcollection] at h
    cases h
  | some collection =>
    simp only [hcollection, traced, Store.Effect.mapError] at h
    cases hresult : (call collection.name).result with
    | error e =>
      rw [hresult] at h
      cases h
    | ok a =>
      rw [hresult] at h
      cases h

/-- Under hollow conditions that were recorded, a deletion removes all documents or none. -/
theorem Built.delete_of_isHollow {q : Query κ} {calls : List (Call κ)} (h : Built q calls)
    (hcalls : ∀ call ∈ calls, call.IsHollow) (hfilters : q.state.filters.isEmpty = false)
    {collection : Collection κ} (hcollection : q.collection? = some collection) (s : Store) :
    (q.delete s).result =
        .ok (if isMatch q.filter [] [] then (s.documents collection.name).length else 0) ∧
      (q.delete s).store.documents collection.name =
        if isMatch q.filter [] [] then [] else s.documents collection.name := by
  have hverdict := (h.isHollow_filters hcalls).normalized.docMatches
  generalize hb : isMatch q.filter [] [] = b
  have hmatch : isMatch q.filter [] = fun _ => b :=
    funext fun doc => (Condition.isMatch_of_ok (hverdict doc [])).trans hb
  have hcounted : q.matchCount s = .ok (if b then (s.documents collection.name).length else 0) := by
    refine matchCount_eq_ok_iff.2 ⟨collection, hcollection,
      (s.documents collection.name).filter fun _ => b, ?_, by cases b <;> simp⟩
    refine Pipeline.filterDocs_eq_ok_iff.2 ⟨fun doc _ => ?_, by rw [hmatch]⟩
    rw [hmatch, ← hb]
    exact hverdict doc []
  have hresult := (result_delete hfilters).trans hcounted
  obtain ⟨other, hother, -, hleft⟩ := documents_delete hfilters hresult
  obtain rfl : collection = other := Option.some.inj (hcollection.symm.trans hother)
  refine ⟨hresult, ?_⟩
  rw [hleft, hmatch]
  cases b <;> simp

/-- A change is refused for a missing condition, and leaves the store alone, exactly if no call that
was accepted records a condition. A group counts as one whatever it holds: with hollow calls alone
that record something a change goes ahead, and all documents satisfy its conditions or none does. -/
theorem Built.refused_iff_no_condition {q : Query κ} {calls : List (Call κ)} (h : Built q calls)
    (s : Store) (u : Update) :
    ((∀ call ∈ calls, call.isCondition = false) →
      q.update s u = failed s (.missingFilter .update) ∧
        q.delete s = failed s (.missingFilter .delete)) ∧
    ((∃ call ∈ calls, call.isCondition = true) →
      (q.update s u).result ≠ .error (.missingFilter .update) ∧
        (q.delete s).result ≠ .error (.missingFilter .delete)) ∧
    ((∀ call ∈ calls, call.IsHollow) →
      ∃ b, ∀ doc vars, docMatches doc q.filter vars = .ok b) := by
  have hrecorded := h.isEmpty_filters
  refine ⟨fun hnone => ?_, fun hsome => ?_, fun hhollow => ?_⟩
  · have hempty : q.state.filters.isEmpty = true := by
      rw [hrecorded, List.all_eq_true]
      intro call hcall
      rw [hnone call hcall, Bool.not_false]
    exact ⟨if_pos hempty, if_pos hempty⟩
  · obtain ⟨call, hcall, hcondition⟩ := hsome
    have hfilters : ¬ q.state.filters.isEmpty = true := by
      rw [hrecorded, List.all_eq_true]
      intro hall
      have hnot := hall call hcall
      rw [hcondition] at hnot
      cases hnot
    rw [update, delete, if_neg hfilters, if_neg hfilters]
    exact ⟨result_withCollection_traced_ne q s _ _ _, result_withCollection_traced_ne q s _ _ _⟩
  · exact ⟨_, fun doc vars => (h.isHollow_filters hhollow).normalized.docMatches doc vars⟩

end

/-- A query without a condition, and one whose only condition is a group with an empty group
inside. -/
theorem Built.refused_iff_no_condition_groups :
    let users : Call Unit := .collectionHandle ⟨(), "users"⟩
    let s : Store := ⟨[("users", [[("name", .string "al")], [("name", .string "bo")]])], 0⟩
    ∃ plain grouped : Query Unit, Built plain [users, .limit 2] ∧
      Built grouped [users, .group .or [.limit 2, .group .and []]] ∧
      plain.delete s = failed s (.missingFilter .delete) ∧
      (grouped.delete s).result ≠ .error (.missingFilter .delete) ∧
      ∃ b, docMatches [] grouped.filter [] = .ok b ∧
        docMatches [("name", .string "al")] grouped.filter [] = .ok b := by
  intro users s
  have hplain : Built _ [users, .limit 2] := .call (.call .empty rfl) rfl
  have hgrouped : Built _ [users, .group .or [.limit 2, .group .and []]] :=
    .call (.call .empty rfl) rfl
  have hinner : ∀ call ∈ [Call.limit 2, .group .and []], (call : Call Unit).IsHollow :=
    List.forall_mem_cons.2 ⟨.other rfl, List.forall_mem_singleton.2 (.group .and nofun)⟩
  have hhollow : ∀ call ∈ [users, .group .or [.limit 2, .group .and []]], call.IsHollow :=
    List.forall_mem_cons.2 ⟨.other rfl, List.forall_mem_singleton.2 (.group .or hinner)⟩
  refine ⟨_, _, hplain, hgrouped, ?_, ?_, ?_⟩
  · exact ((hplain.refused_iff_no_condition s (.fields [])).1 (by decide)).2
  · have hsome : ∃ call ∈ [users, .group .or [.limit 2, .group .and []]],
        call.isCondition = true := ⟨_, List.mem_cons_of_mem _ List.mem_cons_self, rfl⟩
    exact ((hgrouped.refused_iff_no_condition s (.fields [])).2.1 hsome).2
  · obtain ⟨b, hb⟩ := (hgrouped.refused_iff_no_condition s (.fields [])).2.2 hhollow
    exact ⟨b, hb _ _, hb _ _⟩

/-- An empty group is no condition, and yet a deletion goes through. -/
theorem not_forall_hollow_refused :
    ¬ ∀ (q : Query Unit) (calls : List (Call Unit)) (s : Store) (u : Update), Built q calls →
      (∀ call ∈ calls, call.IsHollow) →
        q.update s u = failed s (.missingFilter .update) ∧
          q.delete s = failed s (.missingFilter .delete) := by
  intro h
  have hbuilt : Built _ [.collectionHandle ⟨(), "users"⟩, .group .and []] :=
    .call (.call .empty rfl) rfl
  have hhollow : ∀ call ∈ [Call.collectionHandle ⟨(), "users"⟩, .group .and []],
      (call : Call Unit).IsHollow :=
    List.forall_mem_cons.2 ⟨.other rfl, List.forall_mem_singleton.2 (.group .and nofun)⟩
  let s : Store := ⟨[("users", [[("name", .string "al")], [("name", .string "bo")]])], 0⟩
  have hresult := congrArg Store.Effect.result (h _ _ s (.fields []) hbuilt hhollow).2
  cases hresult

end Query

end DocQuery
