import DocQuery.Proofs.Result
import DocQuery.Query.Basic

/-!
# Calls as edits of the state

What a configuration call does to the state of a query depends on the call alone. It is one of a
few edits: a selection, a condition, a join, an unwind stage, or a new value of a single setting.

## Main definitions

* `StateEdit`: the edits
* `StateEdit.apply`, `StateEdit.applyAll`: a state after one edit and after many
* `Query.Call.edit`: the edit of a call

## Main results

* `Query.of_applyAll`: what each call preserves, a list of calls preserves
* `Query.state_of_apply`, `Query.state_of_applyAll`: calls that succeed edit the state

## Design notes

A call that is refused for what it says, such as an unknown token, has the edit that does nothing.
Only the check of an index key reads the query, so that `Query.Call.edit` needs no query.
-/

namespace DocQuery

/-- What a configuration call does to the state of a query. -/
inductive StateEdit where
  /-- Leaves the state alone. -/
  | keep
  | select (fields : List Field)
  | condition (connective : Connective) (filter : Document)
  | join (j : Join)
  | unwind (path : String) (indexField? : Option String) (keepsEmpty : Bool)
  | limit (n : Nat)
  | offset (n : Nat)
  | order (field : String) (direction : SortOrder)
  | pipeline (raw : RawPipeline)
  | indexBy (field : String)

namespace StateEdit

/-- A state after an edit. -/
def apply (s : QueryState) : StateEdit → QueryState
  | keep => s
  | select fields =>
    { s with
      fields := (Selection.resolve fields).fields
      addFields := (Selection.resolve fields).addFields
      group? := (Selection.resolve fields).group?
      count? := (Selection.resolve fields).count? }
  | condition connective filter => { s with filters := s.filters.push connective filter }
  | join j => { s with lookup? := some j.lookupStage, unwind? := some j.unwindStage }
  | unwind path indexField? keepsEmpty =>
    { s with unwind? := some (unwindStage path indexField? keepsEmpty) }
  | limit n => { s with limit := n }
  | offset n => { s with skip := n }
  | order field direction => { s with order? := some [(field, .int32 direction.sign)] }
  | pipeline raw => { s with pipeline? := some raw }
  | indexBy field => { s with indexBy? := some field }

/-- A state after a list of edits. -/
def applyAll (s : QueryState) (edits : List StateEdit) : QueryState := edits.foldl apply s

theorem applyAll_append (s : QueryState) (first second : List StateEdit) :
    applyAll s (first ++ second) = applyAll (applyAll s first) second := List.foldl_append

end StateEdit

namespace Query

variable {κ : Type}

/-- The condition that a comparison under a token records, unless the token is unknown. -/
def tokenEdit (connective : Connective) (field token : String) (value : Value) : StateEdit :=
  match Operator.translate token with
  | .ok op => .condition connective (Filters.comparison field op value)
  | .error _ => .keep

variable [Regex.Engine]

/-- What a call does to the state. -/
def Call.edit : Call κ → StateEdit
  | .collection _ | .collectionHandle _ | .strictInserts _ => .keep
  | .select fields => .select fields
  | .compare connective field value =>
    .condition connective
      (Filters.comparison field (Filters.resolveValue value).1 (Filters.resolveValue value).2)
  | .compareWith connective field token value => tokenEdit connective field token value
  | .compareDate connective field token millis =>
    tokenEdit connective field token (.dateTime millis)
  | .predicate connective p => .condition connective p.document
  | .group connective calls =>
    match applyAll (empty : Query κ) calls with
    | .ok inner => .condition connective (RawFilter.ofDocuments [inner.filter]).document
    | .error _ => .keep
  | .oneOf connective field values =>
    .condition connective (Filters.comparison field "$in" (.array values))
  | .noneOf connective field values =>
    .condition connective (Filters.comparison field "$nin" (.array values))
  | .regex connective field pattern =>
    .condition connective (Filters.comparison field "$regex" (.string pattern))
  | .text connective kind field literal caseSensitive =>
    .condition connective
      (Filters.comparison field "$regex" (.string (kind.pattern literal caseSensitive)))
  | .join j => .join j
  | .joinOn source localField foreignField => .join (Join.on source localField foreignField)
  | .joinOperator source localField token foreignField =>
    match Join.onOperator source localField token foreignField with
    | .ok j => .join j
    | .error _ => .keep
  | .unwind path indexField? keepsEmpty => .unwind path indexField? keepsEmpty
  | .limit n => .limit n
  | .offset n => .offset n
  | .order field direction => .order field direction.order
  | .pipeline stages placement => .pipeline ⟨stages, placement⟩
  | .indexBy field => .indexBy field

omit [Regex.Engine] in
theorem tokenEdit_of_ok {connective : Connective} {field token op : String} {value : Value}
    (h : Operator.translate token = .ok op) :
    tokenEdit connective field token value =
      .condition connective (Filters.comparison field op value) := by
  rw [tokenEdit, h]

/-- What each call of a list preserves, the list preserves. -/
theorem of_applyAll {P : Query κ → Prop} {calls : List (Call κ)}
    (hstep : ∀ call ∈ calls, ∀ {q q' : Query κ}, P q → apply q call = .ok q' → P q')
    {q q' : Query κ} (hq : P q) (h : applyAll q calls = .ok q') : P q' := by
  induction calls generalizing q with
  | nil =>
    rw [applyAll] at h
    cases h
    exact hq
  | cons call rest ih =>
    rw [applyAll] at h
    obtain ⟨next, hnext, hrest⟩ := Except.bind_eq_ok_iff.1 h
    have hfirst : P next := hstep call List.mem_cons_self hq hnext
    exact ih (fun other hother => hstep other (List.mem_cons_of_mem _ hother)) hfirst hrest

/-- A call that succeeds edits the state. -/
theorem state_of_apply {q q' : Query κ} {call : Call κ} (h : apply q call = .ok q') :
    q'.state = call.edit.apply q.state := by
  -- The calls that can fail have cases of their own; every other call is its edit by definition.
  cases call with
  | collection name =>
    rw [apply, onCollection] at h
    cases hconnection : q.connection? with
    | none => rw [hconnection] at h; cases h
    | some connection => rw [hconnection] at h; cases h; rfl
  | compareWith connective field token value =>
    rw [apply] at h
    obtain ⟨op, hop, hq⟩ := Except.bind_eq_ok_iff.1 h
    cases hq
    rw [Call.edit, tokenEdit_of_ok hop]
    rfl
  | compareDate connective field token millis =>
    rw [apply] at h
    obtain ⟨op, hop, hq⟩ := Except.bind_eq_ok_iff.1 h
    cases hq
    rw [Call.edit, tokenEdit_of_ok hop]
    rfl
  | group connective calls =>
    rw [apply] at h
    obtain ⟨inner, hinner, hq⟩ := Except.bind_eq_ok_iff.1 h
    cases hq
    rw [Call.edit, hinner]
    rfl
  | joinOperator source localField token foreignField =>
    rw [apply] at h
    obtain ⟨j, hj, hq⟩ := Except.bind_eq_ok_iff.1 h
    cases hq
    rw [Call.edit, hj]
    rfl
  | indexBy field =>
    rw [apply, indexBy] at h
    split at h
    · cases h
    · cases h; rfl
  | _ => cases h; rfl

/-- Calls that succeed edit the state one after another. -/
theorem state_of_applyAll {q q' : Query κ} {calls : List (Call κ)}
    (h : applyAll q calls = .ok q') :
    q'.state = StateEdit.applyAll q.state (calls.map Call.edit) := by
  induction calls generalizing q with
  | nil =>
    rw [applyAll] at h
    cases h
    rfl
  | cons call rest ih =>
    rw [applyAll] at h
    obtain ⟨next, hnext, hrest⟩ := Except.bind_eq_ok_iff.1 h
    rw [ih hrest, state_of_apply hnext]
    rfl

end Query

end DocQuery
