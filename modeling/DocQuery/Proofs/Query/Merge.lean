import DocQuery.Proofs.Document.Fields
import DocQuery.Proofs.Query.Edits
import DocQuery.Regex.Basic
import Mathlib.Data.List.Forall2

/-!
# Merged queries

Queries that were built separately and then merged have the state of one query that was built by
all of the calls, if at most one of them selects fields and none sets a limit or an offset of zero.

## Main definitions

* `QueryState.HasStageKeys`: the stages of joins have their keys
* `QueryState.SelectsNothing`: the selection is at its default
* `Query.Call.isSelect`, `Query.Call.isZeroPaging`: the calls that the merge treats differently

## Main results

* `StateEdit.apply_merge`: an edit of a folded state is an edit of the state folded in
* `StateEdit.foldl_merge`: folding in states that edits made is making all the edits
* `Query.merge_agrees_applyAll_flatten`: merging queries is building them in one place

## Design notes

A setting at its default counts as absent in a merge. So a limit of zero behind a limit of five takes
the limit back when both are set in one place, and leaves it when it comes from a merged query.
-/

namespace DocQuery

namespace Selection

/-- The keys of a projection are unique. -/
theorem hasUniqueKeys_resolve (fields : List Field) :
    Document.HasUniqueKeys (resolve fields).fields := by
  have hadd : ∀ (s : Selection) (field : Field), Document.HasUniqueKeys s.fields →
      Document.HasUniqueKeys (s.add field).fields := by
    intro s field hs
    cases field with
    | name name => exact hs.insert name _
    | renamed source target => exact hs.insert target _
    | computed c =>
      cases hmeasure : c.measure with
      | length => simpa only [add, hmeasure] using hs.insert c.alias _
      | count => simpa only [add, hmeasure] using hs
      | greatest => simpa only [add, hmeasure] using hs
      | least => simpa only [add, hmeasure] using hs
  have hfold : ∀ s : Selection, Document.HasUniqueKeys s.fields →
      Document.HasUniqueKeys (fields.foldl add s).fields := by
    induction fields with
    | nil => exact fun _ hs => hs
    | cons field rest ih => exact fun s hs => ih (s.add field) (hadd s field hs)
  have hrequested := hfold empty List.nodup_nil
  unfold resolve hideId
  split
  · exact hrequested
  · exact hrequested.insert "_id" _

end Selection

namespace QueryState

/-- The stages of joins have the one key of their kind. -/
structure HasStageKeys (s : QueryState) : Prop where
  lookup : ∀ stage ∈ s.lookup?, Document.keys stage = ["$lookup"]
  unwind : ∀ stage ∈ s.unwind?, Document.keys stage = ["$unwind"]

/-- The selection is at its default. -/
structure SelectsNothing (s : QueryState) : Prop where
  fields : s.fields = []
  addFields : s.addFields = []
  group? : s.group? = none
  count? : s.count? = none

theorem hasStageKeys_empty : empty.HasStageKeys := ⟨nofun, nofun⟩

theorem selectsNothing_empty : empty.SelectsNothing := ⟨rfl, rfl, rfl, rfl⟩

/-- A stage replaces a stage of its kind. -/
theorem mergeStage_some {name : String} {first? : Option Document} {stage : Document}
    (hfirst : ∀ first ∈ first?, Document.keys first = [name])
    (hstage : Document.keys stage = [name]) : mergeStage first? (some stage) = some stage := by
  obtain ⟨⟨_, body⟩, rfl, rfl⟩ := List.map_eq_singleton_iff.1 hstage
  rw [mergeStage, Document.extend_singleton]
  cases hfound : first? with
  | none => rfl
  | some first =>
    obtain ⟨⟨_, old⟩, rfl, rfl⟩ := List.map_eq_singleton_iff.1 (hfirst first hfound)
    exact congrArg some (if_pos rfl)

theorem merge_empty (s : QueryState) : s.merge empty = s := by
  have hfilters : s.filters.append Filters.empty = s.filters :=
    congrArg Filters.mk (List.append_nil s.filters.entries)
  simp only [merge, empty, hfilters]
  rfl

/-- A state that selects nothing takes over the selection that is folded in. -/
theorem merge_selection {base : QueryState} (hbase : base.SelectsNothing) (s : QueryState)
    {fields : Document} (hfields : Document.HasUniqueKeys fields) (addFields : Document)
    (group? count? : Option Document) :
    base.merge { s with fields, addFields, group?, count? } =
      { base.merge s with fields, addFields, group?, count? } := by
  have hextend : Document.extend base.fields fields = fields := by
    rw [hbase.fields]
    exact Document.ofList_of_nodup hfields
  have hreplace : (if addFields.isEmpty then base.addFields else addFields) = addFields := by
    rw [hbase.addFields]
    cases addFields <;> rfl
  have hnone : ∀ stage? : Option Document, (stage? <|> none) = stage? :=
    fun stage? => by cases stage? <;> rfl
  simp only [merge, hextend, hreplace, hbase.group?, hbase.count?, hnone]

end QueryState

namespace StateEdit

/-- Whether an edit is a selection. -/
def isSelect : StateEdit → Bool
  | select _ => true
  | _ => false

/-- Whether an edit sets a limit or an offset of zero. -/
def isZeroPaging : StateEdit → Bool
  | limit n | offset n => n == 0
  | _ => false

/-- An edit keeps the keys of the stages of joins. -/
theorem hasStageKeys_apply {s : QueryState} (hs : s.HasStageKeys) (edit : StateEdit) :
    (apply s edit).HasStageKeys := by
  cases edit with
  | join j =>
    refine ⟨?_, ?_⟩
    · rintro _ ⟨⟩
      rfl
    · rintro _ ⟨⟩
      rfl
  | unwind path indexField? keepsEmpty =>
    refine ⟨hs.lookup, ?_⟩
    rintro _ ⟨⟩
    rfl
  | _ => exact ⟨hs.lookup, hs.unwind⟩

/-- An edit that is no selection leaves the selection alone. -/
theorem selectsNothing_apply {s : QueryState} (hs : s.SelectsNothing) {edit : StateEdit}
    (hselect : edit.isSelect = false) : (apply s edit).SelectsNothing := by
  cases edit with
  | select fields => cases hselect
  | _ => exact ⟨hs.fields, hs.addFields, hs.group?, hs.count?⟩

/-- An edit of a folded state is an edit of the state folded in. -/
theorem apply_merge {base s : QueryState} (hbase : base.HasStageKeys) {edit : StateEdit}
    (hzero : edit.isZeroPaging = false) (hselect : edit.isSelect = true → base.SelectsNothing) :
    apply (base.merge s) edit = base.merge (apply s edit) := by
  -- Settings that are replaced as a whole commute by definition; the named cases are the others.
  cases edit with
  | select fields =>
    exact (QueryState.merge_selection (hselect rfl) s (Selection.hasUniqueKeys_resolve fields)
      _ _ _).symm
  | condition connective filter =>
    have hfilters : (base.filters.append s.filters).push connective filter =
        base.filters.append (s.filters.push connective filter) :=
      congrArg Filters.mk (List.append_assoc _ _ _)
    exact congrArg (fun filters => { base.merge s with filters }) hfilters
  | join j =>
    have hlookup := QueryState.mergeStage_some hbase.lookup
      (show Document.keys j.lookupStage = ["$lookup"] from rfl)
    have hunwind := QueryState.mergeStage_some hbase.unwind
      (show Document.keys j.unwindStage = ["$unwind"] from rfl)
    change _ = { base.merge s with
      lookup? := QueryState.mergeStage base.lookup? (some j.lookupStage)
      unwind? := QueryState.mergeStage base.unwind? (some j.unwindStage) }
    rw [hlookup, hunwind]
    rfl
  | unwind path indexField? keepsEmpty =>
    have hunwind := QueryState.mergeStage_some hbase.unwind
      (show Document.keys (unwindStage path indexField? keepsEmpty) = ["$unwind"] from rfl)
    exact congrArg (fun unwind? => { base.merge s with unwind? }) hunwind.symm
  | limit n =>
    have hn : n ≠ 0 := by
      rintro rfl
      cases hzero
    exact congrArg (fun limit => { base.merge s with limit }) (if_neg hn).symm
  | offset n =>
    have hn : n ≠ 0 := by
      rintro rfl
      cases hzero
    exact congrArg (fun skip => { base.merge s with skip }) (if_neg hn).symm
  | _ => rfl

theorem applyAll_merge {base : QueryState} (hbase : base.HasStageKeys) {edits : List StateEdit}
    (hzero : ∀ edit ∈ edits, edit.isZeroPaging = false)
    (hselect : edits.any isSelect = true → base.SelectsNothing) (s : QueryState) :
    applyAll (base.merge s) edits = base.merge (applyAll s edits) := by
  induction edits generalizing s with
  | nil => rfl
  | cons edit rest ih =>
    have hedit : apply (base.merge s) edit = base.merge (apply s edit) := by
      refine apply_merge hbase (hzero edit List.mem_cons_self) fun h => hselect ?_
      rw [List.any_cons, h, Bool.true_or]
    have hrest := ih (fun other hother => hzero other (List.mem_cons_of_mem _ hother)) fun h =>
      hselect (by rw [List.any_cons, h, Bool.or_true])
    change applyAll (apply (base.merge s) edit) rest = base.merge (applyAll (apply s edit) rest)
    rw [hedit, hrest]

theorem hasStageKeys_applyAll {s : QueryState} (hs : s.HasStageKeys) (edits : List StateEdit) :
    (applyAll s edits).HasStageKeys := by
  induction edits generalizing s with
  | nil => exact hs
  | cons edit rest ih => exact ih (hasStageKeys_apply hs edit)

theorem selectsNothing_applyAll {s : QueryState} (hs : s.SelectsNothing) {edits : List StateEdit}
    (hselect : edits.any isSelect = false) : (applyAll s edits).SelectsNothing := by
  induction edits generalizing s with
  | nil => exact hs
  | cons edit rest ih =>
    rw [List.any_cons, Bool.or_eq_false_iff] at hselect
    exact ih (selectsNothing_apply hs hselect.1) hselect.2

/-- Folding in the states that lists of edits make, one after another, is making all the edits, if
at most one list selects fields and then only into a state that selects nothing. -/
theorem foldl_merge {base : QueryState} (hbase : base.HasStageKeys)
    {blocks : List (List StateEdit)}
    (hzero : ∀ edits ∈ blocks, ∀ edit ∈ edits, edit.isZeroPaging = false)
    (honce : blocks.Pairwise fun first second =>
      ¬(first.any isSelect = true ∧ second.any isSelect = true))
    (hselect : (∃ edits ∈ blocks, edits.any isSelect = true) → base.SelectsNothing) :
    (blocks.map (applyAll QueryState.empty)).foldl QueryState.merge base =
      applyAll base blocks.flatten := by
  induction blocks generalizing base with
  | nil => rfl
  | cons edits rest ih =>
    obtain ⟨hfirst, hrest⟩ := List.pairwise_cons.1 honce
    -- Folding in the first block is making its edits, since they started from nothing.
    have hmerge : base.merge (applyAll QueryState.empty edits) = applyAll base edits := by
      rw [← applyAll_merge hbase (hzero edits List.mem_cons_self)
        (fun h => hselect ⟨edits, List.mem_cons_self, h⟩), QueryState.merge_empty]
    rw [List.map_cons, List.foldl_cons, hmerge, List.flatten_cons, applyAll_append]
    refine ih (hasStageKeys_applyAll hbase edits)
      (fun other hother => hzero other (List.mem_cons_of_mem _ hother)) hrest ?_
    rintro ⟨other, hother, hother_select⟩
    refine selectsNothing_applyAll (hselect ⟨other, List.mem_cons_of_mem _ hother,
      hother_select⟩) ?_
    rw [← Bool.not_eq_true]
    exact fun h => hfirst other hother ⟨h, hother_select⟩

end StateEdit

namespace Query

variable {κ : Type}

/-- Whether a call selects fields. -/
def Call.isSelect : Call κ → Bool
  | .select _ => true
  | _ => false

/-- Whether a call sets a limit or an offset of zero. -/
def Call.isZeroPaging : Call κ → Bool
  | .limit n | .offset n => n == 0
  | _ => false

theorem flags_tokenEdit (connective : Connective) (field token : String) (value : Value) :
    (tokenEdit connective field token value).isSelect = false ∧
      (tokenEdit connective field token value).isZeroPaging = false := by
  unfold tokenEdit
  split <;> exact ⟨rfl, rfl⟩

section

variable [Regex.Engine]

/-- The edit of a call selects fields, or sets a limit or an offset of zero, if the call does. -/
theorem flags_edit (call : Call κ) :
    call.edit.isSelect = call.isSelect ∧ call.edit.isZeroPaging = call.isZeroPaging := by
  cases call with
  | compareWith connective field token value => exact flags_tokenEdit _ _ _ _
  | compareDate connective field token millis => exact flags_tokenEdit _ _ _ _
  | group connective calls =>
    rw [Call.edit]
    split <;> exact ⟨rfl, rfl⟩
  | joinOperator source localField token foreignField =>
    rw [Call.edit]
    split <;> exact ⟨rfl, rfl⟩
  | _ => exact ⟨rfl, rfl⟩

omit [Regex.Engine] in
theorem state_foldl_mergeWith (q : Query κ) (queries : List (Query κ)) :
    (queries.foldl mergeWith q).state = (queries.map state).foldl QueryState.merge q.state := by
  induction queries generalizing q with
  | nil => rfl
  | cons other rest ih => exact ih (q.mergeWith other)

/-- Queries that calls built from nothing have the states that the edits of the calls make. -/
theorem map_state_of_applyAll {blocks : List (List (Call κ))} {built : List (Query κ)}
    (hbuilt : List.Forall₂ (fun calls q => applyAll empty calls = .ok q) blocks built) :
    built.map state =
      (blocks.map (List.map Call.edit)).map (StateEdit.applyAll QueryState.empty) := by
  induction hbuilt with
  | nil => rfl
  | cons hcalls _ ih =>
    rw [List.map_cons, ih, state_of_applyAll hcalls]
    rfl

/-- Merging queries is building them in one place: if queries are built from nothing by calls of
which none sets a limit or an offset of zero, if at most one of them is given a selection, and if
all the calls succeed on one query as well, then the merged query has the state of that query, its
stages and its filter. -/
theorem merge_agrees_applyAll_flatten {blocks : List (List (Call κ))} {built : List (Query κ)}
    {single : Query κ}
    (hbuilt : List.Forall₂ (fun calls q => applyAll empty calls = .ok q) blocks built)
    (honce : blocks.Pairwise fun first second =>
      ¬(first.any Call.isSelect = true ∧ second.any Call.isSelect = true))
    (hzero : ∀ calls ∈ blocks, ∀ call ∈ calls, call.isZeroPaging = false)
    (hsingle : applyAll empty blocks.flatten = .ok single) :
    (merge built).state = single.state ∧ (merge built).stages = single.stages ∧
      (merge built).filter = single.filter := by
  have hedits : ∀ calls : List (Call κ),
      (calls.map Call.edit).any StateEdit.isSelect = calls.any Call.isSelect := by
    intro calls
    rw [List.any_map]
    exact congrArg (List.any calls) (funext fun call => (flags_edit call).1)
  have honce' : (blocks.map (List.map Call.edit)).Pairwise fun first second =>
      ¬(first.any StateEdit.isSelect = true ∧ second.any StateEdit.isSelect = true) := by
    refine List.pairwise_map.2 (honce.imp ?_)
    intro first second h
    rwa [hedits, hedits]
  have hzero' : ∀ edits ∈ blocks.map (List.map Call.edit), ∀ edit ∈ edits,
      edit.isZeroPaging = false := by
    intro edits hedits edit hedit
    obtain ⟨calls, hcalls, rfl⟩ := List.mem_map.1 hedits
    obtain ⟨call, hcall, rfl⟩ := List.mem_map.1 hedit
    rw [(flags_edit call).2]
    exact hzero calls hcalls call hcall
  have hstate : (merge built).state = single.state := calc
    (merge built).state = (built.map state).foldl QueryState.merge QueryState.empty :=
      state_foldl_mergeWith empty built
    _ = ((blocks.map (List.map Call.edit)).map (StateEdit.applyAll QueryState.empty)).foldl
          QueryState.merge QueryState.empty := by rw [map_state_of_applyAll hbuilt]
    _ = StateEdit.applyAll QueryState.empty (blocks.map (List.map Call.edit)).flatten :=
      StateEdit.foldl_merge QueryState.hasStageKeys_empty hzero' honce'
        fun _ => QueryState.selectsNothing_empty
    _ = StateEdit.applyAll QueryState.empty (blocks.flatten.map Call.edit) := by
      rw [List.map_flatten]
    _ = single.state := (state_of_applyAll hsingle).symm
  refine ⟨hstate, ?_, ?_⟩
  · rw [stages, hstate, stages]
  · rw [filter, hstate, filter]

end

/-- A join and a condition in one query, an unwind stage, a limit and a selection in another. -/
theorem merge_agrees_applyAll_flatten_join :
    ∃ first second single : Query Unit,
      applyAll empty [.joinOn "users" "user" "id", .compareWith .and "total" ">" (.int32 9)] =
          .ok first ∧
        applyAll empty [.unwind "users#joined" none true, .limit 5, .select [.name "total"]] =
          .ok second ∧
        applyAll empty [.joinOn "users" "user" "id", .compareWith .and "total" ">" (.int32 9),
          .unwind "users#joined" none true, .limit 5, .select [.name "total"]] = .ok single ∧
        (merge [first, second]).state = single.state ∧
        (merge [first, second]).stages = single.stages ∧
        (merge [first, second]).filter = single.filter := by
  have honce : [[.joinOn "users" "user" "id", .compareWith .and "total" ">" (.int32 9)],
      [.unwind "users#joined" none true, .limit 5, .select [.name "total"]]].Pairwise
        fun first second : List (Call Unit) =>
          ¬(first.any Call.isSelect = true ∧ second.any Call.isSelect = true) := by decide
  refine ⟨_, _, _, rfl, rfl, rfl, ?_⟩
  exact merge_agrees_applyAll_flatten (.cons rfl (.cons rfl .nil)) honce (by decide) rfl

end Query

end DocQuery
