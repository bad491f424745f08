import DocQuery.Proofs.Double.Integers
import DocQuery.Proofs.Join.NestedLoop
import DocQuery.Proofs.Pipeline.Faults
import DocQuery.Proofs.Query.Merge
import DocQuery.Proofs.Query.Refusal
import DocQuery.Proofs.Selection.Resolution
import Mathlib.Data.List.Nodup

/-!
# Well-formed pipelines

The stages of a query stand in a fixed order, each kind at most once, and none of them is ever
blamed for an error: whatever the rows, a pipeline fails for what they hold and not for its own
shape. This is about queries without ready-made stages, which are taken as they come.

## Main definitions

* `Pipeline.IsSoundStage`: a stage of a kind that is never blamed
* `QueryState.IsSound`: a state that holds sound stages, and no ready-made ones
* `QueryState.stageOrder`: the kinds of stages, in the order in which they run
* `QueryState.parts`: the stages of a state, kind by kind

## Main results

* `Join.isSoundStage_lookupStage`, `isSoundStage_unwindStage` and their siblings: the stages that
  calls make
* `StateEdit.isSound_apply`, `QueryState.IsSound.merge`: edits and merges keep states sound
* `QueryState.IsSound.forall₂_parts`: a sound state has sound stages of each kind
* `Query.Built.stages_wellFormed`: the pipelines of the queries that calls and merges make
-/

namespace DocQuery

open SparesStages (ok error)

section

variable [Regex.Engine]

/-! ## The stages that calls make -/

namespace Pipeline

/-- A stage with the one key of its kind that is never blamed, whatever rows it meets. -/
structure IsSoundStage (name : String) (stage : Document) : Prop where
  keys : Document.keys stage = [name]
  spares : ∀ collections vars docs,
    SparesStages (runStage collections vars (.document stage) docs)

theorem IsSoundStage.exists_body {name : String} {stage : Document} (h : IsSoundStage name stage) :
    ∃ body, stage = [(name, body)] := by
  obtain ⟨⟨_, body⟩, rfl, rfl⟩ := List.map_eq_singleton_iff.1 h.keys
  exact ⟨body, rfl⟩

theorem isSoundStage_of_runPlain {name : String} (hname : name ≠ "$lookup") {body : Value}
    (h : ∀ vars docs, SparesStages (runPlain name body vars docs)) :
    IsSoundStage name [(name, body)] := by
  refine ⟨rfl, fun collections vars docs => ?_⟩
  rw [runStage_of_ne collections vars docs hname]
  exact h vars docs

theorem isSoundStage_match (query : Document) :
    IsSoundStage "$match" [("$match", .document query)] :=
  isSoundStage_of_runPlain (by decide) fun vars docs => sparesStages_filterDocs query vars docs

theorem isSoundStage_sort (keys : Document) : IsSoundStage "$sort" [("$sort", .document keys)] :=
  isSoundStage_of_runPlain (by decide) fun _ _ => ok _

theorem isSoundStage_addFields (fields : Document) :
    IsSoundStage "$addFields" [("$addFields", .document fields)] :=
  isSoundStage_of_runPlain (by decide) fun vars docs =>
    sparesStages_mapDocs (Project.sparesStages_addFields vars fields) docs

theorem isSoundStage_project (projection : Document) :
    IsSoundStage "$project" [("$project", .document projection)] :=
  isSoundStage_of_runPlain (by decide) fun vars docs =>
    sparesStages_mapDocs (fun doc => Project.sparesStages_doc doc projection vars) docs

theorem isSoundStage_count (field : String) : IsSoundStage "$count" [("$count", .string field)] :=
  isSoundStage_of_runPlain (by decide) fun _ _ => ok _

theorem isSoundStage_group (name accumulator field : String) :
    IsSoundStage "$group" (Computed.groupStage name accumulator field) := by
  refine isSoundStage_of_runPlain (by decide) fun vars docs => Group.sparesStages_run vars ?_ docs
  intro entry hentry
  -- The accumulator may be written over the key of the group, and then there is none.
  obtain hentry | hentry := Document.mem_of_mem_extend hentry
  · cases hentry
  · simp only [List.mem_cons, List.not_mem_nil, or_false] at hentry
    obtain rfl | rfl := hentry
    · exact .inl rfl
    · exact .inr ⟨_, _, rfl⟩

omit [Regex.Engine] in
/-- A number of rows is at least zero, however large it is. -/
theorem sparesStages_bodyCount (name : String) (n : Nat) :
    SparesStages (bodyCount name (QueryState.countOperand n)) := by
  have hmin : min (n : Int) (2 ^ 63 - 1) = ((min n (2 ^ 63 - 1) : Nat) : Int) := by omega
  have hword : (Int64.ofInt (min (n : Int) (2 ^ 63 - 1))).toInt = min (n : Int) (2 ^ 63 - 1) :=
    Int64.toInt_ofInt_of_le (by omega) (by omega)
  rw [bodyCount, QueryState.countOperand, Value.toDouble?, hword, hmin]
  simp only [Double.isAtLeastZero_ofInt, if_true]
  exact ok _

theorem isSoundStage_countOperand {name : String} (hname : name = "$skip" ∨ name = "$limit")
    (n : Nat) : IsSoundStage name [(name, QueryState.countOperand n)] := by
  obtain rfl | rfl := hname <;>
    exact isSoundStage_of_runPlain (by decide) fun _ _ => (sparesStages_bodyCount _ n).bind_pure _

theorem isSoundStage_unwind {settings : Document} {field : String}
    (h : Document.string? settings "path" = some (fieldReference field)) :
    IsSoundStage "$unwind" [("$unwind", .document settings)] := by
  refine isSoundStage_of_runPlain (by decide) fun _ docs => Unwind.sparesStages_run ?_ docs
  rw [Unwind.Spec.ofValue?, h]
  simp only [Unwind.stripSigil_fieldReference]
  exact ok _

end Pipeline

open Pipeline (IsSoundStage)

theorem isSoundStage_unwindStage (path : String) (indexField? : Option String)
    (keepsEmpty : Bool) : IsSoundStage "$unwind" (unwindStage path indexField? keepsEmpty) := by
  cases indexField? <;> exact Pipeline.isSoundStage_unwind rfl

theorem Join.isSoundStage_unwindStage (j : Join) : IsSoundStage "$unwind" j.unwindStage :=
  Pipeline.isSoundStage_unwind rfl

/-- The lookup stage of a join has the settings that it needs, and its own pipeline is a match. -/
theorem Join.isSoundStage_lookupStage (j : Join) : IsSoundStage "$lookup" j.lookupStage := by
  refine ⟨rfl, fun collections vars docs => ?_⟩
  rw [lookupStage_eq, Pipeline.runStage_lookup, pipelineSetting?_lookupSettings]
  refine Pipeline.sparesStages_mapDocs (fun doc => ?_) docs
  have hbindings := Expression.sparesStages_evalFields doc []
    ((Document.document? j.lookupSettings "let").getD [])
  have hpipeline : ∀ vars rows,
      SparesStages (Pipeline.run collections rows [j.matchStage] vars) := fun vars =>
    Pipeline.sparesStages_run
      (List.forall_mem_singleton.2 ((Pipeline.isSoundStage_match _).spares collections vars))
  exact (hbindings.bind fun bindings => hpipeline bindings _).bind_pure _

namespace Selection

/-- The stages of measures that a selection comes to are sound. -/
structure IsSound (s : Selection) : Prop where
  group : ∀ stage ∈ s.group?, IsSoundStage "$group" stage
  count : ∀ stage ∈ s.count?, IsSoundStage "$count" stage

theorem IsSound.add {s : Selection} (h : s.IsSound) (field : Field) : (s.add field).IsSound := by
  cases field with
  | name | renamed => exact ⟨h.group, h.count⟩
  | computed c =>
    obtain ⟨measure, field, name⟩ := c
    cases measure with
    | length => exact ⟨h.group, h.count⟩
    | count =>
      refine ⟨h.group, ?_⟩
      rintro _ ⟨⟩
      exact Pipeline.isSoundStage_count name
    | greatest | least =>
      refine ⟨?_, h.count⟩
      rintro _ ⟨⟩
      exact Pipeline.isSoundStage_group name _ field

theorem isSound_resolve (fields : List Field) : (resolve fields).IsSound := by
  have hempty : empty.IsSound := ⟨nofun, nofun⟩
  have hfold : (fields.foldl add empty).IsSound :=
    List.foldlRecOn fields add hempty fun _ h field _ => h.add field
  obtain ⟨-, hgroup, hcount⟩ := hideId_parts (fields.foldl add empty)
  refine ⟨?_, ?_⟩
  · rw [resolve, hgroup]
    exact hfold.group
  · rw [resolve, hcount]
    exact hfold.count

end Selection

/-! ## States -/

namespace QueryState

/-- A state that holds sound stages, and no ready-made ones. -/
structure IsSound (s : QueryState) : Prop where
  lookup : ∀ stage ∈ s.lookup?, IsSoundStage "$lookup" stage
  unwind : ∀ stage ∈ s.unwind?, IsSoundStage "$unwind" stage
  count : ∀ stage ∈ s.count?, IsSoundStage "$count" stage
  group : ∀ stage ∈ s.group?, IsSoundStage "$group" stage
  pipeline : s.pipeline? = none

theorem isSound_empty : empty.IsSound := ⟨nofun, nofun, nofun, nofun, rfl⟩

section Merging

variable {name : String} {first? second? : Option Document}
  (hfirst : ∀ stage ∈ first?, IsSoundStage name stage)
  (hsecond : ∀ stage ∈ second?, IsSoundStage name stage)
include hfirst hsecond

theorem isSoundStage_mergeStage : ∀ stage ∈ mergeStage first? second?, IsSoundStage name stage := by
  cases second? with
  | none => exact hfirst
  | some second =>
    -- Both have the one key of their kind, so the second body is written over the first.
    rw [mergeStage_some (fun first h => (hfirst first h).keys) (hsecond second rfl).keys]
    exact hsecond

theorem isSoundStage_orElse :
    ∀ stage ∈ (second? <|> first? : Option Document), IsSoundStage name stage := by
  cases second? with
  | none => exact hfirst
  | some second => exact hsecond

end Merging

theorem IsSound.merge {s other : QueryState} (hs : s.IsSound) (hother : other.IsSound) :
    (s.merge other).IsSound where
  lookup := isSoundStage_mergeStage hs.lookup hother.lookup
  unwind := isSoundStage_mergeStage hs.unwind hother.unwind
  count := isSoundStage_orElse hs.count hother.count
  group := isSoundStage_orElse hs.group hother.group
  pipeline := by
    simp only [QueryState.merge, hs.pipeline, hother.pipeline]
    rfl

end QueryState

namespace StateEdit

/-- Whether an edit sets ready-made stages. -/
def isPipeline : StateEdit → Bool
  | pipeline _ => true
  | _ => false

/-- An edit that sets no ready-made stages keeps a state sound. -/
theorem isSound_apply {s : QueryState} (hs : s.IsSound) {edit : StateEdit}
    (hedit : edit.isPipeline = false) : (apply s edit).IsSound := by
  cases edit with
  | pipeline raw => cases hedit
  | select fields =>
    have hselection := Selection.isSound_resolve fields
    exact ⟨hs.lookup, hs.unwind, hselection.count, hselection.group, hs.pipeline⟩
  | join j =>
    refine ⟨?_, ?_, hs.count, hs.group, hs.pipeline⟩
    · rintro _ ⟨⟩
      exact j.isSoundStage_lookupStage
    · rintro _ ⟨⟩
      exact j.isSoundStage_unwindStage
  | unwind path indexField? keepsEmpty =>
    refine ⟨hs.lookup, ?_, hs.count, hs.group, hs.pipeline⟩
    rintro _ ⟨⟩
    exact isSoundStage_unwindStage path indexField? keepsEmpty
  | _ => exact ⟨hs.lookup, hs.unwind, hs.count, hs.group, hs.pipeline⟩

end StateEdit

/-! ## Stages kind by kind -/

namespace QueryState

/-- The kinds of stages, in the order in which they run. -/
def stageOrder : List String :=
  ["$lookup", "$unwind", "$addFields", "$match", "$sort", "$skip", "$limit", "$count", "$project",
    "$group"]

/-- The keys of stages, one after another. -/
def stageNames (stages : List Document) : List String := stages.flatMap Document.keys

/-- The stages of a state that has no ready-made ones, kind by kind. -/
def parts (s : QueryState) : List (List Document) :=
  [s.lookup?.toList, s.unwind?.toList, stageUnlessEmpty "$addFields" s.addFields, s.matchStages,
    s.sortStages, stageUnlessZero "$skip" s.skip, stageUnlessZero "$limit" s.limit,
    s.count?.toList, stageUnlessEmpty "$project" s.fields, s.group?.toList]

omit [Regex.Engine] in
theorem assemble_eq_flatten_parts {s : QueryState} (h : s.pipeline? = none) :
    s.assemble = s.parts.flatten := by
  simp [assemble, rawStages, h, parts]

/-- At most one stage of a kind, which is sound. -/
def IsPart (name : String) (stages : List Document) : Prop :=
  ∃ stage? : Option Document, stages = stage?.toList ∧ ∀ stage ∈ stage?, IsSoundStage name stage

theorem IsPart.nil (name : String) : IsPart name [] := ⟨none, rfl, nofun⟩

theorem IsPart.singleton {name : String} {stage : Document} (h : IsSoundStage name stage) :
    IsPart name [stage] := by
  refine ⟨some stage, rfl, ?_⟩
  rintro _ ⟨⟩
  exact h

theorem IsPart.stageUnlessEmpty {name : String} {body : Document}
    (h : IsSoundStage name [(name, .document body)]) :
    IsPart name (stageUnlessEmpty name body) := by
  unfold QueryState.stageUnlessEmpty
  split
  · exact .nil name
  · exact .singleton h

theorem IsPart.stageUnlessZero {name : String} (hname : name = "$skip" ∨ name = "$limit")
    (n : Nat) : IsPart name (stageUnlessZero name n) := by
  unfold QueryState.stageUnlessZero
  split
  · exact .nil name
  · exact .singleton (Pipeline.isSoundStage_countOperand hname n)

theorem IsPart.matchStages (s : QueryState) : IsPart "$match" s.matchStages := by
  unfold QueryState.matchStages
  split
  · exact .nil "$match"
  · exact .singleton (Pipeline.isSoundStage_match _)

omit [Regex.Engine] in
theorem sortStages_of_pipeline?_eq_none {s : QueryState} (h : s.pipeline? = none) :
    s.sortStages = [[("$sort", .document (s.order?.getD defaultOrder))]] := by
  rw [sortStages, hasRawStages, h]
  exact if_neg Bool.false_ne_true

/-- A sound state has at most one stage of each kind, and that one is sound. -/
theorem IsSound.forall₂_parts {s : QueryState} (h : s.IsSound) :
    List.Forall₂ IsPart stageOrder s.parts := by
  -- Without ready-made stages nothing suppresses the sort.
  have hsort : IsPart "$sort" s.sortStages := by
    rw [sortStages_of_pipeline?_eq_none h.pipeline]
    exact .singleton (Pipeline.isSoundStage_sort _)
  refine .cons ⟨s.lookup?, rfl, h.lookup⟩ (.cons ⟨s.unwind?, rfl, h.unwind⟩ (.cons ?_ (.cons ?_
    (.cons hsort (.cons ?_ (.cons ?_ (.cons ⟨s.count?, rfl, h.count⟩ (.cons ?_
    (.cons ⟨s.group?, rfl, h.group⟩ .nil)))))))))
  · exact .stageUnlessEmpty (Pipeline.isSoundStage_addFields s.addFields)
  · exact .matchStages s
  · exact .stageUnlessZero (.inl rfl) s.skip
  · exact .stageUnlessZero (.inr rfl) s.limit
  · exact .stageUnlessEmpty (Pipeline.isSoundStage_project s.fields)

/-- At most one sound stage of each kind, in order: the keys are among the kinds, in their order, and
all stages are sound. -/
theorem sublist_of_forall₂_isPart {names : List String} {parts : List (List Document)}
    (h : List.Forall₂ IsPart names parts) :
    (stageNames parts.flatten).Sublist names ∧
      ∀ stage ∈ parts.flatten, ∃ name, IsSoundStage name stage := by
  induction h with
  | nil => exact ⟨.refl _, nofun⟩
  | @cons name part names parts hpart _ ih =>
    obtain ⟨stage?, rfl, hsound⟩ := hpart
    obtain ⟨hnames, hstages⟩ := ih
    cases stage? with
    | none => exact ⟨hnames.cons name, hstages⟩
    | some stage =>
      have hstage := hsound stage rfl
      refine ⟨?_, List.forall_mem_cons.2 ⟨⟨name, hstage⟩, hstages⟩⟩
      change (Document.keys stage ++ stageNames parts.flatten).Sublist (name :: names)
      rw [hstage.keys]
      exact hnames.cons_cons name

end QueryState

/-! ## Queries -/

namespace Query

variable {κ : Type}

open QueryState (stageNames stageOrder)

/-- Whether a call sets ready-made stages. -/
def Call.isPipeline : Call κ → Bool
  | .pipeline .. => true
  | _ => false

omit [Regex.Engine] in
theorem isPipeline_tokenEdit (connective : Connective) (field token : String) (value : Value) :
    (tokenEdit connective field token value).isPipeline = false := by
  unfold tokenEdit
  split <;> rfl

/-- The edit of a call sets ready-made stages if the call does. -/
theorem isPipeline_edit (call : Call κ) : call.edit.isPipeline = call.isPipeline := by
  cases call with
  | compareWith connective field token value => exact isPipeline_tokenEdit _ _ _ _
  | compareDate connective field token millis => exact isPipeline_tokenEdit _ _ _ _
  | group connective calls =>
    rw [Call.edit]
    split <;> rfl
  | joinOperator source localField token foreignField =>
    rw [Call.edit]
    split <;> rfl
  | _ => rfl

/-- Calls that set no ready-made stages, and merges of such queries, make sound states. -/
theorem Built.isSound_state {q : Query κ} {calls : List (Call κ)} (h : Built q calls)
    (hcalls : ∀ call ∈ calls, call.isPipeline = false) : q.state.IsSound := by
  induction h with
  | empty => exact QueryState.isSound_empty
  | withConnection connection _ ih => exact ih hcalls
  | @call q q' calls call _ happly ih =>
    have hcall : call.edit.isPipeline = false := by
      rw [isPipeline_edit]
      exact hcalls call (List.mem_append_right _ List.mem_cons_self)
    rw [state_of_apply happly]
    exact StateEdit.isSound_apply (ih fun c hc => hcalls c (List.mem_append_left _ hc)) hcall
  | merge _ _ ih ihmore =>
    exact (ih fun c hc => hcalls c (List.mem_append_left _ hc)).merge
      (ihmore fun c hc => hcalls c (List.mem_append_right _ hc))
  | find _ ih =>
    have hs := ih hcalls
    exact ⟨hs.lookup, hs.unwind, hs.count, hs.group, hs.pipeline⟩
  | findAll _ ih => exact ih hcalls
  | count _ ih =>
    have hs := ih hcalls
    refine ⟨hs.lookup, hs.unwind, ?_, hs.group, hs.pipeline⟩
    rintro _ ⟨⟩
    exact Pipeline.isSoundStage_count "count"

/-- The stages of a query without ready-made stages have one key each, in the fixed order and each
at most once, with a sort among them. Whatever the collections, the rows and the variables, running
them gives no error about an unknown or a malformed stage. -/
theorem Built.stages_wellFormed {q : Query κ} {calls : List (Call κ)} (h : Built q calls)
    (hcalls : ∀ call ∈ calls, call.isPipeline = false) :
    (∀ stage ∈ q.stages, ∃ name body, stage = [(name, body)]) ∧
      (stageNames q.stages).Sublist stageOrder ∧ (stageNames q.stages).Nodup ∧
      (stageNames q.stages).count "$sort" = 1 ∧
      ∀ collections docs vars,
        (∀ name, Pipeline.run collections docs q.stages vars ≠ .error (.unsupportedStage name)) ∧
          ∀ fault, Pipeline.run collections docs q.stages vars ≠ .error (.invalidStage fault) := by
  have hsound := h.isSound_state hcalls
  have hstages : q.stages = q.state.parts.flatten :=
    QueryState.assemble_eq_flatten_parts hsound.pipeline
  obtain ⟨hnames, hall⟩ := QueryState.sublist_of_forall₂_isPart hsound.forall₂_parts
  have horder : stageOrder.Nodup := by decide
  have hsort : "$sort" ∈ stageNames q.state.parts.flatten := by
    refine List.mem_flatMap.2 ⟨[("$sort", .document (q.state.order?.getD QueryState.defaultOrder))],
      ?_, List.mem_cons_self⟩
    simp [QueryState.parts, QueryState.sortStages_of_pipeline?_eq_none hsound.pipeline]
  rw [hstages]
  refine ⟨fun stage hstage => ?_, hnames, hnames.nodup horder,
    List.count_eq_one_of_mem (hnames.nodup horder) hsort, fun collections docs vars => ?_⟩
  · obtain ⟨name, hsound⟩ := hall stage hstage
    exact ⟨name, hsound.exists_body⟩
  · have hspares : SparesStages (Pipeline.run collections docs q.state.parts.flatten vars) := by
      refine Pipeline.sparesStages_run (fun stage hstage => ?_) docs
      obtain ⟨name, hsound⟩ := hall stage hstage
      exact hsound.spares collections vars
    exact ⟨fun name hrun => absurd (hspares _ hrun) Bool.noConfusion,
      fun fault hrun => absurd (hspares _ hrun) Bool.noConfusion⟩

end Query

end

namespace Query

open QueryState (stageNames)

/-- Two queries with a join each, merged and then counted: one of each stage remains. -/
theorem Built.stages_wellFormed_merged :
    let first : List (Call Unit) :=
      [.select [.name "name", .computed (Computed.ofField .greatest "age")],
        .joinOn "orders" "order" "id", .limit 5]
    let second : List (Call Unit) := [.joinOn "users" "user" "id", .offset 2]
    ∃ q : Query Unit, Built q (first ++ second) ∧
      (∀ call ∈ first ++ second, call.isPipeline = false) ∧
      stageNames q.stages =
        ["$lookup", "$unwind", "$sort", "$skip", "$limit", "$count", "$project", "$group"] ∧
      (stageNames q.stages).count "$sort" = 1 ∧
      ∀ docs fault, Pipeline.run [] docs q.stages [] ≠ .error (.invalidStage fault) := by
  intro first second
  have hfirst : Built _ first := .call (.call (.call .empty rfl) rfl) rfl
  have hsecond : Built _ second := .call (.call .empty rfl) rfl
  have hbuilt := (hfirst.merge hsecond).count
  have hcalls : ∀ call ∈ first ++ second, call.isPipeline = false := by
    simp [first, second, Call.isPipeline]
  obtain ⟨-, -, -, hsort, hrun⟩ := hbuilt.stages_wellFormed hcalls
  exact ⟨_, hbuilt, hcalls, rfl, hsort, fun docs fault => (hrun [] docs []).2 fault⟩

end Query

end DocQuery
