import DocQuery.Proofs.Pipeline.Rows

/-!
# Errors that blame a stage

A stage that is unknown or malformed has errors of its own. Nothing else makes them: expressions,
conditions and writes fail with other errors, whatever they work on. So a pipeline is blamed for what
its stages look like, and not for the rows it meets.

## Main definitions

* `StoreError.blamesStage`: the errors about a stage
* `SparesStages`: a result that is no such error

## Main results

* `Expression.sparesStages_eval`, `Condition.sparesStages_docMatches`: expressions and conditions
* `Pipeline.sparesStages_mapDocs`: a change of rows by a function that spares stages
* `Group.sparesStages_run`, `Unwind.sparesStages_run`: stages whose bodies are well formed
* `Pipeline.sparesStages_run`: a pipeline of stages that spare stages
-/

namespace DocQuery

/-- Whether an error is about a stage, and not about what the stage works on. -/
def StoreError.blamesStage : StoreError → Bool
  | .unsupportedStage _ | .invalidStage _ => true
  | _ => false

/-- A result that is no error about a stage. -/
def SparesStages {α : Type} (x : Except StoreError α) : Prop :=
  ∀ e, x = .error e → e.blamesStage = false

namespace SparesStages

variable {α β : Type}

theorem ok (a : α) : SparesStages (.ok a) := nofun

theorem error {e : StoreError} (h : e.blamesStage = false) :
    SparesStages (.error e : Except StoreError α) := by
  rintro _ ⟨⟩
  exact h

theorem bind {x : Except StoreError α} {f : α → Except StoreError β} (hx : SparesStages x)
    (hf : ∀ a, SparesStages (f a)) : SparesStages (x >>= f) := by
  cases x with
  | error e => exact error (hx e rfl)
  | ok a => exact hf a

/-- A result that is changed afterwards is blamed for what it was before. -/
theorem bind_pure {x : Except StoreError α} (hx : SparesStages x) (f : α → β) :
    SparesStages (x >>= fun a => pure (f a)) :=
  hx.bind fun a => ok (f a)

theorem ite {c : Prop} [Decidable c] {x y : Except StoreError α} (hx : SparesStages x)
    (hy : SparesStages y) : SparesStages (if c then x else y) := by
  split
  · exact hx
  · exact hy

end SparesStages

open SparesStages (ok error)

/-! ## Expressions -/

namespace Expression

theorem sparesStages_two (op : String) (operands : List Value) : SparesStages (two op operands) := by
  unfold two
  split
  · exact ok _
  · exact error rfl

theorem sparesStages_applyOperator (op : String) (operands : List Value) :
    SparesStages (applyOperator op operands) := by
  unfold applyOperator
  split
  · exact ok _
  · exact ok _
  · exact ok _
  · refine (sparesStages_two _ operands).bind fun pair => ?_
    split
    · exact ok _
    · exact error rfl
  · split
    · exact (sparesStages_two op operands).bind_pure _
    · exact error rfl

theorem sparesStages_sizeOf (v : Value) : SparesStages (sizeOf v) := by
  unfold sizeOf
  split
  · exact ok _
  · exact error rfl

mutual

/-- An expression spares stages, whatever it is evaluated against. -/
theorem sparesStages_eval (doc vars : Document) (expr : Value) :
    SparesStages (eval doc vars expr) := by
  cases expr with
  | array items => exact (sparesStages_evalItems doc vars items).bind_pure _
  | document fields =>
    match fields with
    | [] => exact ok _
    | [(op, operand)] =>
      have hoperand := sparesStages_eval doc vars operand
      rw [eval]
      refine .ite (hoperand.bind_pure _) (.ite (ok operand) (.ite ?_ (.ite ?_ (error rfl))))
      · exact hoperand.bind sparesStages_sizeOf
      · exact hoperand.bind fun value => sparesStages_applyOperator op _
    | first :: second :: rest =>
      exact (sparesStages_evalFields doc vars (first :: second :: rest)).bind_pure _
  | _ => exact ok _
termination_by structural expr

theorem sparesStages_evalItems (doc vars : Document) (items : List Value) :
    SparesStages (evalItems doc vars items) := by
  match items with
  | [] => exact ok _
  | item :: rest =>
    rw [evalItems]
    exact (sparesStages_eval doc vars item).bind fun value =>
      (sparesStages_evalItems doc vars rest).bind_pure _
termination_by structural items

theorem sparesStages_evalFields (doc vars : Document) (fields : List (String × Value)) :
    SparesStages (evalFields doc vars fields) := by
  match fields with
  | [] => exact ok _
  | (key, value) :: rest =>
    rw [evalFields]
    exact (sparesStages_eval doc vars value).bind fun _ =>
      (sparesStages_evalFields doc vars rest).bind_pure _
termination_by structural fields

end

theorem sparesStages_evalAll (vars : Document) (expr : Value) (docs : List Document) :
    SparesStages (Group.evalAll vars expr docs) := by
  induction docs with
  | nil => exact ok _
  | cons doc rest ih =>
    rw [Group.evalAll]
    exact (sparesStages_eval doc vars expr).bind fun _ => ih.bind_pure _

end Expression

/-! ## Conditions -/

namespace Condition

theorem sparesStages_inMatches (value? : Option Value) (list : Value) :
    SparesStages (inMatches value? list) := by
  unfold inMatches
  split
  · exact ok _
  · exact error rfl

theorem sparesStages_regexMatches [Regex.Engine] (value? : Option Value) (ops : Document) :
    SparesStages (regexMatches value? ops) := by
  unfold regexMatches
  split
  · exact error rfl
  · simp only
    split
    · exact error rfl
    · split <;> exact ok _

theorem sparesStages_plainMatches [Regex.Engine] (value? : Option Value) (ops : Document)
    (op : String) (operand : Value) : SparesStages (plainMatches value? ops op operand) := by
  unfold plainMatches
  split
  · exact ok _
  · exact ok _
  · exact sparesStages_inMatches value? operand
  · exact (sparesStages_inMatches value? operand).bind_pure _
  · exact sparesStages_regexMatches value? ops
  · exact ok _
  · exact ok _
  · exact ok _
  · split
    · exact ok _
    · exact error rfl

theorem sparesStages_anyItem {check : Value → Except StoreError Bool} (items : List Value)
    (h : ∀ item, SparesStages (check item)) : SparesStages (anyItem check items) := by
  induction items with
  | nil => exact ok _
  | cons item rest ih =>
    rw [anyItem]
    exact (h item).bind fun found => .ite (ok _) ih

theorem sparesStages_checkDocuments (op : String) (queries : List Value) :
    SparesStages (checkDocuments op queries) := by
  induction queries with
  | nil => exact ok _
  | cons query rest ih =>
    unfold checkDocuments
    split
    · exact ok _
    · next heq =>
      cases heq
      exact ih
    · exact error rfl

variable [Regex.Engine]

-- The theorems follow the recursion of the checks: operators and conditions of a list, the operand of
-- each, and the query documents inside operands.
mutual

theorem sparesStages_operatorsMatch (value? : Option Value) (vars ops : Document)
    (conditions : List (String × Value)) :
    SparesStages (operatorsMatch value? vars ops conditions) := by
  match conditions with
  | [] => exact ok _
  | (op, operand) :: rest =>
    rw [operatorsMatch]
    exact (sparesStages_operatorMatches value? vars ops op operand).bind fun _ =>
      .ite (sparesStages_operatorsMatch value? vars ops rest) (ok _)
termination_by structural conditions

theorem sparesStages_operatorMatches (value? : Option Value) (vars ops : Document) (op : String)
    (operand : Value) : SparesStages (operatorMatches value? vars ops op operand) := by
  have hplain := sparesStages_plainMatches value? ops op operand
  cases operand with
  | document cond =>
    have hinner := fun value? => sparesStages_operatorsMatch value? vars cond cond
    have hquery := fun doc => sparesStages_conditionsMatch doc vars cond
    have hitem : ∀ item, SparesStages (if isOperatorDoc cond then
        operatorsMatch (some item) vars cond cond
      else
        match item with
        | .document doc => conditionsMatch doc vars cond
        | _ => .ok false) := by
      intro item
      refine .ite (hinner (some item)) ?_
      split
      · exact hquery _
      · exact ok _
    -- A negation checks the inner operators, an element match checks each item of an array.
    unfold operatorMatches
    refine .ite ((hinner value?).bind_pure _) (.ite ?_ hplain)
    simp only
    split
    · exact sparesStages_anyItem _ hitem
    · exact ok _
  | _ => exact .ite (error rfl) (.ite (error rfl) hplain)
termination_by structural operand

/-- Conditions spare stages, whatever document they are checked on. -/
theorem sparesStages_conditionsMatch (doc vars : Document) (conditions : List (String × Value)) :
    SparesStages (conditionsMatch doc vars conditions) := by
  match conditions with
  | [] => exact ok _
  | (key, cond) :: rest =>
    rw [conditionsMatch]
    exact (sparesStages_conditionMatches doc vars key cond).bind fun _ =>
      .ite (sparesStages_conditionsMatch doc vars rest) (ok _)
termination_by structural conditions

theorem sparesStages_conditionMatches (doc vars : Document) (key : String) (cond : Value) :
    SparesStages (conditionMatches doc vars key cond) := by
  have hexpr := (Expression.sparesStages_eval doc vars cond).bind_pure Value.isTruthy
  cases cond with
  | array queries =>
    have hcheck := sparesStages_checkDocuments key queries
    have hall := hcheck.bind fun _ => sparesStages_allMatch doc vars queries
    have hany := hcheck.bind fun _ => sparesStages_anyMatches doc vars queries
    have hnone := hcheck.bind fun _ => (sparesStages_anyMatches doc vars queries).bind_pure (!·)
    exact .ite hall (.ite hany (.ite hnone (.ite hexpr (.ite (error rfl) (ok _)))))
  | document ops =>
    have hops := sparesStages_operatorsMatch (Document.atPath? doc key) vars ops ops
    exact .ite (error rfl) (.ite (error rfl) (.ite (error rfl) (.ite hexpr (.ite (error rfl)
      (.ite hops (ok _))))))
  | _ =>
    exact .ite (error rfl) (.ite (error rfl) (.ite (error rfl) (.ite hexpr (.ite (error rfl)
      (ok _)))))
termination_by structural cond

theorem sparesStages_allMatch (doc vars : Document) (queries : List Value) :
    SparesStages (allMatch doc vars queries) := by
  match queries with
  | [] => exact ok _
  | query :: rest =>
    have hrest := sparesStages_allMatch doc vars rest
    cases query with
    | document conditions =>
      rw [allMatch]
      exact (sparesStages_conditionsMatch doc vars conditions).bind fun _ => .ite hrest (ok _)
    | _ => exact hrest
termination_by structural queries

theorem sparesStages_anyMatches (doc vars : Document) (queries : List Value) :
    SparesStages (anyMatches doc vars queries) := by
  match queries with
  | [] => exact ok _
  | query :: rest =>
    have hrest := sparesStages_anyMatches doc vars rest
    cases query with
    | document conditions =>
      rw [anyMatches]
      exact (sparesStages_conditionsMatch doc vars conditions).bind fun _ => .ite (ok _) hrest
    | _ => exact hrest
termination_by structural queries

end

end Condition

/-! ## Rows -/

theorem Document.sparesStages_setPath (d : Document) (path : String) (value : Value) :
    SparesStages (setPath d path value) := by
  rw [setPath]
  generalize Path.segments path = segments
  fun_induction setSegments d segments value with
  | case1 | case2 => exact ok _
  | case3 d key rest _ _ ih | case4 d key rest _ inner _ ih => exact ih.bind_pure _
  | case5 => exact error rfl

theorem Project.sparesStages_includeFields (doc vars projection row : Document) :
    SparesStages (includeFields doc vars projection row) := by
  induction projection generalizing row with
  | nil => exact ok _
  | cons field rest ih =>
    obtain ⟨path, v⟩ := field
    rw [includeFields]
    refine .ite (ih row) (.ite ?_ ?_)
    · split
      · exact (Document.sparesStages_setPath row path _).bind ih
      · exact ih row
    · exact (Expression.sparesStages_eval doc vars v).bind fun value =>
        (Document.sparesStages_setPath row path value).bind ih

theorem Project.sparesStages_doc (d projection vars : Document) :
    SparesStages (doc d projection vars) :=
  .ite (sparesStages_includeFields d vars projection _) (ok _)

theorem Project.sparesStages_addFields (vars fields row : Document) :
    SparesStages (addFields vars fields row) := by
  induction fields generalizing row with
  | nil => exact ok _
  | cons field rest ih =>
    obtain ⟨path, expr⟩ := field
    rw [addFields]
    exact (Expression.sparesStages_eval row vars expr).bind fun value =>
      (Document.sparesStages_setPath row path value).bind ih

namespace Group

theorem sparesStages_collect (vars : Document) (keyExpr : Value) (docs : List Document)
    (buckets : List Bucket) : SparesStages (collect vars keyExpr docs buckets) := by
  induction docs generalizing buckets with
  | nil => exact ok _
  | cons doc rest ih =>
    rw [collect]
    exact (Expression.sparesStages_eval doc vars keyExpr).bind fun key => ih (place key doc buckets)

theorem sparesStages_accumulate (op : String) (values : List Value) :
    SparesStages (accumulate op values) := by
  unfold accumulate
  split
  case h_8 => exact error rfl
  all_goals exact ok _

/-- The body of a group stage whose accumulators are documents with one operator each. -/
def HasAccumulators (body : Document) : Prop :=
  ∀ field ∈ body, field.1 = "_id" ∨ ∃ op expr, field.2 = .document [(op, expr)]

theorem sparesStages_accumulateAll (vars : Document) (members : List Document) {body : Document}
    (h : HasAccumulators body) (row : Document) :
    SparesStages (accumulateAll vars members body row) := by
  induction body generalizing row with
  | nil => exact ok _
  | cons field rest ih =>
    obtain ⟨name, accumulator⟩ := field
    obtain ⟨hfield, hrest⟩ := List.forall_mem_cons.1 h
    unfold accumulateAll
    by_cases hname : name = "_id"
    · rw [if_pos hname]
      exact ih hrest row
    · rw [if_neg hname]
      -- An unknown accumulator is the fault of an operator, so only the shape matters.
      obtain ⟨op, expr, haccumulator⟩ := hfield.resolve_left hname
      obtain rfl : accumulator = .document [(op, expr)] := haccumulator
      exact (Expression.sparesStages_evalAll vars expr members).bind fun values =>
        (sparesStages_accumulate op values).bind fun _ => ih hrest _

theorem sparesStages_run (vars : Document) {body : Document} (h : HasAccumulators body)
    (docs : List Document) : SparesStages (run vars body docs) := by
  have hrows : ∀ buckets, SparesStages (rows vars body buckets) := by
    intro buckets
    induction buckets with
    | nil => exact ok _
    | cons b rest ih =>
      rw [rows]
      exact (sparesStages_accumulateAll vars b.members h _).bind fun _ => ih.bind_pure _
  exact (sparesStages_collect vars _ docs []).bind hrows

end Group

namespace Unwind

theorem sparesStages_itemRows (s : Spec) (doc : Document) (position : Nat) (items : List Value) :
    SparesStages (itemRows s doc position items) := by
  induction items generalizing position with
  | nil => exact ok _
  | cons item rest ih =>
    rw [itemRows]
    exact (Document.sparesStages_setPath doc s.path item).bind fun _ => (ih _).bind_pure _

theorem sparesStages_rowsOf (s : Spec) (doc : Document) : SparesStages (rowsOf s doc) := by
  unfold rowsOf
  simp only
  split
  case h_4 => exact sparesStages_itemRows s doc 0 _
  all_goals exact ok _

/-- An unwind stage spares stages if its settings can be read. -/
theorem sparesStages_run {body : Value} (h : SparesStages (Spec.ofValue? body))
    (docs : List Document) : SparesStages (run body docs) := by
  refine h.bind fun s => ?_
  induction docs with
  | nil => exact ok _
  | cons doc rest ih =>
    rw [rows]
    exact (sparesStages_rowsOf s doc).bind fun _ => ih.bind_pure _

end Unwind

/-! ## Pipelines -/

namespace Pipeline

theorem sparesStages_filterDocs [Regex.Engine] (query vars : Document) (docs : List Document) :
    SparesStages (filterDocs query vars docs) := by
  induction docs with
  | nil => exact ok _
  | cons doc rest ih =>
    rw [filterDocs]
    exact (Condition.sparesStages_conditionsMatch doc vars query).bind fun _ => ih.bind_pure _

theorem sparesStages_mapDocs {f : Document → Except StoreError Document}
    (h : ∀ doc, SparesStages (f doc)) (docs : List Document) : SparesStages (mapDocs f docs) := by
  induction docs with
  | nil => exact ok _
  | cons doc rest ih =>
    rw [mapDocs]
    exact (h doc).bind fun _ => ih.bind_pure _

/-- A pipeline spares stages if each of its stages does, whatever rows it meets. -/
theorem sparesStages_run [Regex.Engine] {collections : Collections} {vars : Document}
    {stages : List Document}
    (h : ∀ stage ∈ stages, ∀ docs,
      SparesStages (runStage collections vars (.document stage) docs)) (docs : List Document) :
    SparesStages (run collections docs stages vars) := by
  induction stages generalizing docs with
  | nil =>
    rw [run_nil]
    exact ok docs
  | cons stage rest ih =>
    obtain ⟨hstage, hrest⟩ := List.forall_mem_cons.1 h
    rw [run_cons]
    exact (hstage docs).bind (ih hrest)

end Pipeline

end DocQuery
