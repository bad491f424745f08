import DocQuery.Proofs.Mutation.Steps
import DocQuery.Regex.Basic
import DocQuery.Update

/-!
# Decomposed updates

The mutation document of an update gathers its changes by operator. For changes of diverging fields
that makes no difference: applying the mutation document is applying the changes one at a time, in
the order in which they were added.

## Main definitions

* `Update.target`: the path that a change is about
* `Update.steps`: the steps of an update, operator by operator
* `Update.applyEach`: the changes of an update one at a time, each as an update of its own
* `Mutation.Outcome.Agrees`: both fail, or both succeed with the same answer and the same document

## Main results

* `Update.applyUpdate_decompose`: a mutation document is a run of the steps of its update
* `Update.applyUpdate_decompose_agrees`: a mutation document agrees with its changes one at a time

## Design notes

Both sides are runs of the same steps, in two orders.
-/

namespace DocQuery

namespace Mutation

/-! ## Outcomes one after another -/

/-- Goes on with the document that an outcome leaves, unless it is an error. -/
def Outcome.andThen (o : Outcome) (next : Document → Outcome) : Outcome :=
  match o.result with
  | .error _ => o
  | .ok changed => (next o.doc).after changed

@[simp]
theorem Outcome.after_false (o : Outcome) : o.after false = o := by
  obtain ⟨doc, result⟩ := o
  cases result <;> rfl

theorem Outcome.after_after (o : Outcome) (first second : Bool) :
    (o.after second).after first = o.after (first || second) := by
  obtain ⟨doc, result⟩ := o
  cases result with
  | error e => rfl
  | ok changed => simp [Outcome.after, Except.map, Bool.or_assoc]

/-- Earlier changes count before and after going on. -/
theorem Outcome.after_andThen (o : Outcome) (changed : Bool) (next : Document → Outcome) :
    (o.after changed).andThen next = (o.andThen next).after changed := by
  obtain ⟨doc, result⟩ := o
  cases result with
  | error e => rfl
  | ok c => exact (Outcome.after_after (next doc) changed c).symm

/-- Both are errors, or both succeed with the same answer and with the same document up to the
order of its fields. -/
def Outcome.Agrees (o o' : Outcome) : Prop :=
  match o.result, o'.result with
  | .ok changed, .ok changed' => changed = changed' ∧ o.doc.Reorders o'.doc
  | .error _, .error _ => True
  | _, _ => False

/-- Outcomes agree if each succeeds as the other does. -/
theorem Outcome.agrees_of_forall {o o' : Outcome}
    (h : ∀ doc changed, o = ⟨doc, .ok changed⟩ →
      ∃ doc', o' = ⟨doc', .ok changed⟩ ∧ doc.Reorders doc')
    (h' : ∀ doc' changed, o' = ⟨doc', .ok changed⟩ →
      ∃ doc, o = ⟨doc, .ok changed⟩ ∧ doc'.Reorders doc) : o.Agrees o' := by
  obtain ⟨doc, result⟩ := o
  obtain ⟨doc', result'⟩ := o'
  cases result with
  | ok changed =>
    obtain ⟨left, hleft, hreorders⟩ := h doc changed rfl
    cases hleft
    exact ⟨rfl, hreorders⟩
  | error e =>
    cases result' with
    | error e' => trivial
    | ok changed =>
      obtain ⟨left, hleft, -⟩ := h' doc' changed rfl
      cases hleft

/-! ## Mutation documents as runs -/

variable [Regex.Engine]

theorem runSteps_append (first second : List Step) (doc : Document) :
    runSteps (first ++ second) doc = (runSteps first doc).andThen (runSteps second) := by
  induction first generalizing doc with
  | nil => exact (Outcome.after_false _).symm
  | cons s rest ih =>
    rw [List.cons_append, runSteps, runSteps]
    cases s.apply doc with
    | error e => rfl
    | ok change =>
      obtain ⟨next, changed⟩ := change
      simp only [ih next]
      exact (Outcome.after_andThen _ changed _).symm

/-- The steps of one operator. -/
def Writer.steps (op : Writer) (fields : Document) : List Step :=
  fields.map fun field => ⟨op, field.1, field.2⟩

theorem applyFields_eq_runSteps (op : Writer) (fields : Document) (doc : Document) :
    applyFields op.key fields doc = runSteps (op.steps fields) doc := by
  induction fields generalizing doc with
  | nil => rfl
  | cons field rest ih =>
    obtain ⟨path, operand⟩ := field
    rw [applyFields, Writer.steps, List.map_cons, runSteps, Step.apply]
    cases applyField op.key doc path operand with
    | error e => rfl
    | ok change =>
      obtain ⟨next, changed⟩ := change
      simp only [ih next]
      rfl

/-- A mutation document is a run of the steps of its operators; operators without changes may be
left out. -/
theorem applyUpdate_filterMap (parts : List (Writer × Document)) (doc : Document) :
    applyUpdate (parts.filterMap fun part =>
        if part.2.isEmpty then none else some (part.1.key, .document part.2)) doc =
      runSteps (parts.flatMap fun part => part.1.steps part.2) doc := by
  induction parts generalizing doc with
  | nil => rfl
  | cons part rest ih =>
    obtain ⟨op, fields⟩ := part
    rw [List.flatMap_cons, runSteps_append]
    cases fields with
    | nil => exact (ih doc).trans (Outcome.after_false _).symm
    | cons field fields =>
      rw [← applyFields_eq_runSteps]
      change (applyFields op.key (field :: fields) doc).andThen _ = _
      exact congrArg _ (funext ih)

end Mutation

namespace Update

open Mutation

/-! ## Changes as steps -/

/-- The path that a change is about: the label of a value, and the field that a function names. -/
def target : String × UpdateValue → String
  | (label, .set _) => label
  | (_, .increment f) => f.field
  | (_, .push f) => f.field
  | (_, .pull f) => f.field

/-- The step of a change. -/
def step : String × UpdateValue → Step
  | (label, .set value) => ⟨.set, label, value⟩
  | (_, .increment f) => ⟨.increment, f.field, .int64 f.amount⟩
  | (_, .push f) => ⟨.push, f.field, .document [("$each", .array f.values)]⟩
  | (_, .pull f) => ⟨.pull, f.field, f.condition⟩

theorem step_path (entry : String × UpdateValue) : (step entry).path = target entry := by
  obtain ⟨label, change⟩ := entry
  cases change <;> rfl

section

variable [Regex.Engine]

/-- The changes of an update one at a time, each as an update of its own, up to the first that
fails. -/
def applyEach : List (String × UpdateValue) → Document → Outcome
  | [], doc => ⟨doc, .ok false⟩
  | entry :: rest, doc =>
    (applyUpdate (fields [entry]).decompose doc).andThen (applyEach rest)

/-- A change on its own is its step. -/
theorem applyUpdate_decompose_singleton (entry : String × UpdateValue) (doc : Document) :
    applyUpdate (fields [entry]).decompose doc = runSteps [step entry] doc := by
  obtain ⟨label, change⟩ := entry
  cases change with
  | set value => exact applyUpdate_filterMap [(.set, [(label, value)])] doc
  | increment f => exact applyUpdate_filterMap [(.increment, [(f.field, .int64 f.amount)])] doc
  | push f =>
    exact applyUpdate_filterMap
      [(.push, [(f.field, .document [("$each", .array f.values)])])] doc
  | pull f => exact applyUpdate_filterMap [(.pull, [(f.field, f.condition)])] doc

/-- Changes one at a time are a run of their steps. -/
theorem applyEach_eq_runSteps (entries : List (String × UpdateValue)) (doc : Document) :
    applyEach entries doc = runSteps (entries.map step) doc := by
  induction entries generalizing doc with
  | nil => rfl
  | cons entry rest ih =>
    rw [applyEach, applyUpdate_decompose_singleton, funext ih]
    exact (runSteps_append [step entry] (rest.map step) doc).symm

/-! ## Gathered changes -/

/-- The steps of gathered changes, operator by operator. -/
def Parts.steps (p : Parts) : List Step :=
  Writer.set.steps p.set ++ (Writer.increment.steps p.increments ++
    (Writer.push.steps p.pushes ++ Writer.pull.steps p.pulls))

/-- The mutation document of gathered changes is a run of their steps. -/
theorem applyUpdate_document (p : Parts) (doc : Document) :
    applyUpdate p.document doc = runSteps p.steps doc := by
  refine (applyUpdate_filterMap
    [(.set, p.set), (.increment, p.increments), (.push, p.pushes), (.pull, p.pulls)] doc).trans ?_
  simp only [List.flatMap_cons, List.flatMap_nil, List.append_nil]
  rfl

/-- The steps of an update. -/
def steps : Update → List Step
  | fields entries => (entries.foldl Parts.add ⟨[], [], [], []⟩).steps
  | replacement doc => Writer.set.steps doc

/-- The mutation document of an update is a run of its steps. -/
theorem applyUpdate_decompose (u : Update) (doc : Document) :
    applyUpdate u.decompose doc = runSteps u.steps doc := by
  cases u with
  | fields entries => exact applyUpdate_document _ doc
  | replacement written =>
    rw [steps, ← applyFields_eq_runSteps]
    change (applyFields Writer.set.key written doc).andThen (applyUpdate []) = _
    generalize applyFields Writer.set.key written doc = written
    obtain ⟨left, result⟩ := written
    cases result with
    | error e => rfl
    | ok changed => cases changed <;> rfl

end

theorem steps_insert {op : Writer} {changes : Document} {path : String}
    (h : path ∉ (op.steps changes).map Step.path) (operand : Value) :
    op.steps (Document.insert changes path operand) = op.steps changes ++ [⟨op, path, operand⟩] := by
  have hkeys : (op.steps changes).map Step.path = Document.keys changes := by
    rw [Writer.steps, List.map_map]
    rfl
  rw [hkeys] at h
  rw [Document.insert_of_not_mem h, Writer.steps, List.map_append]
  rfl

theorem append_singleton_perm (front back : List Step) (s : Step) :
    ((front ++ [s]) ++ back).Perm ((front ++ back) ++ [s]) := by
  rw [List.append_assoc, List.append_assoc]
  exact List.perm_append_comm.append_left front

/-- A change of a new field adds its step. -/
theorem steps_add {p : Parts} {entry : String × UpdateValue}
    (h : target entry ∉ p.steps.map Step.path) :
    (p.add entry).steps.Perm (p.steps ++ [step entry]) := by
  obtain ⟨label, change⟩ := entry
  simp only [Parts.steps, List.map_append, List.mem_append, not_or] at h
  obtain ⟨hset, hincrement, hpush, hpull⟩ := h
  -- The new step ends the part of its operator and has to pass the parts behind it.
  cases change with
  | set value =>
    have hpart : Writer.set.steps (Document.insert p.set label value) =
        Writer.set.steps p.set ++ [step (label, .set value)] := steps_insert hset value
    simp only [Parts.add, Parts.steps, hpart]
    exact append_singleton_perm _ _ _
  | increment f =>
    have hpart : Writer.increment.steps (Document.insert p.increments f.field (.int64 f.amount)) =
        Writer.increment.steps p.increments ++ [step (label, .increment f)] :=
      steps_insert hincrement _
    simp only [Parts.add, Parts.steps, hpart]
    rw [List.append_assoc (Writer.set.steps p.set)]
    exact (append_singleton_perm _ _ _).append_left _
  | push f =>
    have hpart : Writer.push.steps
          (Document.insert p.pushes f.field (.document [("$each", .array f.values)])) =
        Writer.push.steps p.pushes ++ [step (label, .push f)] := steps_insert hpush _
    simp only [Parts.add, Parts.steps, hpart]
    rw [List.append_assoc (Writer.set.steps p.set), List.append_assoc (Writer.increment.steps _)]
    exact ((append_singleton_perm _ _ _).append_left _).append_left _
  | pull f =>
    have hpart : Writer.pull.steps (Document.insert p.pulls f.field f.condition) =
        Writer.pull.steps p.pulls ++ [step (label, .pull f)] := steps_insert hpull _
    simp only [Parts.add, Parts.steps, hpart, List.append_assoc]
    exact .refl _

/-- Changes of different fields are gathered to their steps, in some order. -/
theorem steps_foldl_add {entries : List (String × UpdateValue)} {p : Parts}
    (h : (p.steps.map Step.path ++ entries.map target).Nodup) :
    (entries.foldl Parts.add p).steps.Perm (p.steps ++ entries.map step) := by
  induction entries generalizing p with
  | nil => rw [List.map_nil, List.append_nil, List.foldl_nil]
  | cons entry rest ih =>
    obtain ⟨hp, hentries, hdisjoint⟩ := List.nodup_append.1 h
    have hnew : target entry ∉ p.steps.map Step.path := fun hmem =>
      hdisjoint _ hmem _ List.mem_cons_self rfl
    have hadd := steps_add hnew
    have hpaths : ((p.add entry).steps.map Step.path ++ rest.map target).Perm
        (p.steps.map Step.path ++ (entry :: rest).map target) := by
      refine ((hadd.map Step.path).append_right _).trans ?_
      rw [List.map_append, List.append_assoc, List.map_singleton, step_path]
      exact .refl _
    refine (ih (hpaths.symm.nodup h)).trans ((hadd.append_right _).trans ?_)
    rw [List.append_assoc]
    exact .refl _

/-- For changes of diverging fields the mutation document agrees with the changes one at a time, in
the order in which they were added: one succeeds as the other does, and then with the same answer
and with the same document up to the order of its fields. -/
theorem applyUpdate_decompose_agrees [Regex.Engine] (entries : List (String × UpdateValue))
    (doc : Document) (h : Path.PairwiseDiverge (entries.map target)) :
    (applyUpdate (fields entries).decompose doc).Agrees (applyEach entries doc) := by
  have hperm : (entries.foldl Parts.add ⟨[], [], [], []⟩).steps.Perm (entries.map step) :=
    steps_foldl_add h.nodup
  have hsteps : Path.PairwiseDiverge ((entries.map step).map Step.path) := by
    rw [List.map_map]
    simpa only [Function.comp_def, step_path] using h
  have hgathered := hsteps.perm (hperm.symm.map Step.path)
  -- Both sides are runs of the same steps, and neither run depends on their order.
  rw [decompose, applyUpdate_document, applyEach_eq_runSteps]
  exact Outcome.agrees_of_forall (fun _ _ hrun => runSteps_perm hperm hgathered hrun)
    fun _ _ hrun => runSteps_perm hperm.symm hsteps hrun

/-- Changes of four operators, two of them below one field and not in the order of the operators. -/
theorem applyUpdate_decompose_agrees_mixed :
    let entries : List (String × UpdateValue) :=
      [("old", .pull ⟨"tags.seen", .string "x"⟩), ("visits", .increment ⟨"stats.visits", 2⟩),
        ("stats.last", .set (.string "today")), ("new", .push ⟨"log", [.null]⟩)]
    let doc : Document :=
      [("stats", .document [("visits", .int32 1)]),
        ("tags", .document [("seen", .array [.string "x", .string "y"])])]
    Path.PairwiseDiverge (entries.map target) ∧
      (applyUpdate (fields entries).decompose doc).Agrees (applyEach entries doc) := by
  have h : Path.PairwiseDiverge ["tags.seen", "stats.visits", "stats.last", "log"] := by
    unfold Path.PairwiseDiverge
    decide
  exact ⟨h, applyUpdate_decompose_agrees _ _ h⟩

end Update

end DocQuery
