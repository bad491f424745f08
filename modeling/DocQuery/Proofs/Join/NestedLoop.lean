import DocQuery.Join
import DocQuery.Proofs.Condition.Verdict
import DocQuery.Proofs.Document.Fields
import DocQuery.Proofs.Expression.References
import DocQuery.Proofs.Pipeline.Rows
import DocQuery.Regex.Basic

/-!
# Joins as nested loops

The two stages of a join give the rows of two nested loops: for each row, in order, and for each
document of the other collection, in order, that the comparator accepts next to it, the row with
that document under the alias of the join.

## Main definitions

* `Comparator`: the six comparisons that a join can make
* `Join.IsPlain`: the names of a join are plain, and its operator is the one of a comparator
* `Join.nestedLoop`: the rows of the two loops

## Main results

* `Join.eval_condition`: the condition in the lookup stage is the comparison of the two fields
* `Join.joinedDocs_lookupSettings`: the lookup stage finds the partners of a row
* `Join.runStage_lookupStage_of_alias`: the rows that the lookup stage makes, whatever the alias
* `Join.run_stages_eq_nestedLoop`: the two stages are the two loops
-/

namespace DocQuery

/-- The comparisons of two values. -/
inductive Comparator where
  | equal
  | different
  | greater
  | greaterOrEqual
  | less
  | lessOrEqual
  deriving DecidableEq

namespace Comparator

/-- The operator of a comparator. -/
def key : Comparator → String
  | equal => "$eq"
  | different => "$ne"
  | greater => "$gt"
  | greaterOrEqual => "$gte"
  | less => "$lt"
  | lessOrEqual => "$lte"

/-- Whether a comparator accepts how a first value stands to a second. -/
def accepts : Comparator → Ordering → Bool
  | equal, o => o == .eq
  | different, o => o != .eq
  | greater, o => o == .gt
  | greaterOrEqual, o => o != .lt
  | less, o => o == .lt
  | lessOrEqual, o => o != .gt

theorem comparison?_key (c : Comparator) :
    Expression.comparison? c.key = some c.accepts := by
  cases c <;> exact congrArg some (funext fun o => by cases o <;> rfl)

end Comparator

/-- The sign of a reference is stripped off again. -/
theorem Unwind.stripSigil_fieldReference (field : String) :
    stripSigil (fieldReference field) = .ok field := by
  unfold stripSigil
  rw [toList_fieldReference]
  exact congrArg Except.ok String.ofList_toList

theorem Unwind.Spec.ofValue?_fieldReference (path : String) :
    ofValue? (.document [("path", .string (fieldReference path))]) = .ok ⟨path, false, none⟩ := by
  simp only [ofValue?, Document.string?, Document.get?, if_true, stripSigil_fieldReference]
  rfl

namespace Join

/-- A join with the operator of a comparator whose alias and variable are keys, without a dot, and
whose fields have no sign in front. -/
structure IsPlain (j : Join) (c : Comparator) : Prop where
  op_eq : j.op = c.key
  alias_ne : j.alias ≠ ""
  alias_size : j.alias.utf8ByteSize ≤ Path.maxBytes
  alias_dot : '.' ∉ j.alias.toList
  boundName_dot : '.' ∉ j.boundName.toList
  localField_sign : Expression.isOperatorKey j.localField = false
  foreignField_sign : Expression.isOperatorKey j.foreignField = false

instance (j : Join) (c : Comparator) : Decidable (j.IsPlain c) :=
  decidable_of_iff
    (j.op = c.key ∧ j.alias ≠ "" ∧ j.alias.utf8ByteSize ≤ Path.maxBytes ∧ '.' ∉ j.alias.toList ∧
      '.' ∉ j.boundName.toList ∧ Expression.isOperatorKey j.localField = false ∧
      Expression.isOperatorKey j.foreignField = false)
    ⟨fun ⟨h₁, h₂, h₃, h₄, h₅, h₆, h₇⟩ => ⟨h₁, h₂, h₃, h₄, h₅, h₆, h₇⟩,
      fun h => ⟨h.1, h.2, h.3, h.4, h.5, h.6, h.7⟩⟩

section NestedLoop

variable (j : Join) (c : Comparator) (collections : Collections)

/-- Whether a document of the other collection is a partner of a row; a missing field counts as
null. -/
def accepts (row other : Document) : Bool :=
  c.accepts ((other.atPathOrNull j.foreignField).compare (row.atPathOrNull j.localField))

/-- The partners of a row, in the order of the other collection. -/
def partners (row : Document) : List Document :=
  (Collections.documents collections j.collection).filter (j.accepts c row)

/-- Whether a row has a partner. -/
def hasPartner (row : Document) : Bool := !(j.partners c collections row).isEmpty

/-- A row with one of its partners under the alias, which keeps its place if the row has it. -/
def joinedRow (row other : Document) : Document := Document.insert row j.alias (.document other)

/-- The rows of two nested loops, over the rows and over the partners of each. -/
def nestedLoop (docs : List Document) : List Document :=
  docs.flatMap fun row => (j.partners c collections row).map (j.joinedRow row)

/-- A row without a partner is dropped. -/
theorem nestedLoop_filter (docs : List Document) :
    j.nestedLoop c collections (docs.filter (j.hasPartner c collections)) =
      j.nestedLoop c collections docs := by
  unfold nestedLoop
  induction docs with
  | nil => rfl
  | cons row rest ih =>
    rw [List.filter_cons, List.flatMap_cons, hasPartner]
    cases hrow : j.partners c collections row with
    | nil => exact ih
    | cons other more =>
      simp only [List.isEmpty_cons, Bool.not_false, if_true, List.flatMap_cons, hrow, ih]

/-- A collection that does not exist has no partners for any row. -/
theorem nestedLoop_of_find?_eq_none (h : Collections.find? collections j.collection = none)
    (docs : List Document) : j.nestedLoop c collections docs = [] := by
  have hpartners : ∀ row, j.partners c collections row = [] := by
    intro row
    rw [partners, Collections.documents, h]
    rfl
  refine List.flatMap_eq_nil_iff.2 fun row _ => ?_
  rw [hpartners, List.map_nil]

end NestedLoop

/-- The stage of the pipeline in the lookup stage. -/
def matchStage (j : Join) : Document :=
  [("$match", .document [("$expr", .document [("$and", .array [.document j.condition])])])]

/-- The settings of the lookup stage. -/
def lookupSettings (j : Join) : Document :=
  [("from", .string j.collection),
   ("let", .document [(j.boundName, .string (fieldReference j.localField))]),
   ("pipeline", .array [.document j.matchStage]),
   ("as", .string j.alias)]

theorem lookupStage_eq (j : Join) :
    j.lookupStage = [("$lookup", .document j.lookupSettings)] := rfl

/-- The nested pipeline is found among the settings, and its one stage is a document. -/
theorem pipelineSetting?_lookupSettings [Regex.Engine] (j : Join) (collections : Collections) :
    Pipeline.pipelineSetting? collections j.lookupSettings =
      some fun vars docs => Pipeline.run collections docs [j.matchStage] vars := rfl

/-- The variable is bound to the local field of a row, or to null. -/
theorem evalFields_lookupSettings {j : Join}
    (hlocal : Expression.isOperatorKey j.localField = false) (row : Document) :
    Expression.evalFields row [] ((Document.document? j.lookupSettings "let").getD []) =
      .ok [(j.boundName, row.atPathOrNull j.localField)] := by
  have hsettings : (Document.document? j.lookupSettings "let").getD [] =
      [(j.boundName, .string (fieldReference j.localField))] := rfl
  rw [hsettings, Expression.evalFields, Expression.eval,
    Expression.resolve_fieldReference _ _ hlocal, Expression.evalFields]
  rfl

section Stages

variable {j : Join} {c : Comparator} (hj : j.IsPlain c) (collections : Collections)
include hj

/-- The condition of the lookup stage compares the field of a document with the bound value. -/
theorem eval_condition (other : Document) (bound : Value) :
    Expression.eval other [(j.boundName, bound)] (.document j.condition) =
      .ok (.boolean (c.accepts ((other.atPathOrNull j.foreignField).compare bound))) := by
  have hop : Expression.comparison? j.op = some c.accepts := by
    rw [hj.op_eq, Comparator.comparison?_key]
  rw [condition, Expression.eval_comparison _ _ hop,
    Expression.resolve_fieldReference _ _ hj.foreignField_sign,
    Expression.resolve_variable _ _ hj.boundName_dot]
  simp [Document.get?]

variable [Regex.Engine]

theorem docMatches_condition (other : Document) (bound : Value) :
    Condition.docMatches other [("$expr", .document [("$and", .array [.document j.condition])])]
        [(j.boundName, bound)] =
      .ok (c.accepts ((other.atPathOrNull j.foreignField).compare bound)) := by
  rw [Condition.docMatches_singleton, Condition.conditionMatches, if_neg (by decide),
    if_neg (by decide), if_neg (by decide), if_pos rfl,
    Expression.eval_and_singleton _ _ (eval_condition hj other bound)]
  rfl

/-- The pipeline of the lookup stage keeps the documents that the comparator accepts. -/
theorem run_matchStage (bound : Value) (others : List Document) :
    Pipeline.run collections others [j.matchStage] [(j.boundName, bound)] =
      .ok (others.filter fun other =>
        c.accepts ((other.atPathOrNull j.foreignField).compare bound)) := by
  rw [Pipeline.run_cons, matchStage, Pipeline.runStage_of_ne _ _ _ (by decide), Pipeline.runPlain]
  simp only [Pipeline.bodyDocument, Pipeline.run_nil]
  change (Pipeline.filterDocs _ _ others >>= Except.ok) = _
  rw [Pipeline.filterDocs_eq_ok fun other _ => docMatches_condition hj other bound]
  rfl

/-- The lookup stage finds the partners of a row among the other documents. -/
theorem joinedDocs_lookupSettings (row : Document) (others : List Document) :
    Pipeline.joinedDocs (Pipeline.pipelineSetting? collections j.lookupSettings) others
        j.lookupSettings row = .ok (others.filter (j.accepts c row)) := by
  rw [pipelineSetting?_lookupSettings, Pipeline.joinedDocs,
    evalFields_lookupSettings hj.localField_sign]
  exact run_matchStage hj collections _ others

end Stages

section Alias

variable [Regex.Engine] {j : Join} {c : Comparator} (collections : Collections) (vars : Document)
  (docs : List Document)

/-- The array goes under the alias as it stands, be it a plain key or not. -/
theorem runStage_lookupStage_of_alias {other : String}
    (hj : ({ j with «alias» := other } : Join).IsPlain c) :
    Pipeline.runStage collections vars (.document j.lookupStage) docs =
      .ok (docs.map fun row =>
        Document.insert row j.alias (.array ((j.partners c collections row).map .document))) := by
  -- What is joined to a row is read off every setting but the alias.
  have hjoined : ∀ (row : Document) (others : List Document),
      Pipeline.joinedDocs (Pipeline.pipelineSetting? collections j.lookupSettings) others
        j.lookupSettings row = .ok (others.filter (j.accepts c row)) :=
    joinedDocs_lookupSettings hj collections
  rw [lookupStage_eq, Pipeline.runStage_lookup]
  refine Pipeline.mapDocs_eq_ok fun row _ => ?_
  rw [hjoined]
  rfl

end Alias

section Stages

variable [Regex.Engine] {j : Join} {c : Comparator} (hj : j.IsPlain c) (collections : Collections)
include hj

/-- Each row gets its partners under the alias. -/
theorem runStage_lookupStage (vars : Document) (docs : List Document) :
    Pipeline.runStage collections vars (.document j.lookupStage) docs =
      .ok (docs.map fun row =>
        Document.insert row j.alias (.array ((j.partners c collections row).map .document))) :=
  runStage_lookupStage_of_alias collections vars docs hj

/-- A row with documents under the alias becomes one row for each of them. -/
theorem runStage_unwindStage (vars : Document) (others : Document → List Document)
    (docs : List Document) :
    Pipeline.runStage collections vars (.document j.unwindStage)
        (docs.map fun row => Document.insert row j.alias (.array ((others row).map .document))) =
      .ok (docs.flatMap fun row => (others row).map (j.joinedRow row)) := by
  -- Each item takes the place of the array, so of the two writes to the alias the second stays.
  have hrows : ∀ row ∈ docs, Unwind.rowsOf ⟨j.alias, false, none⟩
      (Document.insert row j.alias (.array ((others row).map .document))) =
        .ok ((others row).map (j.joinedRow row)) := by
    intro row _
    rw [Unwind.rowsOf_array rfl hj.alias_dot rfl hj.alias_ne hj.alias_size
      (Document.get?_insert_self _ _ _), List.map_map]
    refine congrArg Except.ok (List.map_congr_left fun other _ => ?_)
    exact Document.insert_insert row j.alias _ _
  have hrun := Unwind.rows_map_eq_ok hrows
  rw [unwindStage, Pipeline.runStage_of_ne _ _ _ (by decide), Pipeline.runPlain, Unwind.run,
    Unwind.Spec.ofValue?_fieldReference]
  exact hrun

/-- The two stages of a join never fail, and their rows are the rows of the two loops. Rows without
a partner are dropped, and a collection that does not exist gives no rows. -/
theorem run_stages_eq_nestedLoop (vars : Document) (docs : List Document) :
    Pipeline.run collections docs [j.lookupStage, j.unwindStage] vars =
        .ok (j.nestedLoop c collections docs) ∧
      Pipeline.run collections (docs.filter (j.hasPartner c collections))
          [j.lookupStage, j.unwindStage] vars =
        Pipeline.run collections docs [j.lookupStage, j.unwindStage] vars ∧
      (Collections.find? collections j.collection = none →
        Pipeline.run collections docs [j.lookupStage, j.unwindStage] vars = .ok []) := by
  have hrun : ∀ rows, Pipeline.run collections rows [j.lookupStage, j.unwindStage] vars =
      .ok (j.nestedLoop c collections rows) := by
    intro rows
    rw [Pipeline.run_cons, runStage_lookupStage hj collections vars rows]
    change Pipeline.run collections _ [j.unwindStage] vars = _
    rw [Pipeline.run_cons, runStage_unwindStage hj collections vars (j.partners c collections)]
    exact Pipeline.run_nil collections vars _
  refine ⟨hrun docs, ?_, fun hmissing => ?_⟩
  · rw [hrun, hrun, nestedLoop_filter]
  · rw [hrun, nestedLoop_of_find?_eq_none _ _ _ hmissing]

end Stages

/-- Two orders, one of them without a user, and a collection that does not exist. -/
theorem run_stages_eq_nestedLoop_orders :
    (Join.on "users" "user" "id").IsPlain .equal ∧
      Pipeline.run [("users", [[("id", .string "bo")], [("id", .string "al")]])]
          [[("user", .string "al"), ("total", .int32 9)], [("user", .string "cy")]]
          [(Join.on "users" "user" "id").lookupStage, (Join.on "users" "user" "id").unwindStage]
          [] =
        .ok [[("user", .string "al"), ("total", .int32 9),
          ("users#joined", .document [("id", .string "al")])]] ∧
      Collections.find? [] (Join.on "users" "user" "id").collection = none ∧
      Pipeline.run [] [[("user", .string "al")]]
          [(Join.on "users" "user" "id").lookupStage, (Join.on "users" "user" "id").unwindStage]
          [] = .ok [] := by
  have hplain : (Join.on "users" "user" "id").IsPlain .equal := by decide
  refine ⟨hplain, (run_stages_eq_nestedLoop hplain _ _ _).1.trans ?_, rfl,
    (run_stages_eq_nestedLoop hplain _ _ _).2.2 rfl⟩
  rfl

end Join

end DocQuery
