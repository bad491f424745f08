import DocQuery.Proofs.Condition.Verdict
import DocQuery.Query.Basic

/-!
# Chains of conditions

The calls of a query that record conditions, as a tree, beside a direct reading of the tree. A chain
of calls is a list of clauses: comparisons, searches in arrays, ready-made groups, which nest by
being pushed onto one another, and groups that are chains of their own.

## Main definitions

* `Comparison`, `Query.Call.comparison?`: one operator on one field, and the calls that record it
* `GroupMember`: what a ready-made group is built of
* `Clause`: one call of a chain
* `Clause.call`, `Clause.calls`: the calls that a chain stands for
* `Clause.holds`, `Clause.chainHolds`: the direct reading

## Main results

* `Clause.docMatches_filter`: the query document of a chain has the verdict of its direct reading

## Design notes

The query document wraps every comparison in a conjunction of its own and every group in a
conjunction of one. The proof follows the tree: each clause is recorded as one query document with
the verdict of the clause, so a chain is recorded as a list of query documents with the verdicts of
its clauses, and only the connective of the list is left.
-/

namespace DocQuery

/-! ## Comparisons -/

/-- One operator on one field. -/
structure Comparison where
  field : String
  op : String
  operand : Value

variable [Regex.Engine]

/-- Whether the value at the path of the field satisfies the operator. -/
def Comparison.holds (c : Comparison) (doc vars : Document) : Verdict :=
  Condition.fieldMatches (Document.atPath? doc c.field) [(c.op, c.operand)] vars

/-- The query document of the field alone. -/
def Comparison.document (c : Comparison) : Document :=
  [(c.field, .document [(c.op, c.operand)])]

/-- The connective and the comparison that a call records, if it records a comparison. -/
def Query.Call.comparison? {κ : Type} : Query.Call κ → Option (Connective × Comparison)
  | .compare connective field value =>
    some (connective, ⟨field, (Filters.resolveValue value).1, (Filters.resolveValue value).2⟩)
  | .compareWith connective field token value =>
    (Operator.ofToken? token).map fun op => (connective, ⟨field, op, value⟩)
  | .compareDate connective field token millis =>
    (Operator.ofToken? token).map fun op => (connective, ⟨field, op, .dateTime millis⟩)
  | .oneOf connective field values => some (connective, ⟨field, "$in", .array values⟩)
  | .noneOf connective field values => some (connective, ⟨field, "$nin", .array values⟩)
  | .regex connective field pattern => some (connective, ⟨field, "$regex", .string pattern⟩)
  | .text connective kind field wanted caseSensitive =>
    some (connective, ⟨field, "$regex", .string (kind.pattern wanted caseSensitive)⟩)
  | _ => none

/-! ## Ready-made conditions -/

/-- Whether the value at the path of the field is an array with an item that equals a needle, where
an item that is an array equals what one of its own items equals. A key with a sign in front is no
field, and the search is then read as a query document. -/
def ArrayContains.holds (f : ArrayContains) (doc vars : Document) : Verdict :=
  if Expression.isOperatorKey f.field then Condition.docMatches doc f.document vars
  else
    match Document.atPath? doc f.field with
    | some (.array items) =>
      .ok (items.any fun item => f.needles.any fun needle => Condition.eqMatches (some item) needle)
    | _ => .ok false

/-- What a ready-made group is built of. -/
inductive GroupMember where
  /-- A query document as it stands. -/
  | query (q : Document)
  | comparison (c : Comparison) (isField : Expression.isOperatorKey c.field = false)
      (isOperator : Expression.isOperatorKey c.op = true)
  | contains (f : ArrayContains)
  | group (connective : Connective) (members : List GroupMember)

namespace GroupMember

mutual

/-- A ready-made group with one more member at its end. -/
def pushOnto (r : RawFilter) (member : GroupMember) : RawFilter :=
  match member with
  | .query q => r.push q
  | .comparison c _ _ => r.push c.document
  | .contains f => r.push f.document
  | .group connective members => r.pushFilter (pushAll ⟨connective, []⟩ members)
termination_by structural member

/-- A ready-made group with members pushed one after another. -/
def pushAll (r : RawFilter) (members : List GroupMember) : RawFilter :=
  match members with
  | [] => r
  | member :: rest => pushAll (pushOnto r member) rest
termination_by structural members

end

mutual

/-- The direct reading of a member. -/
def holds (doc vars : Document) (member : GroupMember) : Verdict :=
  match member with
  | .query q => Condition.docMatches doc q vars
  | .comparison c _ _ => c.holds doc vars
  | .contains f => f.holds doc vars
  | .group connective members => Verdict.join connective (verdicts doc vars members)
termination_by structural member

/-- The direct readings of a list of members. -/
def verdicts (doc vars : Document) (members : List GroupMember) : List Verdict :=
  match members with
  | [] => []
  | member :: rest => holds doc vars member :: verdicts doc vars rest
termination_by structural members

end

end GroupMember

/-! ## Chains -/

/-- One call of a chain. -/
inductive Clause (κ : Type) where
  /-- A call that records a comparison of a field. -/
  | comparison (call : Query.Call κ) (connective : Connective) (c : Comparison)
      (records : call.comparison? = some (connective, c))
      (isField : Expression.isOperatorKey c.field = false)
  | contains (connective : Connective) (f : ArrayContains)
  /-- A ready-made group, under a connective of its own. -/
  | readyMade (connective inner : Connective) (members : List GroupMember)
  /-- A group that is a chain of its own. -/
  | group (connective : Connective) (clauses : List (Clause κ))

namespace Clause

variable {κ : Type}

/-- The connective of the call. -/
def connective : Clause κ → Connective
  | comparison _ connective _ _ _ => connective
  | contains connective _ => connective
  | readyMade connective _ _ => connective
  | group connective _ => connective

mutual

/-- The call that a clause stands for. -/
def call (clause : Clause κ) : Query.Call κ :=
  match clause with
  | .comparison call _ _ _ _ => call
  | .contains connective f => .predicate connective (.contains f)
  | .readyMade connective inner members =>
    .predicate connective (.raw (GroupMember.pushAll ⟨inner, []⟩ members))
  | .group connective clauses => .group connective (calls clauses)
termination_by structural clause

/-- The calls that a chain stands for. -/
def calls (clauses : List (Clause κ)) : List (Query.Call κ) :=
  match clauses with
  | [] => []
  | clause :: rest => call clause :: calls rest
termination_by structural clauses

end

/-- The connective of a chain: a conjunction if every call of it is one, else a disjunction. -/
def chainConnective (clauses : List (Clause κ)) : Connective :=
  if clauses.all fun clause => clause.connective == .and then .and else .or

mutual

/-- The direct reading of a clause. -/
def holds (doc vars : Document) (clause : Clause κ) : Verdict :=
  match clause with
  | .comparison _ _ c _ _ => c.holds doc vars
  | .contains _ f => f.holds doc vars
  | .readyMade _ inner members => Verdict.join inner (GroupMember.verdicts doc vars members)
  | .group _ clauses => Verdict.join (chainConnective clauses) (verdicts doc vars clauses)
termination_by structural clause

/-- The direct readings of the clauses of a chain. -/
def verdicts (doc vars : Document) (clauses : List (Clause κ)) : List Verdict :=
  match clauses with
  | [] => []
  | clause :: rest => holds doc vars clause :: verdicts doc vars rest
termination_by structural clauses

end

/-- The direct reading of a chain: the conjunction of its clauses from the left if every call is a
conjunction, so that the empty chain holds, and else the disjunction of all of them from the left. -/
def chainHolds (doc vars : Document) (clauses : List (Clause κ)) : Verdict :=
  Verdict.join (chainConnective clauses) (verdicts doc vars clauses)

/-! ## What a chain records -/

mutual

/-- The query document that a clause records. -/
def document (clause : Clause κ) : Document :=
  match clause with
  | .comparison _ _ c _ _ => Filters.comparison c.field c.op c.operand
  | .contains _ f => f.document
  | .readyMade _ inner members => (GroupMember.pushAll ⟨inner, []⟩ members).document
  | .group _ clauses => (RawFilter.ofDocuments [Filters.normalized ⟨entries clauses⟩]).document
termination_by structural clause

/-- The conditions that a chain records. -/
def entries (clauses : List (Clause κ)) : List FilterEntry :=
  match clauses with
  | [] => []
  | clause :: rest => ⟨clause.connective, document clause⟩ :: entries rest
termination_by structural clauses

end

end Clause

/-! ## Calls and what they record -/

omit [Regex.Engine] in
theorem Operator.isOperatorKey_of_ofToken? {token op : String}
    (h : Operator.ofToken? token = some op) : Expression.isOperatorKey op = true := by
  have hall : ∀ entry ∈ Operator.tokens, Expression.isOperatorKey entry.2 = true := by decide
  obtain ⟨before, after, heq, -⟩ := List.lookup_eq_some_iff.1 h
  refine hall (token, op) ?_
  rw [heq]
  exact List.mem_append_right _ List.mem_cons_self

namespace Query

variable {κ : Type}

omit [Regex.Engine] in
/-- A value in the place of an operator names one, or is compared by equality. -/
theorem isOperatorKey_resolveValue (value : Value) :
    Expression.isOperatorKey (Filters.resolveValue value).1 = true := by
  unfold Filters.resolveValue
  split
  · split
    · next h => exact Operator.isOperatorKey_of_ofToken? h
    · exact (by decide : Expression.isOperatorKey "$eq" = true)
  · exact (by decide : Expression.isOperatorKey "$eq" = true)

/-- A call that records a comparison does so under an operator. -/
theorem Call.isOperatorKey_of_comparison? {call : Call κ} {connective : Connective}
    {c : Comparison} (h : call.comparison? = some (connective, c)) :
    Expression.isOperatorKey c.op = true := by
  cases call with
  | compare k field value =>
    cases h
    exact isOperatorKey_resolveValue value
  | compareWith k field token value =>
    obtain ⟨op, hop, heq⟩ := Option.map_eq_some_iff.1 h
    cases heq
    exact Operator.isOperatorKey_of_ofToken? hop
  | compareDate k field token millis =>
    obtain ⟨op, hop, heq⟩ := Option.map_eq_some_iff.1 h
    cases heq
    exact Operator.isOperatorKey_of_ofToken? hop
  | oneOf =>
    cases h
    exact (by decide : Expression.isOperatorKey "$in" = true)
  | noneOf =>
    cases h
    exact (by decide : Expression.isOperatorKey "$nin" = true)
  | regex | text =>
    cases h
    exact (by decide : Expression.isOperatorKey "$regex" = true)
  | _ => cases h

/-- A call that records a comparison succeeds and adds its query document. -/
theorem apply_of_comparison? (q : Query κ) {call : Call κ} {connective : Connective}
    {c : Comparison} (h : call.comparison? = some (connective, c)) :
    q.apply call =
      .ok (q.pushFilter connective (Filters.comparison c.field c.op c.operand)) := by
  cases call with
  | compareWith k field token value =>
    obtain ⟨op, hop, heq⟩ := Option.map_eq_some_iff.1 h
    cases heq
    rw [apply, Operator.translate, hop]
    rfl
  | compareDate k field token millis =>
    obtain ⟨op, hop, heq⟩ := Option.map_eq_some_iff.1 h
    cases heq
    rw [apply, Operator.translate, hop]
    rfl
  | compare | oneOf | noneOf | regex | text =>
    cases h
    rw [apply]
    rfl
  | _ => cases h

end Query

namespace Clause

variable {κ : Type} (q : Query κ)

mutual

/-- A clause is called with success and adds its query document. -/
theorem apply_call (clause : Clause κ) (q : Query κ) :
    q.apply clause.call = .ok (q.pushFilter clause.connective clause.document) := by
  match clause with
  | .comparison call connective c records isField =>
    exact Query.apply_of_comparison? q records
  | .contains connective f => rw [call, Query.apply]; rfl
  | .readyMade connective inner members => rw [call, Query.apply]; rfl
  | .group connective clauses =>
    rw [call, Query.apply, applyAll_calls clauses Query.empty]
    rfl

/-- A chain is called with success and adds its conditions at the end. -/
theorem applyAll_calls (clauses : List (Clause κ)) (q : Query κ) :
    q.applyAll (calls clauses) =
      .ok (q.mapState fun s => { s with filters := s.filters.append ⟨entries clauses⟩ }) := by
  match clauses with
  | [] =>
    rw [calls, Query.applyAll, entries]
    simp [Query.mapState, Filters.append]
  | clause :: rest =>
    rw [calls, Query.applyAll, apply_call clause q]
    simp only [bind, Except.bind]
    rw [applyAll_calls rest, entries]
    simp [Query.mapState, Query.pushFilter, Filters.append, Filters.push]

end

end Clause

/-! ## Query documents and their verdicts -/

variable (doc vars : Document)

theorem Comparison.docMatches_document {c : Comparison}
    (isField : Expression.isOperatorKey c.field = false)
    (isOperator : Expression.isOperatorKey c.op = true) :
    Condition.docMatches doc c.document vars = c.holds doc vars :=
  Condition.docMatches_comparison doc vars isField isOperator c.operand

/-- A group has the combination of the verdicts of its conditions. -/
theorem RawFilter.docMatches_document (r : RawFilter) :
    Condition.docMatches doc r.document vars =
      Verdict.join r.connective (r.conditions.map fun q => Condition.docMatches doc q vars) :=
  Condition.docMatches_join doc vars r.connective r.conditions

theorem RawFilter.docMatches_document_singleton (query : Document) :
    Condition.docMatches doc (RawFilter.ofDocuments [query]).document vars =
      Condition.docMatches doc query vars := by
  rw [RawFilter.docMatches_document]
  exact Verdict.all_singleton _

theorem Filters.docMatches_comparison {c : Comparison}
    (isField : Expression.isOperatorKey c.field = false)
    (isOperator : Expression.isOperatorKey c.op = true) :
    Condition.docMatches doc (Filters.comparison c.field c.op c.operand) vars =
      c.holds doc vars := by
  rw [← Comparison.docMatches_document doc vars isField isOperator]
  exact RawFilter.docMatches_document_singleton doc vars c.document

omit [Regex.Engine] in
/-- The connective of recorded conditions: a conjunction if all of them are, else a disjunction. -/
theorem Filters.connective_eq (first : FilterEntry) (rest : List FilterEntry) :
    Filters.connective first rest =
      if (first :: rest).all fun e => e.connective == .and then .and else .or := by
  unfold Filters.connective
  cases hfirst : first.connective with
  | and => simp [hfirst]
  | or => simp [hfirst]

/-- The query document of recorded conditions has the conjunction of their verdicts if all of them
were recorded as conjunctions, and else the disjunction. -/
theorem Filters.docMatches_normalized (f : Filters) :
    Condition.docMatches doc f.normalized vars =
      Verdict.join (if f.entries.all fun e => e.connective == .and then .and else .or)
        (f.entries.map fun e => Condition.docMatches doc e.filter vars) := by
  unfold Filters.normalized
  split
  · next h => rw [h]; rfl
  · next first rest h =>
    rw [h, ← Filters.connective_eq]
    have hmap : (first :: rest).map (fun e : FilterEntry => Value.document e.filter) =
        ((first :: rest).map FilterEntry.filter).map Value.document := by
      rw [List.map_map]
      rfl
    rw [hmap, Condition.docMatches_join, List.map_map]
    rfl

/-- Membership in a list of needles, as an operator document. -/
theorem Condition.fieldMatches_in (value? : Option Value) (needles : List Value) :
    fieldMatches value? [("$in", .array needles)] vars =
      .ok (needles.any (eqMatches value?)) := by
  rw [fieldMatches, operatorsMatch_singleton,
    operatorMatches_of_plain vars value? _ (by decide) (by decide)]
  rfl

/-- The query document of a search in an array has the verdict of the search. -/
theorem ArrayContains.docMatches_document (f : ArrayContains) :
    Condition.docMatches doc f.document vars = f.holds doc vars := by
  unfold ArrayContains.holds
  split
  · rfl
  · next hfield =>
    let ops : Document :=
      [("$exists", .boolean true), ("$elemMatch", .document [("$in", .array f.needles)])]
    have hops : Condition.isOperatorDoc ops = true := by
      simp only [ops, Condition.isOperatorDoc, List.isEmpty_cons, List.all_cons, List.all_nil]
      decide
    have hin : Condition.isOperatorDoc [("$in", .array f.needles)] = true := by
      simp only [Condition.isOperatorDoc, List.isEmpty_cons, List.all_cons, List.all_nil]
      decide
    rw [ArrayContains.document, Condition.docMatches_singleton,
      Condition.conditionMatches_of_field doc vars (by simpa using hfield) hops,
      Condition.fieldMatches, Condition.operatorsMatch,
      Condition.operatorMatches_of_plain vars _ _ (by decide) (by decide)]
    -- A missing value fails the check for presence, and a value that is no array has no items.
    cases hvalue : Document.atPath? doc f.field with
    | none => rfl
    | some value =>
      change Condition.operatorsMatch (some value) vars ops
        [("$elemMatch", .document [("$in", .array f.needles)])] = _
      rw [Condition.operatorsMatch_singleton, Condition.operatorMatches_elemMatch vars _ _ hin]
      cases value with
      | array items =>
        simp only [Condition.fieldMatches_in]
        exact Condition.anyItem_ok _ items
      | _ => rfl

/-! ## The direct reading -/

namespace GroupMember

mutual

/-- A member adds one query document, which has the verdict of the member. -/
theorem docMatches_pushOnto (member : GroupMember) (r : RawFilter) :
    ∃ q : Document, pushOnto r member = r.push q ∧
      Condition.docMatches doc q vars = member.holds doc vars := by
  match member with
  | .query q => exact ⟨q, by rw [pushOnto], by rw [holds]⟩
  | .comparison c isField isOperator =>
    refine ⟨c.document, by rw [pushOnto], ?_⟩
    rw [holds, Comparison.docMatches_document doc vars isField isOperator]
  | .contains f =>
    refine ⟨f.document, by rw [pushOnto], ?_⟩
    rw [holds, ArrayContains.docMatches_document]
  | .group connective members =>
    refine ⟨(pushAll ⟨connective, []⟩ members).document, by rw [pushOnto]; rfl, ?_⟩
    obtain ⟨queries, hpush, hverdicts⟩ := docMatches_pushAll members ⟨connective, []⟩
    rw [RawFilter.docMatches_document, hpush, holds, ← hverdicts]
    rfl

/-- A list of members adds query documents, which have the verdicts of the members. -/
theorem docMatches_pushAll (members : List GroupMember) (r : RawFilter) :
    ∃ queries : List Document, pushAll r members = r.append queries ∧
      (queries.map fun q => Condition.docMatches doc q vars) = verdicts doc vars members := by
  match members with
  | [] => exact ⟨[], by rw [pushAll]; simp [RawFilter.append], by rw [verdicts]; rfl⟩
  | member :: rest =>
    obtain ⟨q, hpush, hverdict⟩ := docMatches_pushOnto member r
    obtain ⟨queries, hrest, hverdicts⟩ := docMatches_pushAll rest (r.push q)
    refine ⟨q :: queries, ?_, ?_⟩
    · rw [pushAll, hpush, hrest]
      simp [RawFilter.append, RawFilter.push]
    · rw [verdicts, List.map_cons, hverdict, hverdicts]

end

/-- A group built of members has the combination of their verdicts. -/
theorem docMatches_group (connective : Connective) (members : List GroupMember) :
    Condition.docMatches doc (pushAll ⟨connective, []⟩ members).document vars =
      Verdict.join connective (verdicts doc vars members) := by
  obtain ⟨queries, hpush, hverdicts⟩ := docMatches_pushAll doc vars members ⟨connective, []⟩
  rw [RawFilter.docMatches_document, hpush, ← hverdicts]
  rfl

end GroupMember

namespace Clause

variable {κ : Type}

theorem all_entries (clauses : List (Clause κ)) :
    (if (entries clauses).all fun e => e.connective == .and then Connective.and else .or) =
      chainConnective clauses := by
  have hall : ((entries clauses).all fun e => e.connective == .and) =
      clauses.all fun clause => clause.connective == .and := by
    induction clauses with
    | nil => rw [entries]; rfl
    | cons clause rest ih => rw [entries, List.all_cons, List.all_cons, ih]
  rw [hall, chainConnective]

mutual

/-- The query document of a clause has the verdict of the clause. -/
theorem docMatches_document (clause : Clause κ) :
    Condition.docMatches doc clause.document vars = clause.holds doc vars := by
  match clause with
  | .comparison call connective c records isField =>
    rw [document, holds]
    exact Filters.docMatches_comparison doc vars isField
      (Query.Call.isOperatorKey_of_comparison? records)
  | .contains connective f => rw [document, holds, ArrayContains.docMatches_document]
  | .readyMade connective inner members =>
    rw [document, holds, GroupMember.docMatches_group]
  | .group connective clauses =>
    rw [document, holds, RawFilter.docMatches_document_singleton, Filters.docMatches_normalized,
      all_entries, map_docMatches_entries clauses]

theorem map_docMatches_entries (clauses : List (Clause κ)) :
    ((entries clauses).map fun e => Condition.docMatches doc e.filter vars) =
      verdicts doc vars clauses := by
  match clauses with
  | [] => rw [entries, verdicts]; rfl
  | clause :: rest =>
    rw [entries, verdicts, List.map_cons, docMatches_document clause, map_docMatches_entries rest]

end

/-- A chain of calls on a fresh query succeeds, and on every document its query document has the
verdict of the direct reading of the chain, errors included. -/
theorem docMatches_filter (clauses : List (Clause κ)) (doc vars : Document) :
    ∃ q : Query κ, Query.empty.applyAll (calls clauses) = .ok q ∧
      Condition.docMatches doc q.filter vars = chainHolds doc vars clauses := by
  refine ⟨_, applyAll_calls clauses Query.empty, ?_⟩
  change Condition.docMatches doc (Filters.normalized ⟨entries clauses⟩) vars = _
  rw [Filters.docMatches_normalized, all_entries, map_docMatches_entries, chainHolds]

end Clause

end DocQuery
