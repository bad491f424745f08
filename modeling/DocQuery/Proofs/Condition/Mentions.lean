import DocQuery.Proofs.Condition.Verdict
import DocQuery.Proofs.Path.ReadBack
import DocQuery.Regex.Basic

/-!
# What a query mentions

A query document reads its document at paths alone, and a path is followed from the key that it
starts at. So the keys at which the paths of a query start decide, with the values that they hold,
what the query says, its error included. The same goes for expressions and their references.

## Main definitions

* `Path.root`: the key that a path starts at
* `Document.AgreeOn`: two documents hold the same at some keys
* `Expression.mentions`, `Condition.mentions`: the keys at which the paths of an expression and of a
  query document start

## Main results

* `Document.atPath?_of_root`: what a path leads to depends on the key that it starts at
* `Condition.conditionsMatch_congr`, `Expression.eval_congr`: verdicts and values depend on the
  mentioned keys
* `Condition.docMatches_setPath`: a write below a key that is not mentioned keeps the verdict

## Design notes

The keys are collected as the text of a query has them, so a literal inside an expression counts
although it is not evaluated. What stands inside a document of operators is checked on the value of
the field and mentions nothing.
-/

namespace DocQuery

/-! ## Paths -/

/-- The key that a path starts at. -/
def Path.root (path : String) : String := (segments path).headD ""

theorem Path.exists_segments_eq_root_cons (path : String) :
    ∃ rest, segments path = root path :: rest := by
  unfold root
  cases h : segments path with
  | nil => exact absurd h (segments_ne_nil path)
  | cons first rest => exact ⟨rest, rfl⟩

namespace Document

variable {d e : Document}

/-- Two documents hold the same at each of some keys, or both nothing. -/
def AgreeOn (d : Document) (keys : List String) (e : Document) : Prop :=
  ∀ key ∈ keys, get? d key = get? e key

theorem agreeOn_append {first second : List String} :
    d.AgreeOn (first ++ second) e ↔ d.AgreeOn first e ∧ d.AgreeOn second e :=
  List.forall_mem_append

theorem agreeOn_singleton {key : String} : d.AgreeOn [key] e ↔ get? d key = get? e key :=
  List.forall_mem_singleton

/-- What a path leads to depends on the key that it starts at. -/
theorem atPath?_of_root {path : String} (h : get? d (Path.root path) = get? e (Path.root path)) :
    atPath? d path = atPath? e path := by
  refine atPath?_of_head? fun first hfirst => ?_
  obtain ⟨rest, hrest⟩ := Path.exists_segments_eq_root_cons path
  rw [hrest] at hfirst
  cases hfirst
  exact h

/-- A write leaves the other keys alone. -/
theorem agreeOn_of_setPath {path : String} {value : Value} (h : setPath d path value = .ok e)
    {keys : List String} (hroot : Path.root path ∉ keys) : d.AgreeOn keys e := by
  obtain ⟨rest, hrest⟩ := Path.exists_segments_eq_root_cons path
  rw [setPath, hrest] at h
  obtain ⟨w, -, rfl⟩ := setSegments_cons_eq_ok_iff.1 h
  intro key hkey
  have hne : key ≠ Path.root path := by
    rintro rfl
    exact hroot hkey
  exact (get?_insert_of_ne d w hne).symm

end Document

/-! ## Expressions -/

namespace Expression

/-- The key at which a string starts as a reference to a field. A reference to a variable has none,
and neither has any other string. -/
def stringMentions (s : String) : List String :=
  match s.toList with
  | '$' :: '$' :: _ => []
  | '$' :: path => [Path.root (String.ofList path)]
  | _ => []

mutual

/-- The keys at which the references of an expression start, at any depth. -/
def mentions (expr : Value) : List String :=
  match expr with
  | .string s => stringMentions s
  | .array items => itemMentions items
  | .document fields => fieldMentions fields
  | _ => []
termination_by structural expr

/-- The keys at which the references of a list of expressions start. -/
def itemMentions (items : List Value) : List String :=
  match items with
  | [] => []
  | item :: rest => mentions item ++ itemMentions rest
termination_by structural items

/-- The keys at which the references in the fields of a document start. -/
def fieldMentions (fields : List (String × Value)) : List String :=
  match fields with
  | [] => []
  | (_, value) :: rest => mentions value ++ fieldMentions rest
termination_by structural fields

end

variable {d e : Document} (vars : Document)

theorem resolve_congr {s : String} (h : d.AgreeOn (stringMentions s) e) :
    resolve d vars s = resolve e vars s := by
  unfold stringMentions at h
  unfold resolve
  split
  · rfl
  · next path hdollar hs =>
    rw [hs] at h
    split at h
    · next heq =>
      cases heq
      exact absurd rfl (hdollar _)
    · next heq =>
      cases heq
      rw [Document.atPath?_of_root (Document.agreeOn_singleton.1 h)]
    · next hnone => exact absurd rfl (hnone _)
  · rfl

-- One theorem for each kind of list that an evaluation walks. The agreement is split where the list
-- of keys is, so every part is evaluated on documents that agree on what that part mentions.
mutual

/-- An expression has one value on documents that agree on what it mentions. -/
theorem eval_congr {expr : Value} (h : d.AgreeOn (mentions expr) e) :
    eval d vars expr = eval e vars expr := by
  cases expr with
  | string s =>
    rw [eval, eval, resolve_congr vars h]
  | array items =>
    rw [eval, eval, evalItems_congr h]
  | document fields =>
    rw [mentions] at h
    match fields with
    | [] => rfl
    | [(op, operand)] =>
      rw [fieldMentions, Document.agreeOn_append] at h
      rw [eval, eval, eval_congr h.1]
    | first :: second :: rest =>
      have hfields := evalFields_congr h
      unfold eval
      rw [hfields]
  | _ => rfl
termination_by structural expr

theorem evalItems_congr {items : List Value} (h : d.AgreeOn (itemMentions items) e) :
    evalItems d vars items = evalItems e vars items := by
  match items with
  | [] => rfl
  | item :: rest =>
    rw [itemMentions, Document.agreeOn_append] at h
    rw [evalItems, evalItems, eval_congr h.1, evalItems_congr h.2]
termination_by structural items

theorem evalFields_congr {fields : List (String × Value)} (h : d.AgreeOn (fieldMentions fields) e) :
    evalFields d vars fields = evalFields e vars fields := by
  match fields with
  | [] => rfl
  | (key, value) :: rest =>
    rw [fieldMentions, Document.agreeOn_append] at h
    rw [evalFields, evalFields, eval_congr h.1, evalFields_congr h.2]
termination_by structural fields

end

end Expression

/-! ## Conditions -/

namespace Condition

mutual

/-- The keys at which the paths of a list of conditions start. -/
def mentions (conditions : List (String × Value)) : List String :=
  match conditions with
  | [] => []
  | (key, cond) :: rest => conditionMentions key cond ++ mentions rest
termination_by structural conditions

/-- The keys at which the paths of one condition start: those of the query documents that it
combines, those of its expression, or that of its field. -/
def conditionMentions (key : String) (cond : Value) : List String :=
  if key = "$and" ∨ key = "$or" ∨ key = "$nor" then
    match cond with
    | .array queries => queryMentions queries
    | _ => []
  else if key = "$expr" then Expression.mentions cond
  else if Expression.isOperatorKey key then []
  else [Path.root key]
termination_by structural cond

/-- The keys at which the paths of a list of query documents start. -/
def queryMentions (queries : List Value) : List String :=
  match queries with
  | [] => []
  | .document query :: rest => mentions query ++ queryMentions rest
  | _ :: rest => queryMentions rest
termination_by structural queries

end

variable {d e : Document} (vars : Document)

section

variable [Regex.Engine]

mutual

/-- Conditions have one verdict on documents that agree on what they mention. -/
theorem conditionsMatch_congr {conditions : List (String × Value)}
    (h : d.AgreeOn (mentions conditions) e) :
    conditionsMatch d vars conditions = conditionsMatch e vars conditions := by
  match conditions with
  | [] => rfl
  | (key, cond) :: rest =>
    rw [mentions, Document.agreeOn_append] at h
    rw [conditionsMatch, conditionsMatch, conditionMatches_congr h.1, conditionsMatch_congr h.2]
termination_by structural conditions

theorem conditionMatches_congr {key : String} {cond : Value}
    (h : d.AgreeOn (conditionMentions key cond) e) :
    conditionMatches d vars key cond = conditionMatches e vars key cond := by
  unfold conditionMentions at h
  by_cases hconnective : key = "$and" ∨ key = "$or" ∨ key = "$nor"
  · rw [if_pos hconnective] at h
    cases cond with
    | array queries =>
      have hall := allMatch_congr h
      have hany := anyMatches_congr h
      unfold conditionMatches
      obtain rfl | rfl | rfl := hconnective
      · exact congrArg (fun verdict => do checkDocuments "$and" queries; verdict) hall
      · exact congrArg (fun verdict => do checkDocuments "$or" queries; verdict) hany
      · exact congrArg (fun verdict => do checkDocuments "$nor" queries; return !(← verdict)) hany
    | _ => obtain rfl | rfl | rfl := hconnective <;> rfl
  · obtain ⟨hand, hor, hnor⟩ : key ≠ "$and" ∧ key ≠ "$or" ∧ key ≠ "$nor" := by
      simpa only [not_or] using hconnective
    -- What is left is an expression, an unknown operator or a field.
    rw [if_neg hconnective] at h
    unfold conditionMatches
    simp only [hand, hor, hnor, if_false]
    by_cases hexpr : key = "$expr"
    · rw [if_pos hexpr] at h
      rw [if_pos hexpr, if_pos hexpr, Expression.eval_congr vars h]
    · rw [if_neg hexpr] at h
      rw [if_neg hexpr, if_neg hexpr]
      by_cases hop : Expression.isOperatorKey key = true
      · rw [if_pos hop, if_pos hop]
      · rw [if_neg hop] at h
        rw [Document.atPath?_of_root (Document.agreeOn_singleton.1 h)]
termination_by structural cond

theorem allMatch_congr {queries : List Value} (h : d.AgreeOn (queryMentions queries) e) :
    allMatch d vars queries = allMatch e vars queries := by
  match queries with
  | [] => rfl
  | query :: rest =>
    have hrest : d.AgreeOn (queryMentions rest) e →
        allMatch d vars rest = allMatch e vars rest := allMatch_congr
    cases query with
    | document conditions =>
      rw [queryMentions, Document.agreeOn_append] at h
      rw [allMatch, allMatch, conditionsMatch_congr h.1, hrest h.2]
    | _ => exact hrest h
termination_by structural queries

theorem anyMatches_congr {queries : List Value} (h : d.AgreeOn (queryMentions queries) e) :
    anyMatches d vars queries = anyMatches e vars queries := by
  match queries with
  | [] => rfl
  | query :: rest =>
    have hrest : d.AgreeOn (queryMentions rest) e →
        anyMatches d vars rest = anyMatches e vars rest := anyMatches_congr
    cases query with
    | document conditions =>
      rw [queryMentions, Document.agreeOn_append] at h
      rw [anyMatches, anyMatches, conditionsMatch_congr h.1, hrest h.2]
    | _ => exact hrest h
termination_by structural queries

end

/-- A write that starts at a key which is not mentioned keeps the verdict. So a query may be checked
before or after fields are added that it does not name. -/
theorem docMatches_setPath {path : String} {value : Value} {query : Document}
    (hroot : Path.root path ∉ mentions query) (h : Document.setPath d path value = .ok e) :
    docMatches e query vars = docMatches d query vars :=
  (conditionsMatch_congr vars (Document.agreeOn_of_setPath h hroot)).symm

/-- A query document has one verdict, and an expression one value, on documents that agree on what
they mention; errors are the same too. -/
theorem docMatches_and_eval_of_agreeOn (d e vars : Document) :
    (∀ query : Document, d.AgreeOn (mentions query) e →
      docMatches d query vars = docMatches e query vars) ∧
    ∀ expr : Value, d.AgreeOn (Expression.mentions expr) e →
      Expression.eval d vars expr = Expression.eval e vars expr :=
  ⟨fun _ h => conditionsMatch_congr vars h, fun _ h => Expression.eval_congr vars h⟩

end

/-- Two users who differ in what a query asks about the items of an array only, and in the order of
their fields. -/
theorem docMatches_and_eval_of_agreeOn_users :
    let here : Value := .document
      [("$eq", .array [.string "$home.city", .string "$$here"])]
    let young : Document := [("age", .document [("$lt", .int32 30)])]
    let known : Document :=
      [("tags", .document [("$elemMatch", .document [("secret", .boolean true)])])]
    let query : Document :=
      [("$and", .array [.document [("$or", .array [.document young, .document known])]]),
        ("$expr", here)]
    let home : Document := [("city", .string "rome")]
    let tags : Value := .array [.document [("secret", .boolean true)]]
    let d : Document := [("home", .document home), ("tags", tags), ("secret", .boolean true)]
    let e : Document := [("name", .string "al"), ("tags", tags), ("home", .document home)]
    let vars : Document := [("here", .string "rome")]
    mentions query = ["age", "tags", "home"] ∧ d.AgreeOn (mentions query) e ∧
      docMatches d query vars = .ok true ∧ docMatches e query vars = .ok true ∧
      Expression.eval d vars here = Expression.eval e vars here := by
  intro here young known query home tags d e vars
  have hquery : mentions query = ["age", "tags", "home"] := by decide +kernel
  have hhere : Expression.mentions here = ["home"] := by decide +kernel
  have hagree : d.AgreeOn (mentions query) e := by
    rw [hquery]
    exact List.forall_mem_cons.2
      ⟨rfl, List.forall_mem_cons.2 ⟨rfl, Document.agreeOn_singleton.2 rfl⟩⟩
  have hmatches : docMatches d query vars = .ok true := rfl
  have hsame := docMatches_and_eval_of_agreeOn d e vars
  refine ⟨hquery, hagree, hmatches, (hsame.1 query hagree).symm.trans hmatches, hsame.2 here ?_⟩
  rw [hhere]
  exact Document.agreeOn_singleton.2 rfl

end Condition

end DocQuery
