import DocQuery.Proofs.Query.Changes

/-!
# Calls that fail

A configuration call that fails leaves the query as it was, since every call makes all its checks
before its one write. To say so, calls are written as programs on a query that is changed in place,
where a failure takes nothing back. A group runs a program on a fresh query, which may be left half
done; the query around it is written when that program is through.

## Main definitions

* `Query.Building`: programs on a query, whose writes outlive a failure
* `Query.perform`: a configuration call as such a program
* `Query.Request`: one request of a run: a call, a new connection or a group by any program
* `Query.outcomes`, `Query.afterAll`: what the requests of a run hand back, and the query at the end
* `Query.accepted`: the requests of a run that do not fail

## Main results

* `Query.outcome_perform`: the program of a call gives what the call gives
* `Query.Request.isAtomic_program`: a request that fails leaves the query as it was
* `Query.afterAll_accepted`, `Query.outcomes_accepted`: a run without its failures

## Design notes

A run goes on after a failure, unlike `applyAll`. The program of a group is any function of the
fresh query to a result and the query that it leaves, so it may make calls of any kind, groups among
them, and may pass over their failures or fail by itself.
-/

namespace DocQuery.Query

variable {κ α β : Type}

/-! ## Programs on a query -/

/-- A program on a query. A failure does not take back what was written before it. -/
abbrev Building (κ α : Type) := ExceptT QueryError (StateM (Query κ)) α

namespace Building

/-- What a program gives and the query that it leaves. -/
def attempt (p : Building κ α) (q : Query κ) : Except QueryError α × Query κ :=
  StateT.run (ExceptT.run p) q

/-- The query that a program leaves, whether or not it fails. -/
def left (p : Building κ α) (q : Query κ) : Query κ := (attempt p q).2

/-- What a program hands back: the query that it leaves, unless it fails. -/
def outcome (p : Building κ Unit) (q : Query κ) : Except QueryError (Query κ) :=
  (attempt p q).1.map fun _ => left p q

/-- A program that writes nothing. -/
def IsReadOnly (p : Building κ α) : Prop := ∀ q, left p q = q

/-- A program that leaves the query as it was if it fails. -/
def IsAtomic (p : Building κ α) : Prop := ∀ q e, (attempt p q).1 = .error e → left p q = q

theorem attempt_bind (p : Building κ α) (f : α → Building κ β) (q : Query κ) :
    attempt (p >>= f) q =
      match attempt p q with
      | (.ok a, q') => attempt (f a) q'
      | (.error e, q') => (.error e, q') := by
  unfold attempt
  rw [ExceptT.run_bind, StateT.run_bind]
  rcases StateT.run (ExceptT.run p) q with ⟨e | a, q'⟩
  · rfl
  · rfl

theorem attempt_ofExcept (x : Except QueryError α) (q : Query κ) :
    attempt (ofExcept x) q = (x, q) := by
  cases x with
  | error e => rfl
  | ok a => rfl

theorem isReadOnly_get : IsReadOnly (get : Building κ (Query κ)) := fun _ => rfl

theorem isReadOnly_ofExcept (x : Except QueryError α) :
    IsReadOnly (ofExcept x : Building κ α) := by
  intro q
  rw [left, attempt_ofExcept]

theorem isAtomic_modify (f : Query κ → Query κ) : IsAtomic (modify f : Building κ PUnit) := by
  intro q e h
  cases h

theorem isAtomic_pure (a : α) : IsAtomic (pure a : Building κ α) := fun _ _ _ => rfl

theorem isAtomic_throw (e : QueryError) : IsAtomic (throw e : Building κ α) := fun _ _ _ => rfl

/-- Checks that write nothing may stand in front of what is atomic. -/
theorem IsReadOnly.bind {p : Building κ α} (hp : IsReadOnly p) {f : α → Building κ β}
    (hf : ∀ a, IsAtomic (f a)) : IsAtomic (p >>= f) := by
  intro q e h
  cases hrun : attempt p q with
  | mk result q' =>
    obtain rfl : q' = q := by rw [← hp q, left, hrun]
    rw [attempt_bind, hrun] at h
    rw [left, attempt_bind, hrun]
    cases result with
    | error e' => rfl
    | ok a => exact hf a q' e h

theorem IsAtomic.left_of_outcome {p : Building κ Unit} (hp : IsAtomic p) {q : Query κ}
    {e : QueryError} (h : outcome p q = .error e) : left p q = q := by
  refine hp q e ?_
  rw [outcome] at h
  cases hresult : (attempt p q).1 with
  | error e' =>
    rw [hresult] at h
    cases h
    rfl
  | ok a =>
    rw [hresult] at h
    cases h

theorem outcome_bind (p next : Building κ Unit) (q : Query κ) :
    outcome (do p; next) q = (do outcome next (← outcome p q)) := by
  unfold outcome left
  rw [attempt_bind]
  rcases attempt p q with ⟨e | a, q'⟩
  · rfl
  · rfl

theorem outcome_get_bind (f : Query κ → Building κ Unit) (q : Query κ) :
    outcome (get >>= f) q = outcome (f q) q := rfl

theorem outcome_checked (x : Except QueryError α) (write : α → Query κ → Query κ) (q : Query κ) :
    outcome (do modify (write (← ofExcept x))) q = (do return write (← x) q) := by
  cases x with
  | error e => rfl
  | ok a => rfl

end Building

open Building

/-! ## Calls as programs -/

/-- The condition that a program makes of a fresh query. What it leaves of that query is dropped if
it fails. -/
def nested (build : Building κ Unit) : Building κ RawFilter :=
  ofExcept (return RawFilter.ofDocuments [(← outcome build empty).filter])

/-- Adds the condition that a program makes of a fresh query. -/
def pushGroup (connective : Connective) (build : Building κ Unit) : Building κ Unit := do
  let group ← nested build
  modify (·.pushFilter connective group.document)

section

variable [Regex.Engine]

mutual

/-- A configuration call as a program that checks and then writes. A call that cannot fail is a
write alone. -/
def perform (call : Call κ) : Building κ Unit :=
  match call with
  | .collection name => do
    match (← get).connection? with
    | some connection => modify fun q => { q with collection? := some ⟨connection, name⟩ }
    | none => throw .missingConnection
  | .compareWith connective field token value => do
    let op ← ofExcept (Operator.translate token)
    modify (·.pushComparison connective field op value)
  | .compareDate connective field token millis => do
    let op ← ofExcept (Operator.translate token)
    modify (·.pushComparison connective field op (.dateTime millis))
  | .group connective calls => pushGroup connective (performAll calls)
  | .joinOperator collection localField token foreignField => do
    let j ← ofExcept (Join.onOperator collection localField token foreignField)
    modify (·.join j)
  | .indexBy field => do
    let fields := (← get).state.fields
    if !fields.isEmpty && !Document.contains fields field then
      throw (.unselectedIndexKey field)
    else modify (·.mapState fun s => { s with indexBy? := some field })
  | call => modify fun q => (q.apply call).toOption.getD q
termination_by structural call

/-- A list of configuration calls as a program, which ends at the first that fails and leaves what
the calls before it wrote. -/
def performAll (calls : List (Call κ)) : Building κ Unit :=
  match calls with
  | [] => pure ()
  | call :: rest => do perform call; performAll rest
termination_by structural calls

end

omit [Regex.Engine] in
theorem outcome_pushGroup (connective : Connective) (build : Building κ Unit) (q : Query κ) :
    outcome (pushGroup connective build) q = (do
      let inner ← outcome build empty
      return q.pushFilter connective (RawFilter.ofDocuments [inner.filter]).document) := by
  rw [pushGroup, nested, outcome_checked]
  cases outcome build empty with
  | error e => rfl
  | ok inner => rfl

mutual

/-- The program of a call hands back what the call gives. -/
theorem outcome_perform (call : Call κ) (q : Query κ) :
    outcome (perform call) q = q.apply call := by
  cases call with
  | collection name =>
    obtain ⟨_ | connection, collection?, state, expectMany, strictInserts⟩ := q
    · rfl
    · rfl
  | compareWith connective field token value => exact outcome_checked _ _ q
  | compareDate connective field token millis => exact outcome_checked _ _ q
  | joinOperator collection localField token foreignField => exact outcome_checked _ _ q
  | group connective calls =>
    -- The calls of the group are shorter, and only what they hand back counts.
    rw [perform, apply, outcome_pushGroup, outcome_performAll calls empty]
  | indexBy field =>
    change outcome (perform (.indexBy field)) q = q.indexBy field
    rw [perform, outcome_get_bind, indexBy]
    simp only
    split
    · rfl
    · rfl
  | _ => rfl
termination_by structural call

theorem outcome_performAll (calls : List (Call κ)) (q : Query κ) :
    outcome (performAll calls) q = q.applyAll calls := by
  match calls with
  | [] => rfl
  | call :: rest =>
    rw [performAll, outcome_bind, applyAll, outcome_perform call q]
    exact bind_congr fun q' => outcome_performAll rest q'
termination_by structural calls

end

/-! ## Failures of single requests -/

omit [Regex.Engine] in
/-- A group that fails leaves the query around it as it was, whatever its program does. -/
theorem isAtomic_pushGroup (connective : Connective) (build : Building κ Unit) :
    IsAtomic (pushGroup connective build) :=
  (isReadOnly_ofExcept _).bind fun _ => isAtomic_modify _

/-- A call that fails leaves the query as it was. -/
theorem isAtomic_perform (call : Call κ) : IsAtomic (perform call) := by
  cases call with
  | collection name =>
    refine isReadOnly_get.bind fun q => ?_
    split
    · exact isAtomic_modify _
    · exact isAtomic_throw _
  | compareWith connective field token value | compareDate connective field token millis =>
    exact (isReadOnly_ofExcept _).bind fun op => isAtomic_modify _
  | joinOperator collection localField token foreignField =>
    exact (isReadOnly_ofExcept _).bind fun j => isAtomic_modify _
  | group connective calls => exact isAtomic_pushGroup connective _
  | indexBy field =>
    refine isReadOnly_get.bind fun q => ?_
    simp only
    split
    · exact isAtomic_throw _
    · exact isAtomic_modify _
  | _ => exact isAtomic_modify _

/-- The requests of a run. -/
inductive Request (κ : Type) where
  | call (call : Call κ)
  | connect (connection : κ)
  /-- A call that only reads, which may look at all of the query. -/
  | look
  /-- A group of conditions, by any program on a fresh query. -/
  | group (connective : Connective) (build : Building κ Unit)

namespace Request

/-- The program of a request. -/
def program : Request κ → Building κ Unit
  | call c => perform c
  | connect connection => modify (·.withConnection connection)
  | look => pure ()
  | group connective build => pushGroup connective build

/-- A request that fails leaves the query as it was. -/
theorem isAtomic_program (r : Request κ) : IsAtomic r.program := by
  cases r with
  | call c => exact isAtomic_perform c
  | connect connection => exact isAtomic_modify _
  | look => exact isAtomic_pure _
  | group connective build => exact isAtomic_pushGroup connective build

end Request

/-! ## Runs -/

/-- What the requests of a run hand back, each made on the query that the last one left. -/
def outcomes (q : Query κ) : List (Request κ) → List (Except QueryError (Query κ))
  | [] => []
  | r :: rest => outcome r.program q :: outcomes (left r.program q) rest

/-- The query at the end of a run, in which failures do not stop the requests behind them. -/
def afterAll (q : Query κ) : List (Request κ) → Query κ
  | [] => q
  | r :: rest => afterAll (left r.program q) rest

/-- The requests of a run that do not fail. -/
def accepted (q : Query κ) (requests : List (Request κ)) : List (Request κ) :=
  ((requests.zip (q.outcomes requests)).filter fun made => made.2.isOk).map Prod.fst

variable (q : Query κ)

theorem accepted_cons (r : Request κ) (rest : List (Request κ)) :
    q.accepted (r :: rest) =
      if (outcome r.program q).isOk then r :: (left r.program q).accepted rest
      else (left r.program q).accepted rest := by
  unfold accepted
  rw [outcomes, List.zip_cons_cons, List.filter_cons]
  split
  · rfl
  · rfl

/-- A run without the requests that fail ends at the same query. -/
theorem afterAll_accepted (requests : List (Request κ)) :
    q.afterAll (q.accepted requests) = q.afterAll requests := by
  induction requests generalizing q with
  | nil => rfl
  | cons r rest ih =>
    rw [accepted_cons, afterAll, ← ih]
    cases h : outcome r.program q with
    | ok q' => rfl
    | error e =>
      -- The requests behind a failure meet the query that they meet without it.
      rw [r.isAtomic_program.left_of_outcome h]
      rfl

/-- A run without the requests that fail hands back the same to the others. -/
theorem outcomes_accepted (requests : List (Request κ)) :
    q.outcomes (q.accepted requests) = (q.outcomes requests).filter Except.isOk := by
  induction requests generalizing q with
  | nil => rfl
  | cons r rest ih =>
    rw [accepted_cons, outcomes, List.filter_cons, ← ih]
    cases h : outcome r.program q with
    | ok q' =>
      change outcome r.program q :: _ = _
      rw [h]
      rfl
    | error e =>
      rw [r.isAtomic_program.left_of_outcome h]
      rfl

/-- Failures leave no trace. A run without the requests that fail ends at the same query and hands
back the same to the others; an insertion or a deletion that fails leaves the store as it was. -/
theorem failures_leave_no_trace [IdSource] (requests : List (Request κ)) (s : Store) :
    q.afterAll (q.accepted requests) = q.afterAll requests ∧
      q.outcomes (q.accepted requests) = (q.outcomes requests).filter Except.isOk ∧
      (∀ docs e, (q.insert s docs).result = .error e → (q.insert s docs).store = s) ∧
      (∀ records e, (q.insertRecords s records).result = .error e →
        (q.insertRecords s records).store = s) ∧
      ∀ e, (q.delete s).result = .error e → (q.delete s).store = s :=
  ⟨q.afterAll_accepted requests, q.outcomes_accepted requests,
    fun docs => (appends_insert docs).refused,
    fun records => (appends_insertRecords records).refused, thins_delete.refused⟩

end

/-- Four of nine requests fail, one of them a group in a group that has a condition already. The
second record is no document, and the condition of the deletion cannot be checked on the second
document. -/
theorem failures_leave_no_trace_users :
    let named : Call Unit := .compare .and "name" (.string "al")
    let requests : List (Request Unit) :=
      [.call (.collection "people"), .connect (), .call (.collection "users"),
        .call (.compareWith .or "age" "=>" (.int32 30)),
        .group .and (do
          perform named
          pushGroup .or (performAll [named, .joinOperator "pets" "name" "?" "owner"])),
        .call (.predicate .and (.raw ⟨.and, [[("tags", .document
          [("$elemMatch", .document [("$odd", .null)])])]]⟩)),
        .call (.select [.name "name"]), .call (.indexBy "age"), .look]
    let s : Store := ⟨[("users",
      [[("name", .string "al")], [("name", .string "bo"), ("tags", .array [.null])]])], 0⟩
    let records : List Record := [⟨"user", .object [("name", .string "cy")]⟩, ⟨"user", .null⟩]
    let q := (empty : Query Unit).afterAll requests
    ((empty : Query Unit).outcomes requests).map Except.isOk =
        [false, true, true, false, false, true, true, false, true] ∧
      (empty : Query Unit).afterAll ((empty : Query Unit).accepted requests) = q ∧
      (q.insert s []).result = .error .emptyInsert ∧ (q.insert s []).store = s ∧
      (q.insertRecords s records).result = .error .notObject ∧
      (q.insertRecords s records).store = s ∧
      (q.delete s).result = .error (.backend (.unsupportedOperator "$odd")) ∧
      (q.delete s).store = s := by
  intro named requests s records q
  have hinsert : (q.insert s []).result = .error .emptyInsert := rfl
  have hrecords : (q.insertRecords s records).result = .error .notObject := rfl
  have hdelete : (q.delete s).result = .error (.backend (.unsupportedOperator "$odd")) := rfl
  obtain ⟨hafter, -, -⟩ := failures_leave_no_trace (empty : Query Unit) requests s
  obtain ⟨-, -, hinserted, hrecorded, hdeleted⟩ := failures_leave_no_trace q requests s
  exact ⟨rfl, hafter, hinsert, hinserted [] _ hinsert, hrecords, hrecorded records _ hrecords,
    hdelete, hdeleted _ hdelete⟩

end DocQuery.Query
