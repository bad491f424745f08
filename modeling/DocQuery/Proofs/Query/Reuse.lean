import DocQuery.Proofs.Query.Running

/-!
# Queries that run more than once

Finding and counting leave marks in the settings of a query: a limit of one, and the stage of a
count. So what a call gives depends on which calls were made before, though not on their order or
number. It is what a fresh copy gives if the earlier calls were of the same kind, or if the query
bore their marks from the start.

## Main definitions

* `Execution`, `Answer`: the calls that run the stages of a query, and what they give
* `Query.execute`: the query after a call, and what the call leaves behind
* `Query.answers`: the answers of calls made one after another
* `Query.usedBy`: the query that calls leave
* `Query.Bears`: a call leaves no mark that the query does not have

## Main results

* `Query.execute_fst`, `Query.usedBy_cons`: what one call leaves, and what many leave
* `Query.getElem?_answers`: every answer, by the calls before it
-/

namespace DocQuery

/-- The calls that run the stages of a query. -/
inductive Execution where
  | find
  | findAll
  | count
  deriving DecidableEq

/-- What such a call gives. -/
inductive Answer where
  | rows (r : ResultSet)
  | number (n : Nat)

/-- The number of rows of an answer, or the number that it is, where the call succeeds. -/
def Answer.sizeOf? : Except QueryError Answer → Option Nat
  | .ok (.rows r) => some r.rows.length
  | .ok (.number n) => some n
  | .error _ => none

open Answer (sizeOf?)

namespace Query

variable {κ : Type} (q : Query κ) (s : Store)

section

variable [Regex.Engine]

/-- The query after a call, and what the call leaves behind. -/
def execute : Execution → Query κ × Store.Effect QueryError Answer
  | .find => ((q.find s).1, { (q.find s).2 with result := (q.find s).2.result.map .rows })
  | .findAll =>
    ((q.findAll s).1, { (q.findAll s).2 with result := (q.findAll s).2.result.map .rows })
  | .count => ((q.count s).1, { (q.count s).2 with result := (q.count s).2.result.map .number })

/-- The answers of calls made one after another, each on what the one before it leaves. -/
def answers (q : Query κ) (s : Store) : List Execution → List (Except QueryError Answer)
  | [] => []
  | call :: rest =>
    (q.execute s call).2.result ::
      answers (q.execute s call).1 (q.execute s call).2.store rest

/-- The stage that counting leaves. -/
def countStage : Document := [("$count", .string "count")]

/-- The query as calls leave it. -/
def usedBy (calls : List Execution) : Query κ :=
  { q with
    state :=
      { q.state with
        limit := if .find ∈ calls then 1 else q.state.limit
        count? := if .count ∈ calls then some countStage else q.state.count? }
    expectMany := (calls.getLast?.map (· != .find)).getD q.expectMany }

/-- Whether a query has the mark that a call leaves. -/
def Bears : Execution → Prop
  | .find => q.state.limit = 1
  | .findAll => True
  | .count => q.state.count? = some countStage

/-! ## One call -/

theorem store_execute (call : Execution) : (q.execute s call).2.store = s := by
  cases call with
  | find => exact store_run q.forOne s
  | findAll => exact store_run q.forAll s
  | count => exact store_run q.forCount s

theorem execute_fst (call : Execution) : (q.execute s call).1 = q.usedBy [call] := by
  cases call <;> rfl

/-- A call gives the same on queries that differ in marks of its own kind alone. -/
theorem execute_usedBy {calls : List Execution} {call : Execution}
    (h : ∀ earlier ∈ calls, earlier = call ∨ q.Bears earlier) :
    ((q.usedBy calls).execute s call).2 = (q.execute s call).2 := by
  have hlimit (hcall : call ≠ .find) :
      (if .find ∈ calls then 1 else q.state.limit) = q.state.limit := by
    refine ite_eq_right_iff.2 fun hmem => ?_
    have hbears : q.Bears .find := (h _ hmem).resolve_left hcall.symm
    exact Eq.symm hbears
  have hcount (hcall : call ≠ .count) :
      (if .count ∈ calls then some countStage else q.state.count?) = q.state.count? := by
    refine ite_eq_right_iff.2 fun hmem => ?_
    have hbears : q.Bears .count := (h _ hmem).resolve_left hcall.symm
    exact Eq.symm hbears
  -- The call itself sets its own mark and what the result stands for.
  cases call with
  | find =>
    have hq : (q.usedBy calls).forOne = q.forOne := by
      simp only [usedBy, forOne, hcount (by decide)]
    simp only [execute, find, hq]
  | findAll =>
    have hq : (q.usedBy calls).forAll = q.forAll := by
      simp only [usedBy, forAll, hcount (by decide), hlimit (by decide)]
    simp only [execute, findAll, hq]
  | count =>
    have hq : (q.usedBy calls).forCount = q.forCount := by
      simp only [usedBy, forCount, forAll, hlimit (by decide)]
    simp only [execute, count, hq]

/-! ## Many calls -/

omit [Regex.Engine] in
theorem usedBy_cons (call : Execution) (rest : List Execution) :
    q.usedBy (call :: rest) = (q.usedBy [call]).usedBy rest := by
  have hmark : ∀ {α : Type} (kind : Execution) (mark old : α),
      (if kind ∈ call :: rest then mark else old) =
        if kind ∈ rest then mark else if kind ∈ [call] then mark else old := by
    intro α kind mark old
    by_cases hcall : kind = call <;> by_cases hrest : kind ∈ rest <;> simp [hcall, hrest]
  have hexpect : (((call :: rest).getLast?.map (· != .find)).getD q.expectMany : Bool) =
      (rest.getLast?.map (· != .find)).getD (call != .find) := by
    rw [List.getLast?_cons]
    cases rest.getLast? <;> rfl
  simp only [usedBy, hmark, hexpect]
  rfl

/-- Every answer is that of the query as the calls before it leave it. If these were of the same
kind, or left no mark that the query did not have, it is the answer of a fresh copy. -/
theorem getElem?_answers (calls : List Execution) (i : Nat) :
    (q.answers s calls)[i]? =
        calls[i]?.map (fun call => ((q.usedBy (calls.take i)).execute s call).2.result) ∧
      ∀ call, calls[i]? = some call →
        (∀ earlier ∈ calls.take i, earlier = call ∨ q.Bears earlier) →
          (q.answers s calls)[i]? = some (q.execute s call).2.result := by
  have hanswers : (q.answers s calls)[i]? =
      calls[i]?.map fun call => ((q.usedBy (calls.take i)).execute s call).2.result := by
    induction calls generalizing q i with
    | nil => rfl
    | cons first rest ih =>
      rw [answers, store_execute, execute_fst]
      cases i with
      | zero => rfl
      | succ i =>
        rw [List.getElem?_cons_succ, List.getElem?_cons_succ, List.take_succ_cons,
          usedBy_cons q first (rest.take i)]
        exact ih (q.usedBy [first]) i
  refine ⟨hanswers, fun call hcall hearlier => ?_⟩
  rw [hanswers, hcall, Option.map_some, execute_usedBy q s hearlier]

end

/-- All rows, the first row twice, and then all rows again, of which one is left. -/
theorem getElem?_answers_users :
    let q : Query Unit := ⟨none, some ⟨(), "users"⟩, .empty, true, true⟩
    let s : Store := ⟨[("users", [[("name", .string "al")], [("name", .string "bo")]])], 0⟩
    let calls : List Execution := [.findAll, .find, .find, .findAll]
    (q.answers s calls)[2]? = some (q.execute s .find).2.result ∧
      (q.answers s calls)[3]? =
        some ((q.usedBy [.findAll, .find, .find]).execute s .findAll).2.result ∧
      (q.answers s calls).map sizeOf? = [some 2, some 1, some 1, some 1] := by
  intro q s calls
  have hmarks : ∀ earlier ∈ calls.take 2, earlier = .find ∨ q.Bears earlier := by
    simp [calls, Bears]
  exact ⟨(getElem?_answers q s calls 2).2 .find rfl hmarks, (getElem?_answers q s calls 3).1,
    by decide +kernel⟩

/-- After a count, finding all of two rows finds the row of the count. -/
theorem not_forall_answers_eq_map :
    ¬ ∀ (q : Query Unit) (s : Store) (calls : List Execution),
      q.answers s calls = calls.map fun call => (q.execute s call).2.result := by
  intro h
  let q : Query Unit := ⟨none, some ⟨(), "users"⟩, .empty, true, true⟩
  let s : Store := ⟨[("users", [[("name", .string "al")], [("name", .string "bo")]])], 0⟩
  have hafter : (q.answers s [.count, .findAll]).map sizeOf? = [some 2, some 1] := by
    decide +kernel
  have hfresh : sizeOf? (q.execute s .findAll).2.result = some 2 := by decide +kernel
  rw [h] at hafter
  have hsecond : sizeOf? (q.execute s .findAll).2.result = some 1 :=
    (List.cons.inj (List.cons.inj hafter).2).1
  cases hfresh.symm.trans hsecond

end Query

end DocQuery
