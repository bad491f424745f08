import DocQuery.Proofs.Condition.Verdict
import DocQuery.Regex.Basic
import DocQuery.Store
import Mathlib.Data.List.Forall2

/-!
# Mutations of many documents

A mutation goes through the documents of a collection from the first on and ends at the first
document that cannot be checked or cannot be changed. Every document before that one is settled as a
whole, and that one and all behind it are as they were, although the change of a single document
keeps what it did before it failed.

## Main definitions

* `Store.Settled`: what a mutation leaves in the place of a document that it passes
* `Store.FailsAt`: how a mutation ends at a document
* `Store.isMatched`, `Store.isModified`: what the two counts of a report count
* `Store.SettlesPrefix`: a mutation that settled the first documents of a collection

## Main results

* `Store.updateDocs_of_settled`, `Store.updateDocs_of_failsAt`: one document of a run
* `Store.updateDocs_settles`, `Store.report_updateDocs`: a whole run
* `Store.updateMany_settlesPrefix`: a call, with its report, its error and the other collections
-/

namespace DocQuery.Store

open Condition (docMatches isMatch)
open Mutation (applyUpdate)

section

variable [Regex.Engine]

/-- What a mutation leaves in the place of a document that it passes. -/
inductive Settled (filter update : Document) : Document → Document → Prop
  | unmatched {doc : Document} (hmatch : docMatches doc filter [] = .ok false) :
    Settled filter update doc doc
  | unchanged {doc : Document} (hmatch : docMatches doc filter [] = .ok true)
    (hresult : (applyUpdate update doc).result = .ok false) : Settled filter update doc doc
  | changed {doc : Document} (hmatch : docMatches doc filter [] = .ok true)
    (hresult : (applyUpdate update doc).result = .ok true) :
    Settled filter update doc (applyUpdate update doc).doc

/-- How a mutation ends at a document: the check fails, or the change of a document that satisfies
the filter. -/
inductive FailsAt (filter update doc : Document) : StoreError → Prop
  | check {e : StoreError} (hmatch : docMatches doc filter [] = .error e) :
    FailsAt filter update doc e
  | change {e : StoreError} (hmatch : docMatches doc filter [] = .ok true)
    (hresult : (applyUpdate update doc).result = .error e) : FailsAt filter update doc e

/-- Whether a document counts as matched. -/
def isMatched (filter doc : Document) : Bool := isMatch filter [] doc

/-- Whether a document counts as modified. -/
def isModified (filter update doc : Document) : Bool :=
  isMatched filter doc && Verdict.isTrue (applyUpdate update doc).result

/-- A report behind one more document. -/
def reportAfter (filter update doc : Document) (report : UpdateReport) : UpdateReport :=
  ⟨report.matched + (isMatched filter doc).toNat,
    report.modified + (isModified filter update doc).toNat⟩

variable (filter update : Document)

/-! ## One document -/

theorem settled_or_failsAt (doc : Document) :
    (∃ left, Settled filter update doc left) ∨ ∃ e, FailsAt filter update doc e := by
  cases hmatch : docMatches doc filter [] with
  | error e => exact .inr ⟨e, .check hmatch⟩
  | ok matched =>
    cases matched with
    | false => exact .inl ⟨doc, .unmatched hmatch⟩
    | true =>
      cases hresult : (applyUpdate update doc).result with
      | error e => exact .inr ⟨e, .change hmatch hresult⟩
      | ok changed =>
        cases changed with
        | false => exact .inl ⟨doc, .unchanged hmatch hresult⟩
        | true => exact .inl ⟨_, .changed hmatch hresult⟩

variable {filter update}

/-- A document that is settled gets its value and is counted, and the run goes on. -/
theorem updateDocs_of_settled {doc left : Document} (h : Settled filter update doc left)
    (rest : List Document) (report : UpdateReport) :
    updateDocs filter update (doc :: rest) report =
      { updateDocs filter update rest (reportAfter filter update doc report) with
        docs := left ::
          (updateDocs filter update rest (reportAfter filter update doc report)).docs } := by
  cases h with
  | unmatched hmatch =>
    have hreport : reportAfter filter update doc report = report := by
      simp [reportAfter, isModified, isMatched, Condition.isMatch_of_ok hmatch]
    rw [updateDocs, hmatch, hreport]
  | unchanged hmatch hresult =>
    have hreport : reportAfter filter update doc report = ⟨report.matched + 1, report.modified⟩ := by
      simp [reportAfter, isModified, isMatched, Condition.isMatch_of_ok hmatch, hresult,
        Verdict.isTrue]
    rw [updateDocs, hmatch, hreport]
    simp only [hresult]
    rfl
  | changed hmatch hresult =>
    have hreport : reportAfter filter update doc report =
        ⟨report.matched + 1, report.modified + 1⟩ := by
      simp [reportAfter, isModified, isMatched, Condition.isMatch_of_ok hmatch, hresult,
        Verdict.isTrue]
    rw [updateDocs, hmatch, hreport]
    simp only [hresult]
    rfl

/-- A document that fails ends the run, and all documents from it on are left alone. -/
theorem updateDocs_of_failsAt {doc : Document} {e : StoreError} (h : FailsAt filter update doc e)
    (rest : List Document) (report : UpdateReport) :
    (updateDocs filter update (doc :: rest) report).docs = doc :: rest ∧
      (updateDocs filter update (doc :: rest) report).error? = some e := by
  cases h with
  | check hmatch =>
    rw [updateDocs, hmatch]
    exact ⟨rfl, rfl⟩
  | change hmatch hresult =>
    rw [updateDocs, hmatch]
    simp only [hresult]
    exact ⟨trivial, trivial⟩

/-! ## A run -/

/-- Where the documents that a run did not settle begin: there are none, or the first of them is the
one that fails. -/
def EndsAt (filter update : Document) (rest : List Document) : Option StoreError → Prop
  | none => rest = []
  | some e => ∃ doc more, rest = doc :: more ∧ FailsAt filter update doc e

variable (filter update)

/-- A run settles the documents before the one that fails, and leaves that one and all behind it
alone. -/
theorem updateDocs_settles (docs : List Document) (report : UpdateReport) :
    ∃ done left rest, docs = done ++ rest ∧ List.Forall₂ (Settled filter update) done left ∧
      (updateDocs filter update docs report).docs = left ++ rest ∧
      EndsAt filter update rest (updateDocs filter update docs report).error? := by
  induction docs generalizing report with
  | nil => exact ⟨[], [], [], rfl, .nil, rfl, rfl⟩
  | cons doc rest ih =>
    rcases settled_or_failsAt filter update doc with ⟨value, hvalue⟩ | ⟨e, hfails⟩
    · obtain ⟨done, left, behind, hsplit, hsettled, hdocs, hends⟩ :=
        ih (reportAfter filter update doc report)
      rw [updateDocs_of_settled hvalue]
      refine ⟨doc :: done, value :: left, behind, ?_, .cons hvalue hsettled, ?_, hends⟩
      · rw [hsplit, List.cons_append]
      · rw [hdocs, List.cons_append]
    · obtain ⟨hdocs, herror⟩ := updateDocs_of_failsAt hfails rest report
      refine ⟨[], [], doc :: rest, rfl, .nil, hdocs, ?_⟩
      rw [herror]
      exact ⟨doc, rest, rfl, hfails⟩

/-- A run that no document ends counts the documents that satisfy the filter and those among them
that it changed. -/
theorem report_updateDocs (docs : List Document) (report : UpdateReport)
    (h : (updateDocs filter update docs report).error? = none) :
    (updateDocs filter update docs report).report =
      ⟨report.matched + docs.countP (isMatched filter),
        report.modified + docs.countP (isModified filter update)⟩ := by
  induction docs generalizing report with
  | nil => rfl
  | cons doc rest ih =>
    rcases settled_or_failsAt filter update doc with ⟨value, hvalue⟩ | ⟨e, hfails⟩
    · rw [updateDocs_of_settled hvalue] at h ⊢
      have hrest := ih (reportAfter filter update doc report) h
      have htoNat : ∀ b : Bool, b.toNat = if b = true then 1 else 0 := by decide
      simp only [List.countP_cons]
      rw [hrest]
      simp only [reportAfter, htoNat, UpdateReport.mk.injEq]
      omega
    · have herror := (updateDocs_of_failsAt hfails rest report).2
      rw [herror] at h
      cases h

/-! ## A call -/

variable {s : Store} {collection : String} {docs : List Document}

/-- A call stores what the run left, and gives the error of the run or its report. -/
theorem updateMany_of_find? (hdocs : Collections.find? s.collections collection = some docs) :
    (s.updateMany collection filter update).store =
        s.seed collection (updateDocs filter update docs ⟨0, 0⟩).docs ∧
      (s.updateMany collection filter update).result =
        match (updateDocs filter update docs ⟨0, 0⟩).error? with
        | none => .ok (updateDocs filter update docs ⟨0, 0⟩).report
        | some e => .error e := by
  rw [updateMany, hdocs]
  cases herror : (updateDocs filter update docs ⟨0, 0⟩).error? <;>
    simp only [herror] <;> exact ⟨trivial, trivial⟩

/-- A call succeeds exactly if the run settled all documents, and then its report counts them all;
otherwise it gives the error of the first document that the run did not settle. -/
theorem result_updateMany_of_endsAt
    (hdocs : Collections.find? s.collections collection = some docs) {done rest : List Document}
    (hsplit : docs = done ++ rest)
    (hends : EndsAt filter update rest (updateDocs filter update docs ⟨0, 0⟩).error?) :
    ((∃ report, (s.updateMany collection filter update).result = .ok report) ↔
        done.length = docs.length) ∧
      (∀ report, (s.updateMany collection filter update).result = .ok report →
        report = ⟨docs.countP (isMatched filter), docs.countP (isModified filter update)⟩) ∧
      (∀ e, (s.updateMany collection filter update).result = .error e →
        ∃ doc, docs[done.length]? = some doc ∧ FailsAt filter update doc e) := by
  have hcount : docs.length = done.length + rest.length := by
    rw [hsplit, List.length_append]
  rw [(updateMany_of_find? filter update hdocs).2]
  cases herror : (updateDocs filter update docs ⟨0, 0⟩).error? with
  | none =>
    rw [herror] at hends
    have hall : done.length = docs.length := by
      rw [hcount, show rest = [] from hends]
      rfl
    refine ⟨⟨fun _ => hall, fun _ => ⟨_, rfl⟩⟩, ?_, nofun⟩
    rintro report ⟨⟩
    rw [report_updateDocs filter update docs ⟨0, 0⟩ herror, Nat.zero_add, Nat.zero_add]
  | some e =>
    rw [herror] at hends
    obtain ⟨doc, more, hrest, hfails⟩ := hends
    rw [hrest, List.length_cons] at hcount
    refine ⟨⟨nofun, fun hall => ?_⟩, nofun, ?_⟩
    · omega
    · rintro _ ⟨⟩
      refine ⟨doc, ?_, hfails⟩
      rw [hsplit, hrest, List.getElem?_append_right (Nat.le_refl _), Nat.sub_self,
        List.getElem?_cons_zero]

/-- Only matched documents count as modified. -/
theorem countP_isModified_le (docs : List Document) :
    docs.countP (isModified filter update) ≤ docs.countP (isMatched filter) := by
  refine List.countP_mono_left fun doc _ h => ?_
  rw [isModified, Bool.and_eq_true] at h
  exact h.1

/-- What a call left behind, if it settled the first `k` documents of a collection and no others. -/
structure SettlesPrefix (filter update : Document) (s : Store) (collection : String)
    (docs : List Document) (k : Nat) (left : Effect StoreError UpdateReport) : Prop where
  le_length : k ≤ docs.length
  /-- Each of the first documents is settled in its place, and the others are as they were. -/
  documents : ∃ after, Collections.find? left.store.collections collection = some after ∧
    after.length = docs.length ∧
    List.Forall₂ (Settled filter update) (docs.take k) (after.take k) ∧
    after.drop k = docs.drop k
  others : ∀ other, other ≠ collection →
    Collections.find? left.store.collections other = Collections.find? s.collections other
  /-- The call succeeds exactly if all documents are settled. -/
  isOk_iff : (∃ report, left.result = .ok report) ↔ k = docs.length
  report : ∀ report, left.result = .ok report →
    report.matched = docs.countP (isMatched filter) ∧
      report.modified = docs.countP (isModified filter update) ∧
      report.modified ≤ report.matched
  /-- The first of the others is the document at which the call failed. -/
  error : ∀ e, left.result = .error e → ∃ doc, docs[k]? = some doc ∧ FailsAt filter update doc e

/-- Whatever the outcome of a mutation of a collection, there is a number of documents before which
every document is settled as a whole and from which on every document is as it was. -/
theorem updateMany_settlesPrefix (s : Store) (collection : String) (filter update : Document)
    {docs : List Document} (hdocs : Collections.find? s.collections collection = some docs) :
    ∃ k, SettlesPrefix filter update s collection docs k
      (s.updateMany collection filter update) := by
  have hstore := (updateMany_of_find? filter update hdocs).1
  obtain ⟨done, left, rest, hsplit, hsettled, hleft, hends⟩ :=
    updateDocs_settles filter update docs ⟨0, 0⟩
  obtain ⟨hok, hreport, herror⟩ := result_updateMany_of_endsAt filter update hdocs hsplit hends
  have hlength : done.length = left.length := hsettled.length_eq
  rw [hleft] at hstore
  have hdocuments : (left ++ rest).length = docs.length ∧
      List.Forall₂ (Settled filter update) (docs.take done.length)
        ((left ++ rest).take done.length) ∧
      (left ++ rest).drop done.length = docs.drop done.length := by
    rw [hsplit]
    refine ⟨by rw [List.length_append, List.length_append, hlength], ?_, ?_⟩
    · rw [List.take_left, hlength, List.take_left]
      exact hsettled
    · rw [List.drop_left, hlength, List.drop_left]
  refine ⟨done.length, ?_, ⟨left ++ rest, ?_, hdocuments⟩, ?_, hok, ?_, herror⟩
  · rw [hsplit, List.length_append]
    omega
  · rw [hstore]
    exact Collections.find?_set_self _ _ _
  · intro other hother
    rw [hstore]
    exact Collections.find?_set_of_ne _ _ hother
  · intro report h
    obtain rfl := hreport report h
    exact ⟨rfl, rfl, countP_isModified_le filter update docs⟩

end

/-- Three documents: one is changed, one does not satisfy the filter, and one keeps nothing of the
change that fails half-way. -/
theorem updateMany_settlesPrefix_stock :
    let docs : List Document := [[("on", .boolean true), ("n", .int32 1)],
      [("on", .boolean false)], [("on", .boolean true), ("n", .string "x")]]
    let filter : Document := [("on", .boolean true)]
    let update : Document := [("$set", .document [("seen", .boolean true)]),
      ("$inc", .document [("n", .int32 1)])]
    let s : Store := ⟨[("stock", docs)], 0⟩
    Collections.find? s.collections "stock" = some docs ∧
      (s.updateMany "stock" filter update).store.documents "stock" =
        [[("on", .boolean true), ("n", .int32 2), ("seen", .boolean true)],
          [("on", .boolean false)], [("on", .boolean true), ("n", .string "x")]] ∧
      ∃ k, SettlesPrefix filter update s "stock" docs k
        (s.updateMany "stock" filter update) := by
  intro docs filter update s
  exact ⟨rfl, rfl, updateMany_settlesPrefix s "stock" filter update rfl⟩

end DocQuery.Store
