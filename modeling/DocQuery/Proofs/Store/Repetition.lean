import DocQuery.Proofs.Path.ReadBack
import DocQuery.Proofs.Pipeline.Rows
import DocQuery.Proofs.Store.Updates
import DocQuery.Proofs.Update.Decomposition
import DocQuery.Proofs.Value.Sameness
import DocQuery.Regex.Basic

/-!
# Updates made again

An update that only writes values has nothing left to do the second time. Every value that it wrote
is read back, since no later write of the update is on its way, and is recognised as what would be
written. A document that did not satisfy the filter was left alone, so it does not satisfy it now.

## Main definitions

* `Mutation.Step.IsMet`: a step that finds what it would write
* `Update.SetsOnly`: an update that writes values without a NaN at diverging paths that can be read

## Main results

* `Mutation.runSteps_again`: a run of writes at diverging paths changes nothing when made again
* `Store.updateMany_again`: the same for an update of a collection
-/

namespace DocQuery

/-! ## Runs of writes -/

namespace Mutation

/-- A step that finds what it would write. -/
def Step.IsMet (s : Step) (doc : Document) : Prop :=
  ∃ found, Document.atPath? doc s.path = some found ∧ found.same s.operand = true

/-- A step that writes a value and recognises it afterwards. -/
structure Step.WritesReadable (s : Step) : Prop where
  op_eq : s.op = .set
  isReadable : Path.IsReadable s.path
  same_self : s.operand.same s.operand = true

variable {s t : Step} {steps : List Step} {doc next last : Document} {changed : Bool}

variable [Regex.Engine]

theorem Step.apply_of_isMet (hs : s.WritesReadable) (h : s.IsMet doc) :
    s.apply doc = .ok (doc, false) := by
  obtain ⟨found, hfound, hsame⟩ := h
  refine Step.apply_eq_ok_iff.2 ⟨none, ?_, rfl⟩
  unfold Step.decide
  simp only [hs.op_eq, hfound, hsame, if_true]

/-- A write is met by what it leaves. -/
theorem Step.isMet_of_apply (hs : s.WritesReadable) (h : s.apply doc = .ok (next, changed)) :
    s.IsMet next := by
  obtain ⟨value?, hdecide, hwrite⟩ := Step.apply_eq_ok_iff.1 h
  simp only [Step.decide, hs.op_eq] at hdecide
  have hwritten : writeIfAny doc s.path (some s.operand) = .ok next → s.IsMet next := fun hset =>
    ⟨s.operand, Document.atPath?_setPath_self hs.isReadable hset, hs.same_self⟩
  cases hfound : Document.atPath? doc s.path with
  | none =>
    rw [hfound] at hdecide
    cases hdecide
    exact hwritten hwrite
  | some found =>
    rw [hfound] at hdecide
    by_cases hsame : found.same s.operand = true
    · -- The same value was there, and nothing is written.
      simp only [hsame, if_true] at hdecide
      cases hdecide
      cases hwrite
      exact ⟨found, hfound, hsame⟩
    · simp only [hsame] at hdecide
      cases hdecide
      exact hwritten hwrite

/-- A step leaves the value at a diverging path alone. -/
theorem Step.atPath?_of_apply {other : String}
    (hdiverge : Path.Diverge (Path.segments s.path) (Path.segments other))
    (h : s.apply doc = .ok (next, changed)) :
    Document.atPath? next other = Document.atPath? doc other := by
  obtain ⟨value?, -, hwrite⟩ := Step.apply_eq_ok_iff.1 h
  exact atPath?_writeIfAny hdiverge hwrite

/-- A run leaves the value at a path alone from which all its steps diverge. -/
theorem atPath?_of_runSteps {other : String}
    (hdiverge : ∀ s ∈ steps, Path.Diverge (Path.segments s.path) (Path.segments other))
    (h : runSteps steps doc = ⟨last, .ok changed⟩) :
    Document.atPath? last other = Document.atPath? doc other := by
  induction steps generalizing doc changed with
  | nil =>
    cases h
    rfl
  | cons s rest ih =>
    obtain ⟨hs, hrest⟩ := List.forall_mem_cons.1 hdiverge
    obtain ⟨next, c, c', happly, hrun, -⟩ := runSteps_cons_eq_ok_iff.1 h
    exact (ih hrest hrun).trans (Step.atPath?_of_apply hs happly)

/-- All steps of a run are met by what the run leaves: each by its own write, which the steps behind
it leave alone. -/
theorem isMet_of_runSteps (hwrites : ∀ s ∈ steps, s.WritesReadable)
    (hdiverge : Path.PairwiseDiverge (steps.map Step.path))
    (h : runSteps steps doc = ⟨last, .ok changed⟩) : ∀ s ∈ steps, s.IsMet last := by
  induction steps generalizing doc changed with
  | nil => exact fun s hs => nomatch hs
  | cons s rest ih =>
    obtain ⟨hs, hrest⟩ := List.forall_mem_cons.1 hwrites
    obtain ⟨hhead, htail⟩ := List.pairwise_cons.1 hdiverge
    obtain ⟨next, c, c', happly, hrun, -⟩ := runSteps_cons_eq_ok_iff.1 h
    refine List.forall_mem_cons.2 ⟨?_, ih hrest htail hrun⟩
    -- The steps behind the first one write past its path.
    have hframe : Document.atPath? last s.path = Document.atPath? next s.path :=
      atPath?_of_runSteps (fun t ht => (hhead t.path (List.mem_map_of_mem ht)).symm) hrun
    unfold Step.IsMet
    rw [hframe]
    exact Step.isMet_of_apply hs happly

/-- A run of steps that are met changes nothing. -/
theorem runSteps_of_isMet (hwrites : ∀ s ∈ steps, s.WritesReadable)
    (h : ∀ s ∈ steps, s.IsMet doc) : runSteps steps doc = ⟨doc, .ok false⟩ := by
  induction steps with
  | nil => rfl
  | cons s rest ih =>
    obtain ⟨hs, hrest⟩ := List.forall_mem_cons.1 hwrites
    obtain ⟨hmet, hmets⟩ := List.forall_mem_cons.1 h
    exact runSteps_cons_eq_ok_iff.2
      ⟨doc, false, false, Step.apply_of_isMet hs hmet, ih hrest hmets, rfl⟩

/-- A run of writes at diverging paths changes nothing when it is made again. -/
theorem runSteps_again (hwrites : ∀ s ∈ steps, s.WritesReadable)
    (hdiverge : Path.PairwiseDiverge (steps.map Step.path))
    (h : runSteps steps doc = ⟨last, .ok changed⟩) : runSteps steps last = ⟨last, .ok false⟩ :=
  runSteps_of_isMet hwrites (isMet_of_runSteps hwrites hdiverge h)

end Mutation

/-! ## Updates -/

namespace Update

open Mutation

/-- The changes of an update; a whole document writes each of its fields. -/
def changes : Update → List (String × UpdateValue)
  | fields entries => entries
  | replacement doc => doc.map fun field => (field.1, .set field.2)

/-- An update that writes values without a NaN, at diverging paths that can be read. Documents
inside the values repeat no key, as no document does. -/
structure SetsOnly (u : Update) : Prop where
  isSet : ∀ change ∈ u.changes,
    ∃ value, change.2 = .set value ∧ value.IsNaNFree ∧ value.HasUniqueKeys
  isReadable : ∀ change ∈ u.changes, Path.IsReadable (target change)
  diverge : Path.PairwiseDiverge (u.changes.map target)

/-- The steps of an update of diverging paths are those of its changes, in some order. -/
theorem steps_perm {u : Update} (h : Path.PairwiseDiverge (u.changes.map target)) :
    u.steps.Perm (u.changes.map step) := by
  cases u with
  | fields entries => exact steps_foldl_add h.nodup
  | replacement doc =>
    rw [changes, List.map_map]
    exact .refl _

theorem SetsOnly.writesReadable {u : Update} (hu : u.SetsOnly) :
    ∀ s ∈ u.steps, s.WritesReadable := by
  intro s hs
  obtain ⟨⟨label, change⟩, hchange, rfl⟩ := List.mem_map.1 ((steps_perm hu.diverge).mem_iff.1 hs)
  obtain ⟨value, hset, hnan, hkeys⟩ := hu.isSet _ hchange
  obtain rfl : change = .set value := hset
  exact ⟨rfl, hu.isReadable _ hchange, value.same_self hnan hkeys⟩

theorem SetsOnly.pairwiseDiverge {u : Update} (hu : u.SetsOnly) :
    Path.PairwiseDiverge (u.steps.map Step.path) := by
  have hpaths : (u.changes.map step).map Step.path = u.changes.map target := by
    rw [List.map_map]
    exact List.map_congr_left fun change _ => step_path change
  refine Path.PairwiseDiverge.perm ?_ ((steps_perm hu.diverge).symm.map Step.path)
  rw [hpaths]
  exact hu.diverge

/-- An update of values changes nothing in a document that it succeeded on. -/
theorem SetsOnly.applyUpdate_again [Regex.Engine] {u : Update} (hu : u.SetsOnly) {doc : Document}
    {changed : Bool} (h : (applyUpdate u.decompose doc).result = .ok changed) :
    applyUpdate u.decompose (applyUpdate u.decompose doc).doc =
      ⟨(applyUpdate u.decompose doc).doc, .ok false⟩ := by
  rw [applyUpdate_decompose] at h
  rw [applyUpdate_decompose, applyUpdate_decompose]
  have hrun : runSteps u.steps doc = ⟨(runSteps u.steps doc).doc, .ok changed⟩ := by rw [← h]
  exact runSteps_again hu.writesReadable hu.pairwiseDiverge hrun

end Update

/-! ## Collections -/

namespace Store

variable {s : Store} {collection : String} {filter update : Document}

section

variable [Regex.Engine]

/-- A call that succeeds settles every document of its collection. -/
theorem settled_of_updateMany {docs : List Document}
    (hdocs : Collections.find? s.collections collection = some docs) {report : UpdateReport}
    (h : (s.updateMany collection filter update).result = .ok report) :
    ∃ left, List.Forall₂ (Settled filter update) docs left ∧
      (s.updateMany collection filter update).store = s.seed collection left ∧
      report.modified = docs.countP (isModified filter update) := by
  obtain ⟨hstore, hresult⟩ := updateMany_of_find? filter update hdocs
  obtain ⟨done, left, rest, hsplit, hsettled, hleft, hends⟩ :=
    updateDocs_settles filter update docs ⟨0, 0⟩
  rw [hresult] at h
  cases herror : (updateDocs filter update docs ⟨0, 0⟩).error? with
  | some e =>
    rw [herror] at h
    cases h
  | none =>
    rw [herror] at h hends
    obtain rfl : rest = [] := hends
    rw [List.append_nil] at hsplit hleft
    subst hsplit
    refine ⟨left, hsettled, ?_, ?_⟩
    · rw [hstore, hleft]
    · cases h
      rw [report_updateDocs filter update docs ⟨0, 0⟩ herror]
      exact Nat.zero_add _

/-- A document that is not modified is settled as it is. -/
theorem Settled.eq_of_not_isModified {doc left : Document} (h : Settled filter update doc left)
    (hmodified : isModified filter update doc = false) : left = doc := by
  cases h with
  | unmatched hmatch => rfl
  | unchanged hmatch hresult => rfl
  | changed hmatch hresult =>
    rw [isModified, isMatched, Condition.isMatch_of_ok hmatch, hresult] at hmodified
    cases hmodified

/-- An update of values does not modify what it left in the place of a document. -/
theorem Settled.isModified_eq_false {u : Update} (hu : u.SetsOnly) {doc left : Document}
    (h : Settled filter u.decompose doc left) : isModified filter u.decompose left = false := by
  rw [isModified, isMatched]
  -- Only a document that the first call changed is one that the filter did not see before.
  cases h with
  | unmatched hmatch => rw [Condition.isMatch_of_ok hmatch, Bool.false_and]
  | unchanged hmatch hresult =>
    rw [hresult]
    exact Bool.and_false _
  | changed hmatch hresult =>
    rw [hu.applyUpdate_again hresult]
    exact Bool.and_false _

theorem eq_of_forall₂_settled {docs left : List Document}
    (h : List.Forall₂ (Settled filter update) docs left)
    (hmodified : ∀ doc ∈ docs, isModified filter update doc = false) : left = docs := by
  induction h with
  | nil => rfl
  | cons hfirst _ ih =>
    obtain ⟨hdoc, hrest⟩ := List.forall_mem_cons.1 hmodified
    rw [hfirst.eq_of_not_isModified hdoc, ih hrest]

/-- An update of values that succeeds twice in a row modifies nothing the second time, and leaves
the store as it was after the first time. -/
theorem updateMany_again (s : Store) (collection : String) (filter : Document) {u : Update}
    (hu : u.SetsOnly) {first second : UpdateReport}
    (hfirst : (s.updateMany collection filter u.decompose).result = .ok first)
    (hsecond : ((s.updateMany collection filter u.decompose).store.updateMany collection filter
      u.decompose).result = .ok second) :
    second.modified = 0 ∧
      ((s.updateMany collection filter u.decompose).store.updateMany collection filter
        u.decompose).store = (s.updateMany collection filter u.decompose).store := by
  cases hdocs : Collections.find? s.collections collection with
  | none =>
    have hleft : s.updateMany collection filter u.decompose = ⟨s, .ok ⟨0, 0⟩, []⟩ := by
      rw [updateMany, hdocs]
    rw [hleft] at hsecond ⊢
    rw [hleft] at hsecond
    cases hsecond
    exact ⟨rfl, by rw [hleft]⟩
  | some docs =>
    obtain ⟨left, hsettled, hstore, -⟩ := settled_of_updateMany hdocs hfirst
    rw [hstore] at hsecond ⊢
    have hleft : Collections.find? (s.seed collection left).collections collection = some left :=
      Collections.find?_set_self _ _ _
    obtain ⟨again, hsettled', hstore', hcount⟩ := settled_of_updateMany hleft hsecond
    have hmodified : ∀ doc ∈ left, isModified filter u.decompose doc = false := by
      intro doc hdoc
      obtain ⟨old, -, hold⟩ := exists_mem_of_forall₂ hsettled hdoc
      exact hold.isModified_eq_false hu
    refine ⟨?_, ?_⟩
    · rw [hcount, List.countP_eq_zero]
      intro doc hdoc
      rw [hmodified doc hdoc]
      exact Bool.false_ne_true
    · rw [hstore', eq_of_forall₂_settled hsettled' hmodified, seed,
        Collections.set_of_find? hleft]

end

/-- Two writes below one field; the document that satisfies the filter still does, unmodified. -/
theorem updateMany_again_nested :
    let u : Update := .fields [("owner.name", .set (.string "ann")),
      ("owner.tags", .set (.array [.document [("k", .double ⟨0⟩)]])),
      ("moved", .set .null)]
    let filter : Document := [("open", .boolean true)]
    let s : Store := ⟨[("desks", [[("open", .boolean true), ("owner", .document [])],
      [("open", .boolean false)]])], 0⟩
    let left := (s.updateMany "desks" filter u.decompose).store
    u.SetsOnly ∧
      (s.updateMany "desks" filter u.decompose).result = .ok ⟨1, 1⟩ ∧
      (left.updateMany "desks" filter u.decompose).result = .ok ⟨1, 0⟩ ∧
      (left.updateMany "desks" filter u.decompose).store = left := by
  intro u filter s left
  have hu : u.SetsOnly := by
    refine ⟨?_, ?_, ?_⟩
    · simp only [u, Update.changes, List.forall_mem_cons]
      exact ⟨⟨_, rfl, by decide, by decide⟩, ⟨_, rfl, by decide, by decide⟩,
        ⟨_, rfl, by decide, by decide⟩, nofun⟩
    · decide
    · change Path.PairwiseDiverge ["owner.name", "owner.tags", "moved"]
      unfold Path.PairwiseDiverge
      decide
  exact ⟨hu, rfl, rfl, (updateMany_again s "desks" filter hu rfl rfl).2⟩

end Store

end DocQuery
