import DocQuery.Proofs.Sort.Uniqueness
import DocQuery.Regex.Basic

/-!
# Sorting keeps ties

A sort stage puts its rows in order, the first key first, and rows that no key tells apart keep the
order in which they came. An item is inserted behind all items that it does not precede, so an
insertion moves no item past one that it ties with, whatever the comparison is.

## Main definitions

* `Sort.KeepsTies`: a list in another order, in which ties stand as they stood
* `Sort.compareKey`: how two rows stand to one another at one key of a sort document

## Main results

* `Sort.pairwise_ties_stableSort`: what holds of items in order of their arrival holds of sorted ties
* `Sort.compareDocs_eq_find?`: the first key at which two rows differ decides
* `Sort.runStage_sort`: a sort stage permutes its rows, puts them in order and keeps ties
-/

namespace DocQuery.Sort

section Ties

variable {α β : Type}

/-- The items of a list in another order, each with the position that it had; of two items that
compare as equal, the one that stood first stands first. -/
def KeepsTies (cmp : α → α → Ordering) (before after : List α) : Prop :=
  ∃ placed : List (α × Nat), placed.Perm before.zipIdx ∧ placed.map Prod.fst = after ∧
    placed.Pairwise fun a b => cmp a.1 b.1 = .eq → a.2 < b.2

theorem map_insertLast (f : α → β) (p : β → β → Bool) (x : α) (xs : List α) :
    (insertLast (fun a b => p (f a) (f b)) x xs).map f = insertLast p (f x) (xs.map f) := by
  induction xs with
  | nil => rfl
  | cons y rest ih =>
    simp only [insertLast, List.map_cons]
    split <;> simp [ih]

/-- A sort by what a function sees of the items sorts what it sees. -/
theorem map_stableSort (f : α → β) (p : β → β → Bool) (xs : List α) :
    (stableSort (fun a b => p (f a) (f b)) xs).map f = stableSort p (xs.map f) := by
  have hfold : ∀ sorted : List α,
      (xs.foldl (fun sorted x => insertLast (fun a b => p (f a) (f b)) x sorted) sorted).map f =
        (xs.map f).foldl (fun sorted x => insertLast p x sorted) (sorted.map f) := by
    induction xs with
    | nil => exact fun _ => rfl
    | cons x rest ih =>
      intro sorted
      rw [List.foldl_cons, ih, map_insertLast]
      rfl
  rw [stableSort, List.map_reverse, hfold []]
  rfl

variable {cmp : α → α → Ordering} {r : α → α → Prop}

/-- An item that comes after all others is put in front only of items that it precedes. -/
theorem pairwise_ties_insertLast {x : α} {xs : List α}
    (hxs : xs.Pairwise fun b a => cmp a b = .eq → r a b) (hx : ∀ y ∈ xs, r y x) :
    (insertLast (fun a b => cmp a b == .lt) x xs).Pairwise fun b a => cmp a b = .eq → r a b := by
  induction xs with
  | nil => exact List.pairwise_singleton _ x
  | cons y rest ih =>
    obtain ⟨hy, hrest⟩ := List.pairwise_cons.1 hxs
    rw [insertLast]
    split
    · next hlt =>
      refine List.pairwise_cons.2 ⟨fun z hz => ?_, ih hrest fun z hz => hx z (by simp [hz])⟩
      obtain rfl | hz := List.mem_cons.1 ((insertLast_perm _ x rest).mem_iff.1 hz)
      · -- The new item precedes this one, so the two are no tie.
        intro heq
        simp [heq] at hlt
      · exact hy z hz
    · exact List.pairwise_cons.2 ⟨fun z hz _ => hx z hz, hxs⟩

/-- What holds of any two items in the order in which they come holds of any two that compare as
equal in the order in which they are sorted. -/
theorem pairwise_ties_stableSort {xs : List α} (hxs : xs.Pairwise r) :
    (stableSort (fun a b => cmp a b == .lt) xs).Pairwise fun a b => cmp a b = .eq → r a b := by
  have hfold : ∀ sorted : List α, (sorted.Pairwise fun b a => cmp a b = .eq → r a b) →
      (∀ y ∈ sorted, ∀ x ∈ xs, r y x) →
      (xs.foldl (fun sorted x => insertLast (fun a b => cmp a b == .lt) x sorted) sorted).Pairwise
        fun b a => cmp a b = .eq → r a b := by
    induction xs with
    | nil => exact fun _ hsorted _ => hsorted
    | cons x rest ih =>
      intro sorted hsorted hlater
      obtain ⟨hx, hrest⟩ := List.pairwise_cons.1 hxs
      refine ih hrest _ (pairwise_ties_insertLast hsorted fun y hy => hlater y hy x (by simp)) ?_
      intro y hy z hz
      obtain rfl | hy := List.mem_cons.1 ((insertLast_perm _ x sorted).mem_iff.1 hy)
      · exact hx z hz
      · exact hlater y hy z (by simp [hz])
  exact List.pairwise_reverse.2 (hfold [] .nil (by simp))

theorem pairwise_zipIdx (xs : List α) : xs.zipIdx.Pairwise fun a b => a.2 < b.2 := by
  rw [← List.pairwise_map (f := Prod.snd) (R := (· < ·)), List.zipIdx_map_snd]
  exact List.pairwise_lt_range'

/-- Sorting keeps ties, for every comparison. -/
theorem keepsTies_stableSort (cmp : α → α → Ordering) (xs : List α) :
    KeepsTies cmp xs (stableSort (fun a b => cmp a b == .lt) xs) := by
  refine ⟨stableSort (fun a b => cmp a.1 b.1 == .lt) xs.zipIdx, stableSort_perm _ _, ?_, ?_⟩
  · rw [map_stableSort Prod.fst fun a b => cmp a b == .lt, List.zipIdx_map_fst]
  · exact pairwise_ties_stableSort (pairwise_zipIdx xs)

end Ties

/-! ## Rows -/

variable {keys : Document} {docs : List Document}

/-- How two rows stand to one another at one key of a sort document, in its direction. -/
def compareKey (a b : Document) (key : String × Value) : Ordering :=
  directed key.2
    (fun a b => compareAt (Document.atPath? a key.1) (Document.atPath? b key.1)) a b

/-- The first key at which two rows differ decides how they stand to one another. -/
theorem compareDocs_eq_find? (a b : Document) (keys : Document) :
    compareDocs a b keys = ((keys.map (compareKey a b)).find? (· != .eq)).getD .eq := by
  induction keys with
  | nil => rfl
  | cons key rest ih =>
    obtain ⟨path, direction⟩ := key
    simp only [compareDocs, List.map_cons, compareKey, directed]
    cases compareAt (Document.atPath? a path) (Document.atPath? b path) <;>
      cases isDescending direction <;> simp [ih]

/-- Rows with graded values are put in order. -/
theorem pairwise_run (hgraded : ∀ doc ∈ docs, IsGradedRow keys doc) :
    (run keys docs).Pairwise fun a b => compareDocs a b keys ≠ .gt := by
  have hsorted : (run keys docs).Pairwise fun a b => (compareGraded keys a b).isLE := by
    rw [run_of_graded hgraded]
    exact pairwise_stableSort docs
  refine hsorted.imp_of_mem fun {a b} ha hb hab => ?_
  have hgraded' : ∀ doc ∈ run keys docs, IsGradedRow keys doc :=
    fun doc hdoc => hgraded doc ((run_perm keys docs).mem_iff.1 hdoc)
  rw [compareDocs_of_graded (hgraded' a ha) (hgraded' b hb)]
  exact Ordering.isLE_iff_ne_gt.1 hab

/-- A sort stage whose keys read no decimal number and no symbol permutes its rows, puts them in
order and keeps ties. Rows are compared by the first key at which they differ, in the direction of
that key, and a missing value stands below every other. -/
theorem runStage_sort [Regex.Engine] (collections : Collections) (vars : Document)
    (hgraded : ∀ doc ∈ docs, IsGradedRow keys doc) :
    ∃ rows, Pipeline.runStage collections vars (.document [("$sort", .document keys)]) docs =
        .ok rows ∧
      rows.Perm docs ∧
      (rows.Pairwise fun a b => compareDocs a b keys ≠ .gt) ∧
      KeepsTies (fun a b => compareDocs a b keys) docs rows ∧
      (∀ a b, compareDocs a b keys = ((keys.map (compareKey a b)).find? (· != .eq)).getD .eq) ∧
      ∀ v, compareAt none (some v) = .lt ∧ compareAt (some v) none = .gt := by
  refine ⟨run keys docs, ?_, run_perm keys docs, pairwise_run hgraded,
    keepsTies_stableSort _ docs, fun a b => compareDocs_eq_find? a b keys, fun _ => ⟨rfl, rfl⟩⟩
  rw [← Pipeline.run_singleton, Pipeline.run_sort]

/-- Two people of one age, in numbers of different width, are a tie; a descending key puts one without
an age behind them. -/
theorem runStage_sort_people :
    let keys : Document := [("age", .int32 (-1)), ("name.last", .int32 1)]
    let bo : Document := [("name", .document [("last", .string "b")])]
    let al : Document := [("age", .int32 30), ("name", .document [("last", .string "a")])]
    let an : Document := [("age", .double ⟨0x403e000000000000⟩), ("name", .document [("last",
      .string "a")])]
    (∀ doc ∈ [bo, al, an], IsGradedRow keys doc) ∧
      Pipeline.runStage [] [] (.document [("$sort", .document keys)]) [bo, al, an] =
        .ok [al, an, bo] ∧
      ([al, an, bo].Pairwise fun a b => compareDocs a b keys ≠ .gt) ∧
      KeepsTies (fun a b => compareDocs a b keys) [bo, al, an] [al, an, bo] := by
  intro keys bo al an
  have hgraded : ∀ doc ∈ [bo, al, an], IsGradedRow keys doc := by decide +kernel
  have hal : compareDocs al bo keys = .lt := by decide +kernel
  have han : compareDocs an bo keys = .lt := by decide +kernel
  have htie : compareDocs an al keys = .eq := by decide +kernel
  have hrows : Pipeline.runStage [] [] (.document [("$sort", .document keys)]) [bo, al, an] =
      .ok [al, an, bo] := by
    rw [← Pipeline.run_singleton, Pipeline.run_sort]
    simp [run, stableSort, insertLast, hal, han, htie]
  obtain ⟨sorted, hrun, -, hordered, hties, -⟩ := runStage_sort [] [] hgraded
  obtain rfl : sorted = [al, an, bo] := Except.ok.inj (hrun.symm.trans hrows)
  exact ⟨hgraded, hrows, hordered, hties⟩

end DocQuery.Sort
