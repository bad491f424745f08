import DocQuery.Pipeline
import DocQuery.Proofs.Condition.Verdict
import DocQuery.Proofs.Path.Lens
import Mathlib.Data.List.Forall2

/-!
# Rows of stages that do not fail

A stage whose work on every row succeeds is the list operation that it stands for: a match is a
filter, a map of rows is a map, and an unwind is a flat map. A sort never fails and loses no row.

## Main results

* `Sort.run_perm`: sorted rows are the rows in some order
* `Pipeline.filterDocs_eq_ok`, `Pipeline.mapDocs_eq_ok`: rows that are kept, and rows that are
  changed
* `Pipeline.mapDocs_eq_ok_iff`: a change of rows is made row by row
* `Pipeline.filterDocs_eq_ok_iff`: a match succeeds exactly if it has a verdict on every row
* `Unwind.rowsOf_array`, `Unwind.rows_map_eq_ok`: an array at a key makes one row for each item
* `Pipeline.run_cons`, `Pipeline.run_append`: the first stages of a pipeline run before the others
-/

namespace DocQuery.Sort

theorem insertLast_perm {α : Type} (precedes : α → α → Bool) (x : α) (xs : List α) :
    (insertLast precedes x xs).Perm (x :: xs) := by
  induction xs with
  | nil => exact .refl _
  | cons y rest ih =>
    rw [insertLast]
    split
    · exact (ih.cons y).trans (.swap x y rest)
    · exact .refl _

theorem stableSort_perm {α : Type} (precedes : α → α → Bool) (xs : List α) :
    (stableSort precedes xs).Perm xs := by
  have hfold : ∀ sorted : List α,
      (xs.foldl (fun sorted x => insertLast precedes x sorted) sorted).Perm (xs ++ sorted) := by
    induction xs with
    | nil => exact fun sorted => .refl _
    | cons x rest ih =>
      intro sorted
      have hinsert := insertLast_perm precedes x sorted
      exact (ih _).trans ((hinsert.append_left rest).trans List.perm_middle)
  have hall := hfold []
  rw [List.append_nil] at hall
  exact (List.reverse_perm _).trans hall

/-- Sorting loses no row and adds none. -/
theorem run_perm (keys : Document) (docs : List Document) : (run keys docs).Perm docs :=
  stableSort_perm _ docs

end DocQuery.Sort

namespace DocQuery

theorem exists_mem_of_forall₂ {α β : Type} {R : α → β → Prop} {xs : List α} {ys : List β}
    (h : List.Forall₂ R xs ys) {y : β} (hy : y ∈ ys) : ∃ x ∈ xs, R x y := by
  induction h with
  | nil => cases hy
  | cons hfirst _ ih =>
    obtain rfl | hy := List.mem_cons.1 hy
    · exact ⟨_, List.mem_cons_self, hfirst⟩
    · obtain ⟨x, hx, hxy⟩ := ih hy
      exact ⟨x, List.mem_cons_of_mem _ hx, hxy⟩

namespace Pipeline

/-- A query with a verdict on every row keeps the rows for which the verdict is true. -/
theorem filterDocs_eq_ok [Regex.Engine] {query vars : Document} {keep : Document → Bool}
    {docs : List Document}
    (h : ∀ doc ∈ docs, Condition.docMatches doc query vars = .ok (keep doc)) :
    filterDocs query vars docs = .ok (docs.filter keep) := by
  induction docs with
  | nil => rfl
  | cons doc rest ih =>
    have hrest := ih fun other hother => h other (List.mem_cons_of_mem _ hother)
    rw [filterDocs, h doc List.mem_cons_self, hrest, List.filter_cons]
    cases keep doc <;> rfl

/-- A query succeeds on a list of rows exactly if it has a verdict on every row. -/
theorem filterDocs_eq_ok_iff [Regex.Engine] {query vars : Document} {docs rows : List Document} :
    filterDocs query vars docs = .ok rows ↔
      (∀ doc ∈ docs,
        Condition.docMatches doc query vars = .ok (Condition.isMatch query vars doc)) ∧
        rows = docs.filter (Condition.isMatch query vars) := by
  refine ⟨fun h => ?_, fun ⟨hverdict, hrows⟩ => hrows ▸ filterDocs_eq_ok hverdict⟩
  -- The verdicts that the run comes across are collected, and the rows follow from them.
  have hverdict : ∀ doc ∈ docs,
      Condition.docMatches doc query vars = .ok (Condition.isMatch query vars doc) := by
    induction docs generalizing rows with
    | nil => exact fun _ hdoc => (List.not_mem_nil hdoc).elim
    | cons doc rest ih =>
      rw [filterDocs] at h
      obtain ⟨keep, hkeep, hrest⟩ := Except.bind_eq_ok_iff.1 h
      obtain ⟨kept, hkept, -⟩ := Except.bind_eq_ok_iff.1 hrest
      intro other hother
      rcases List.mem_cons.1 hother with rfl | hother
      · rw [Condition.isMatch_of_ok hkeep, hkeep]
      · exact ih hkept other hother
  refine ⟨hverdict, ?_⟩
  rw [filterDocs_eq_ok hverdict] at h
  cases h
  rfl

/-- A change of rows succeeds with the rows that it makes of each. -/
theorem mapDocs_eq_ok_iff {f : Document → Except StoreError Document}
    {docs rows : List Document} :
    mapDocs f docs = .ok rows ↔ List.Forall₂ (fun doc row => f doc = .ok row) docs rows := by
  induction docs generalizing rows with
  | nil =>
    rw [mapDocs, List.forall₂_nil_left_iff, Except.ok.injEq]
    exact eq_comm
  | cons doc rest ih =>
    rw [mapDocs, List.forall₂_cons_left_iff]
    constructor
    · intro h
      obtain ⟨row, hrow, hrest⟩ := Except.bind_eq_ok_iff.1 h
      obtain ⟨more, hmore, heq⟩ := Except.bind_eq_ok_iff.1 hrest
      cases heq
      exact ⟨row, more, hrow, ih.1 hmore, rfl⟩
    · rintro ⟨row, more, hrow, hmore, rfl⟩
      rw [hrow, ih.2 hmore]
      rfl

/-- A change that succeeds on every row changes all of them. -/
theorem mapDocs_eq_ok {f : Document → Except StoreError Document} {g : Document → Document}
    {docs : List Document} (h : ∀ doc ∈ docs, f doc = .ok (g doc)) :
    mapDocs f docs = .ok (docs.map g) := by
  rw [mapDocs_eq_ok_iff, List.forall₂_map_right_iff, List.forall₂_same]
  exact h

theorem mapDocs_singleton (f : Document → Except StoreError Document) (doc : Document) :
    mapDocs f [doc] = (f doc).map fun row => [row] := by
  rw [mapDocs, mapDocs]
  cases f doc <;> rfl

/-- A change of rows keeps their number. -/
theorem length_of_mapDocs {f : Document → Except StoreError Document} {docs rows : List Document}
    (h : mapDocs f docs = .ok rows) : rows.length = docs.length :=
  (mapDocs_eq_ok_iff.1 h).length_eq.symm

variable [Regex.Engine] (collections : Collections) (vars : Document) (docs : List Document)

theorem run_nil : run collections docs [] vars = .ok docs := by
  rw [run, List.map_nil, runStages]

/-- The first stage runs first, and the others on its rows. -/
theorem run_cons (stage : Document) (rest : List Document) :
    run collections docs (stage :: rest) vars =
      (runStage collections vars (.document stage) docs >>= fun rows =>
        run collections rows rest vars) := by
  rw [run, List.map_cons, runStages]
  rfl

/-- The first stages run first, and the others on their rows. -/
theorem run_append (first second : List Document) :
    run collections docs (first ++ second) vars =
      (run collections docs first vars >>= fun rows => run collections rows second vars) := by
  induction first generalizing docs with
  | nil => rw [run_nil]; rfl
  | cons stage rest ih =>
    rw [List.cons_append, run_cons, run_cons, bind_assoc]
    exact congrArg _ (funext fun rows => ih rows)

/-- A lookup stage is run with what its settings say about a pipeline. -/
theorem runStage_lookup (fields : Document) :
    runStage collections vars (.document [("$lookup", .document fields)]) docs =
      lookup collections (pipelineSetting? collections fields) fields docs := by
  rw [runStage, if_pos rfl]

theorem runStage_of_ne {name : String} (hname : name ≠ "$lookup") (body : Value) :
    runStage collections vars (.document [(name, body)]) docs = runPlain name body vars docs := by
  unfold runStage
  rw [if_neg hname]

/-! ### Single stages -/

theorem run_singleton (stage : Document) :
    run collections docs [stage] vars = runStage collections vars (.document stage) docs := by
  rw [run_cons]
  simp only [run_nil]
  exact bind_pure _

theorem run_match (query : Document) :
    run collections docs [[("$match", .document query)]] vars = filterDocs query vars docs := by
  rw [run_singleton, runStage_of_ne _ _ _ (by decide), runPlain]
  rfl

theorem run_sort (keys : Document) :
    run collections docs [[("$sort", .document keys)]] vars = .ok (Sort.run keys docs) := by
  rw [run_singleton, runStage_of_ne _ _ _ (by decide), runPlain]
  rfl

theorem run_count (field : String) :
    run collections docs [[("$count", .string field)]] vars =
      .ok (if docs.isEmpty then [] else [[(field, countValue docs.length)]]) := by
  rw [run_singleton, runStage_of_ne _ _ _ (by decide), runPlain]
  rfl

theorem run_project (projection : Document) :
    run collections docs [[("$project", .document projection)]] vars =
      mapDocs (fun doc => Project.doc doc projection vars) docs := by
  rw [run_singleton, runStage_of_ne _ _ _ (by decide), runPlain]
  rfl

end Pipeline

namespace Unwind

/-- If every row that a change makes can be unwound, the results are joined in order. -/
theorem rows_map_eq_ok {s : Spec} {change : Document → Document} {g : Document → List Document}
    {docs : List Document} (h : ∀ doc ∈ docs, rowsOf s (change doc) = .ok (g doc)) :
    rows s (docs.map change) = .ok (docs.flatMap g) := by
  induction docs with
  | nil => rfl
  | cons doc rest ih =>
    have hrest := ih fun other hother => h other (List.mem_cons_of_mem _ hother)
    rw [List.map_cons, rows, h doc List.mem_cons_self, hrest, List.flatMap_cons]
    rfl

variable {s : Spec} (hindex : s.indexField? = none) (hdot : '.' ∉ s.path.toList)
include hindex hdot

/-- Unwinding at a key writes each item under that key. -/
theorem itemRows_of_not_mem (doc : Document) (position : Nat) (items : List Value) :
    itemRows s doc position items = .ok (items.map (Document.insert doc s.path)) := by
  induction items generalizing position with
  | nil => rfl
  | cons item rest ih =>
    have hrow : ∀ row index, s.withIndex row index = row := by
      intro row index
      unfold Spec.withIndex
      rw [hindex]
    rw [itemRows, Document.setPath_of_not_mem doc hdot, ih]
    simp only [hrow]
    rfl

/-- An array at a key makes one row for each of its items, and no row if it has none. -/
theorem rowsOf_array (hkeeps : s.keepsEmpty = false) (hne : s.path ≠ "")
    (hsize : s.path.utf8ByteSize ≤ Path.maxBytes) {doc : Document} {items : List Value}
    (hget : Document.get? doc s.path = some (.array items)) :
    rowsOf s doc = .ok (items.map (Document.insert doc s.path)) := by
  have hpath : Document.atPath? doc s.path = some (.array items) := by
    rw [Document.atPath?_of_not_mem doc hne hsize hdot, hget]
  unfold rowsOf
  rw [hpath]
  cases items with
  | nil => simp only [hkeeps]; rfl
  | cons item rest => exact itemRows_of_not_mem hindex hdot doc 0 (item :: rest)

end Unwind

end DocQuery
