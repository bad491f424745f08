import DocQuery.Proofs.Mutation.Pushes
import DocQuery.Proofs.Pipeline.Rows
import DocQuery.Regex.Basic

/-!
# Rows of unwound arrays

A write reaches documents alone, and a read enters arrays too. As long as the arrays to unwind are
reached through documents, unwinding succeeds, and reading its rows gives back what was unwound.

## Main definitions

* `Unwind.Spec.Avoids`: a path that does not start with the index field
* `Unwind.IsItemRow`: the row that one item makes
* `Unwind.IsUnwound`: the rows that one document makes
* `Unwind.ReachesItems`: a document whose array at the path is reached through documents

## Main results

* `Unwind.exists_itemRows_eq_ok`: an array that is reached makes one row for each item
* `Unwind.exists_rows_eq_ok`: the rows of documents stand one after another
* `Unwind.runStage_isUnwound`: what an unwind stage makes of its rows
-/

namespace DocQuery.Unwind

open Document

variable {s : Spec} {d left : Document} {items : List Value} {item index : Value} {path q : String}

/-! ## The index field -/

/-- A path does not start with the field for the position. -/
def Spec.Avoids (s : Spec) (q : String) : Prop :=
  ∀ field, s.indexField? = some field → (Path.segments q).head? ≠ some field

/-- Paths that do not start with the index field do not see the position. -/
theorem Spec.Avoids.atPath?_withIndex (h : s.Avoids q) (d : Document) (index : Value) :
    atPath? (s.withIndex d index) q = atPath? d q := by
  unfold withIndex
  split
  · next field hfield => exact atPath?_insert (h field hfield) index
  · rfl

theorem Spec.get?_withIndex {field : String} (hfield : s.indexField? = some field) (d : Document)
    (index : Value) : get? (s.withIndex d index) field = some index := by
  unfold withIndex
  rw [hfield]
  exact get?_insert_self d field index

/-! ## One item -/

/-- The row that one item of an array makes: the item is read at the path of the array, its position
stands in the index field, and reads elsewhere see no change. -/
structure IsItemRow (s : Spec) (d : Document) (item index : Value) (row : Document) : Prop where
  item : atPath? row s.path = some item
  index : ∀ field, s.indexField? = some field → get? row field = some index
  frame : ∀ q, Path.Diverge (Path.segments s.path) (Path.segments q) → s.Avoids q →
    atPath? row q = atPath? d q

theorem isItemRow_withIndex (hpath : Path.IsReadable s.path) (hindex : s.Avoids s.path)
    (hset : setPath d s.path item = .ok left) :
    IsItemRow s d item index (s.withIndex left index) where
  item := by rw [hindex.atPath?_withIndex, atPath?_setPath_self hpath hset]
  index _ hfield := Spec.get?_withIndex hfield left index
  frame q hq havoids := by rw [havoids.atPath?_withIndex, atPath?_setPath hq hset]

/-- The rows that the items of an array make, the first of which has the given position. -/
def AreItemRows (s : Spec) (d : Document) (position : Nat) (items : List Value)
    (rows : List Document) : Prop :=
  List.Forall₂ (fun entry row => IsItemRow s d entry.1 (.int64 (Int64.ofInt entry.2)) row)
    (items.zipIdx position) rows

/-- An array that is reached through documents makes one row for each item, in order. -/
theorem exists_itemRows_eq_ok (hpath : Path.IsReadable s.path) (hindex : s.Avoids s.path)
    (hfree : ¬ IsBlocked d (Path.segments s.path)) (position : Nat) (items : List Value) :
    ∃ rows, itemRows s d position items = .ok rows ∧ AreItemRows s d position items rows := by
  induction items generalizing position with
  | nil => exact ⟨[], rfl, .nil⟩
  | cons item rest ih =>
    obtain ⟨rows, hrows, hareRows⟩ := ih (position + 1)
    obtain ⟨left, hleft⟩ : ∃ left, setPath d s.path item = .ok left :=
      exists_setSegments_iff.2 hfree
    refine ⟨s.withIndex left (.int64 (Int64.ofInt position)) :: rows, ?_, ?_⟩
    · rw [itemRows, hleft, hrows]
      rfl
    · exact .cons (isItemRow_withIndex hpath hindex hleft) hareRows

/-- An array is read back from the rows of its items. -/
theorem AreItemRows.map_atPath? {rows : List Document} {position : Nat}
    (h : AreItemRows s d position items rows) : rows.map (atPath? · s.path) = items.map some := by
  induction items generalizing position rows with
  | nil =>
    cases h
    rfl
  | cons item rest ih =>
    obtain ⟨row, rows, hrow, hrest, rfl⟩ := List.forall₂_cons_left_iff.1 h
    rw [List.map_cons, List.map_cons, hrow.item, ih hrest]

/-! ## One document -/

/-- The rows that a document makes, by what is read at the path: an array with items makes one row
for each, from which it is read back; a document without items makes no row, or stays on request; a
document with some other value stays. -/
inductive IsUnwound (s : Spec) (d : Document) : List Document → Prop
  | items {items : List Value} {rows : List Document} (hne : items ≠ [])
      (hread : atPath? d s.path = some (.array items)) (hrows : AreItemRows s d 0 items rows)
      (hback : rows.map (atPath? · s.path) = items.map some) : IsUnwound s d rows
  | empty (hread : atPath? d s.path = none ∨ atPath? d s.path = some .null ∨
      atPath? d s.path = some (.array [])) :
      IsUnwound s d (if s.keepsEmpty then [s.withIndex d .null] else [])
  | other {v : Value} (hread : atPath? d s.path = some v) (hnull : v ≠ .null)
      (harray : ∀ items, v ≠ .array items) : IsUnwound s d [s.withIndex d .null]

/-- Every array with items at the path of a document is reached through documents. -/
def ReachesItems (s : Spec) (d : Document) : Prop :=
  ∀ items, items ≠ [] → atPath? d s.path = some (.array items) →
    reach? d (Path.segments s.path) = some (.array items)

/-- A document makes the rows that it should, if an array with items is reached. -/
theorem exists_rowsOf_eq_ok (hpath : Path.IsReadable s.path) (hindex : s.Avoids s.path)
    (hreach : ReachesItems s d) : ∃ rows, rowsOf s d = .ok rows ∧ IsUnwound s d rows := by
  unfold rowsOf
  split
  · next hread => exact ⟨_, rfl, .empty (.inr (.inr hread))⟩
  · next hread => exact ⟨_, rfl, .empty (.inr (.inl hread))⟩
  · next hread => exact ⟨_, rfl, .empty (.inl hread)⟩
  · next items hempty hread =>
    obtain ⟨rows, hrows, hareRows⟩ := exists_itemRows_eq_ok hpath hindex
      (not_isBlocked_of_reach? (hreach items hempty hread)) 0 items
    exact ⟨rows, hrows, .items hempty hread hareRows hareRows.map_atPath?⟩
  · next v _ hnull harray hread => exact ⟨_, rfl, .other hread hnull harray⟩

/-! ## All documents -/

/-- The rows of documents stand one after another. -/
theorem exists_rows_eq_ok (hpath : Path.IsReadable s.path) (hindex : s.Avoids s.path)
    {docs : List Document} (hreach : ∀ d ∈ docs, ReachesItems s d) :
    ∃ groups, rows s docs = .ok groups.flatten ∧ List.Forall₂ (IsUnwound s) docs groups := by
  induction docs with
  | nil => exact ⟨[], rfl, .nil⟩
  | cons d rest ih =>
    obtain ⟨hd, hrest⟩ := List.forall_mem_cons.1 hreach
    obtain ⟨group, hgroup, hunwound⟩ := exists_rowsOf_eq_ok hpath hindex hd
    obtain ⟨groups, hgroups, hforall⟩ := ih hrest
    refine ⟨group :: groups, ?_, .cons hunwound hforall⟩
    rw [rows, hgroup, hgroups]
    rfl

/-- An unwind stage at a path that can be read succeeds if every array with items there is reached
through documents and the field for the position is not the first segment of the path. Its rows are
those of the documents, one after another: nothing is lost and nothing stands twice. -/
theorem runStage_isUnwound [Regex.Engine] (collections : Collections) (vars : Document)
    {body : Value} {docs : List Document} (hbody : Spec.ofValue? body = .ok s)
    (hpath : Path.IsReadable s.path) (hindex : s.Avoids s.path)
    (hreach : ∀ d ∈ docs, ReachesItems s d) :
    ∃ groups,
      Pipeline.runStage collections vars (.document [("$unwind", body)]) docs =
        .ok groups.flatten ∧ List.Forall₂ (IsUnwound s) docs groups := by
  obtain ⟨groups, hgroups, hforall⟩ := exists_rows_eq_ok hpath hindex hreach
  refine ⟨groups, ?_, hforall⟩
  rw [Pipeline.runStage_of_ne _ _ _ (by decide)]
  exact Except.bind_eq_ok_iff.2 ⟨s, hbody, hgroups⟩

/-- An array below a key with the positions of its items, and documents that are kept: one without
the array, one with an empty one, and one with another value. -/
theorem runStage_isUnwound_samples :
    let body : Value := .document [("path", .string "$a.tags"),
      ("preserveNullAndEmptyArrays", .boolean true), ("includeArrayIndex", .string "i")]
    let s : Spec := ⟨"a.tags", true, some "i"⟩
    let docs : List Document :=
      [[("a", .document [("tags", .array [.null, .array []]), ("b", .int32 1)])], [("i", .int32 7)],
        [("a", .document [("tags", .array [])])], [("a", .document [("tags", .string "t")])]]
    Spec.ofValue? body = .ok s ∧ Path.IsReadable s.path ∧ s.Avoids s.path ∧
      (∀ d ∈ docs, ReachesItems s d) ∧
      Pipeline.runStage [] [] (.document [("$unwind", body)]) docs =
        .ok [[("a", .document [("tags", .null), ("b", .int32 1)]), ("i", .int64 0)],
          [("a", .document [("tags", .array []), ("b", .int32 1)]), ("i", .int64 1)],
          [("i", .null)], [("a", .document [("tags", .array [])]), ("i", .null)],
          [("a", .document [("tags", .string "t")]), ("i", .null)]] ∧
      ∃ groups, Pipeline.runStage [] [] (.document [("$unwind", body)]) docs = .ok groups.flatten ∧
        List.Forall₂ (IsUnwound s) docs groups := by
  intro body s docs
  have hbody : Spec.ofValue? body = .ok s := rfl
  have hpath : Path.IsReadable s.path := by decide
  have hindex : s.Avoids s.path := by
    intro field hfield
    cases hfield
    decide
  -- No array stands on the way, so that reading and reaching are the same here.
  have hreach : ∀ d ∈ docs, ReachesItems s d := by
    have hsegments : Path.segments s.path = ["a", "tags"] := by decide
    have hfollow : ∀ d ∈ docs, reach? d ["a", "tags"] = follow? d ["a", "tags"] := by
      simp only [docs, List.forall_mem_cons]
      exact ⟨rfl, rfl, rfl, rfl, nofun⟩
    intro d hd items _ hread
    rw [hsegments, hfollow d hd, ← hsegments]
    exact follow?_of_atPath? hread
  exact ⟨hbody, hpath, hindex, hreach, rfl, runStage_isUnwound [] [] hbody hpath hindex hreach⟩

end DocQuery.Unwind
