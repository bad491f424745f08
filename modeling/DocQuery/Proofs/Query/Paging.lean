import DocQuery.Proofs.Double.Integers
import DocQuery.Proofs.Query.Counting
import Mathlib.Data.List.Forall2
import Mathlib.Tactic.Choose

/-!
# Pages of rows

The rows of a query are projected one by one, behind the stages that skip and limit them. So a page
is a window of the same list of rows for every page, consecutive windows put together are one
window, and the pages together succeed exactly if the one query for all of them does.

## Main definitions

* `QueryState.countRead`: the number of rows that a stage reads off its operand
* `QueryState.limited`: the rows that a limit leaves
* `Query.page`: a query with an offset and a limit
* `Query.foundRows`: the rows that a query finds
* `Query.window`: the rows from a position on, as many as there is room for
* `QueryState.sourceStages`: the stages ahead of the window

## Main results

* `Query.flatten_windows`: consecutive windows are one
* `Query.foundRows_page_eq_ok_iff`: a page is the projection of a window
* `Query.foundRows_pages`: the pages of a query next to the query for all of them
-/

namespace DocQuery

/-! ## Changes of rows, page by page -/

namespace Pipeline

variable {f : Document → Except StoreError Document} {docs : List Document}

theorem exists_mapDocs_iff :
    (∃ rows, mapDocs f docs = .ok rows) ↔ ∀ doc ∈ docs, ∃ row, f doc = .ok row := by
  induction docs with
  | nil => exact ⟨fun _ _ hdoc => absurd hdoc List.not_mem_nil, fun _ => ⟨[], rfl⟩⟩
  | cons doc rest ih =>
    rw [List.forall_mem_cons, ← ih]
    simp only [mapDocs_eq_ok_iff, List.forall₂_cons_left_iff]
    constructor
    · rintro ⟨_, row, more, hrow, hmore, rfl⟩
      exact ⟨⟨row, hrow⟩, more, hmore⟩
    · rintro ⟨⟨row, hrow⟩, more, hmore⟩
      exact ⟨row :: more, row, more, hrow, hmore, rfl⟩

/-- A change succeeds on pages put together exactly if it does on each. -/
theorem exists_mapDocs_flatten_iff {pages : List (List Document)} :
    (∃ rows, mapDocs f pages.flatten = .ok rows) ↔
      ∀ page ∈ pages, ∃ part, mapDocs f page = .ok part := by
  simp only [exists_mapDocs_iff, List.mem_flatten]
  exact ⟨fun h page hpage doc hdoc => h doc ⟨page, hpage, hdoc⟩,
    fun h doc ⟨page, hpage, hdoc⟩ => h page hpage doc hdoc⟩

theorem mapDocs_flatten {pages parts : List (List Document)}
    (h : List.Forall₂ (fun page part => mapDocs f page = .ok part) pages parts) :
    mapDocs f pages.flatten = .ok parts.flatten := by
  have hrows := h.imp fun _ _ => mapDocs_eq_ok_iff.1
  exact mapDocs_eq_ok_iff.2 (List.rel_flatten hrows)

end Pipeline

/-! ## Skipping and limiting -/

namespace QueryState

/-- The number of rows that a stage reads off its operand. -/
def countRead (n : Nat) : Nat := (Double.ofInt (min n (2 ^ 63 - 1) : Nat)).toCount

/-- The rows that a limit leaves; zero stands for no limit. -/
def limited (limit : Nat) (rows : List Document) : List Document :=
  if limit = 0 then rows else rows.take (countRead limit)

/-- A number of rows below `2 ^ 53` reaches its stage without rounding. -/
theorem countRead_of_lt {n : Nat} (hn : n < 2 ^ 53) : countRead n = n := by
  have hmin : min n (2 ^ 63 - 1) = n := by omega
  rw [countRead, hmin, Double.toCount_ofInt hn]

theorem one_le_countRead {n : Nat} (hn : n ≠ 0) : 1 ≤ countRead n :=
  Double.one_le_toCount_ofInt (by omega)

/-- No limit cuts the first row off. -/
theorem take_one_limited (limit : Nat) (rows : List Document) :
    (limited limit rows).take 1 = rows.take 1 := by
  unfold limited
  split
  · rfl
  · next hne => rw [List.take_take, Nat.min_eq_left (one_le_countRead hne)]

theorem limited_one (rows : List Document) : limited 1 rows = rows.take 1 := by
  rw [limited, if_neg (by decide), countRead_of_lt (by decide)]

end QueryState

open QueryState (countRead limited)

namespace Pipeline

/-- Every number of rows is read, though a large one not exactly. -/
theorem bodyCount_countOperand (name : String) (n : Nat) :
    bodyCount name (QueryState.countOperand n) = .ok (countRead n) := by
  have hmin : min (n : Int) (2 ^ 63 - 1) = (min n (2 ^ 63 - 1) : Nat) := by omega
  have hword : (Int64.ofInt (min n (2 ^ 63 - 1) : Nat)).toInt = (min n (2 ^ 63 - 1) : Nat) :=
    Int64.toInt_ofInt_of_le (by omega) (by omega)
  rw [bodyCount, QueryState.countOperand, hmin, Value.toDouble?, hword]
  simp only [Double.isAtLeastZero_ofInt, if_true, countRead]

variable [Regex.Engine] (collections : Collections) (docs : List Document)

theorem run_skip (n : Nat) :
    run collections docs (QueryState.stageUnlessZero "$skip" n) [] =
      .ok (docs.drop (countRead n)) := by
  unfold QueryState.stageUnlessZero
  split
  · next hzero =>
    rw [run_nil, hzero, QueryState.countRead_of_lt (by decide), List.drop_zero]
  · rw [run_singleton, runStage_of_ne _ _ _ (by decide), runPlain, bodyCount_countOperand]
    rfl

theorem run_limit (n : Nat) :
    run collections docs (QueryState.stageUnlessZero "$limit" n) [] = .ok (limited n docs) := by
  unfold QueryState.stageUnlessZero limited
  split
  · exact run_nil collections [] docs
  · rw [run_singleton, runStage_of_ne _ _ _ (by decide), runPlain, bodyCount_countOperand]
    rfl

end Pipeline

namespace QueryState

/-- The stages that make the rows of which a page is taken. -/
def sourceStages (s : QueryState) : List Document :=
  s.rawStages .before ++ s.lookup?.toList ++ s.unwind?.toList ++
    stageUnlessEmpty "$addFields" s.addFields ++ s.matchStages ++ s.sortStages

theorem rowStages_eq (s : QueryState) :
    s.rowStages =
      s.sourceStages ++ (stageUnlessZero "$skip" s.skip ++ stageUnlessZero "$limit" s.limit) := by
  rw [rowStages, sourceStages, List.append_assoc]

end QueryState

namespace Query

/-! ## Windows -/

section Windows

variable {α : Type} (rows : List α)

/-- The rows from a position on, at most as many as the size says, which stands for no limit if it
is zero. -/
def window (offset size : Nat) : List α :=
  if size = 0 then rows.drop offset else (rows.drop offset).take size

theorem window_of_ne_zero {size : Nat} (h : size ≠ 0) (offset : Nat) :
    window rows offset size = (rows.drop offset).take size :=
  if_neg h

/-- A window with room for what is left holds all of it. -/
theorem window_of_le {offset size : Nat} (h : rows.length - offset ≤ size) :
    window rows offset size = window rows offset 0 := by
  have hlength : (rows.drop offset).length ≤ size := by rwa [List.length_drop]
  have hall : window rows offset 0 = rows.drop offset := if_pos rfl
  rw [hall, window, List.take_of_length_le hlength, ite_self]

/-- Consecutive windows are one. -/
theorem flatten_windows (start : Nat) {size pages : Nat} (hsize : 1 ≤ size) (hpages : 1 ≤ pages) :
    ((List.range pages).map fun i => window rows (start + i * size) size).flatten =
      window rows start (pages * size) := by
  have hne : size ≠ 0 := by omega
  have htotal : pages * size ≠ 0 := Nat.mul_ne_zero (by omega) hne
  rw [window_of_ne_zero rows htotal]
  clear hpages htotal
  induction pages with
  | zero => simp
  | succ pages ih =>
    have hlast : window rows (start + pages * size) size =
        ((rows.drop start).drop (pages * size)).take size := by
      rw [window_of_ne_zero rows hne, List.drop_drop]
    rw [List.range_succ, List.map_append, List.flatten_append, ih, List.map_singleton,
      List.flatten_singleton, hlast]
    calc (rows.drop start).take (pages * size) ++ ((rows.drop start).drop (pages * size)).take size
        = (rows.drop start).take (pages * size + size) := List.take_add.symm
      _ = (rows.drop start).take ((pages + 1) * size) := by rw [Nat.succ_mul]

end Windows

/-! ## Pages -/

variable {κ : Type}

/-- The query with an offset and a limit. -/
def page (q : Query κ) (offset size : Nat) : Query κ :=
  q.mapState fun s => { s with skip := offset, limit := size }

section

variable [Regex.Engine]

/-- A page is what the two configuration calls ask for. -/
theorem applyAll_page (q : Query κ) (offset size : Nat) :
    q.applyAll [.offset offset, .limit size] = .ok (q.page offset size) := rfl

/-- The rows that a query finds. -/
def foundRows (q : Query κ) (s : Store) : Except QueryError (List Document) :=
  (q.findAll s).2.result.map (·.rows)

section Pages

variable {q : Query κ} {s : Store} (hraw : q.state.hasRawStages = false)
  (hcount : q.state.count? = none) (hgroup : q.state.group? = none)

theorem rowsOf_page {offset size : Nat} (hoffset : offset < 2 ^ 53) (hsize : size < 2 ^ 53) :
    (q.page offset size).rowsOf s (q.page offset size).state.rowStages =
      (q.rowsOf s q.state.sourceStages).map (window · offset size) := by
  have hstages : (q.page offset size).state.rowStages = q.state.sourceStages ++
      (QueryState.stageUnlessZero "$skip" offset ++ QueryState.stageUnlessZero "$limit" size) :=
    QueryState.rowStages_eq _
  have hwindow : ∀ rows, Pipeline.run s.collections rows
      (QueryState.stageUnlessZero "$skip" offset ++ QueryState.stageUnlessZero "$limit" size) [] =
        .ok (window rows offset size) := by
    intro rows
    rw [Pipeline.run_append, Pipeline.run_skip, QueryState.countRead_of_lt hoffset]
    refine (Pipeline.run_limit _ _ _).trans (congrArg Except.ok ?_)
    rw [limited, window, QueryState.countRead_of_lt hsize]
  have hsource : (q.page offset size).rowsOf s = q.rowsOf s := rfl
  rw [hstages, hsource, rowsOf_append]
  simp only [hwindow]
  cases q.rowsOf s q.state.sourceStages <;> rfl

include hraw hcount hgroup

theorem foundRows_eq :
    q.foundRows s = q.rowsOf s q.state.rowStages >>= fun rows =>
      (Pipeline.mapDocs (fun row => Project.doc row q.state.fields []) rows).mapError
        QueryError.backend := by
  rw [foundRows, result_findAll q s hcount]
  cases q.rowsOf s q.state.rowStages with
  | error e => rfl
  | ok rows =>
    simp only [bind, Except.bind, QueryState.run_shapeStages hraw hgroup]
    cases Pipeline.mapDocs (fun row => Project.doc row q.state.fields []) rows <;> rfl

/-- A page is the projection of a window of the rows that the stages ahead of it make. -/
theorem foundRows_page {offset size : Nat} (hoffset : offset < 2 ^ 53) (hsize : size < 2 ^ 53) :
    (q.page offset size).foundRows s = q.rowsOf s q.state.sourceStages >>= fun rows =>
      (Pipeline.mapDocs (fun row => Project.doc row q.state.fields [])
        (window rows offset size)).mapError QueryError.backend := by
  rw [foundRows_eq (q := q.page offset size) hraw hcount hgroup, rowsOf_page hoffset hsize]
  cases q.rowsOf s q.state.sourceStages <;> rfl

theorem foundRows_page_eq_ok_iff {offset size : Nat} (hoffset : offset < 2 ^ 53)
    (hsize : size < 2 ^ 53) {found : List Document} :
    (q.page offset size).foundRows s = .ok found ↔
      ∃ rows, q.rowsOf s q.state.sourceStages = .ok rows ∧
        Pipeline.mapDocs (fun row => Project.doc row q.state.fields [])
          (window rows offset size) = .ok found := by
  rw [foundRows_page hraw hcount hgroup hoffset hsize, Except.bind_eq_ok_iff]
  simp only [Except.mapError_eq_ok_iff]

variable {start size pages : Nat} (hsize : 1 ≤ size) (hpages : 1 ≤ pages)
  (hbound : start + pages * size < 2 ^ 53)

/-- Without a limit a query finds what it finds with room for all rows that are left. -/
theorem foundRows_page_zero (hbound : start + size < 2 ^ 53)
    (hroom : ∀ rows, q.rowsOf s q.state.sourceStages = .ok rows → rows.length - start ≤ size) :
    (q.page start 0).foundRows s = (q.page start size).foundRows s := by
  rw [foundRows_page hraw hcount hgroup (by omega) (by omega),
    foundRows_page hraw hcount hgroup (by omega) (by omega)]
  cases hsource : q.rowsOf s q.state.sourceStages with
  | error e => rfl
  | ok rows =>
    have hwindow := window_of_le rows (hroom rows hsource)
    simp only [bind, Except.bind, hwindow]

include hbound

theorem foundRows_ith_page_eq_ok_iff {i : Nat} (hi : i < pages) {part : List Document} :
    (q.page (start + i * size) size).foundRows s = .ok part ↔
      ∃ rows, q.rowsOf s q.state.sourceStages = .ok rows ∧
        Pipeline.mapDocs (fun row => Project.doc row q.state.fields [])
          (window rows (start + i * size) size) = .ok part := by
  -- Every page stays below the bound of the last one.
  have hnext : (i + 1) * size ≤ pages * size := Nat.mul_le_mul_right size hi
  rw [Nat.succ_mul] at hnext
  exact foundRows_page_eq_ok_iff hraw hcount hgroup (by omega) (by omega)

include hsize hpages

theorem foundRows_flatMap_pages {part : Nat → List Document}
    (h : ∀ i < pages, (q.page (start + i * size) size).foundRows s = .ok (part i)) :
    (q.page start (pages * size)).foundRows s = .ok ((List.range pages).flatMap part) := by
  obtain ⟨rows, hsource, -⟩ :=
    (foundRows_ith_page_eq_ok_iff hraw hcount hgroup hbound hpages).1 (h 0 hpages)
  -- Every page is a window of the same rows, since the stages ahead of it are the same.
  have hparts : List.Forall₂
      (fun rows' part => Pipeline.mapDocs (fun row => Project.doc row q.state.fields []) rows' =
        .ok part)
      ((List.range pages).map fun i => window rows (start + i * size) size)
      ((List.range pages).map part) := by
    rw [List.forall₂_map_left_iff, List.forall₂_map_right_iff, List.forall₂_same]
    intro i hi
    have hlt := List.mem_range.1 hi
    obtain ⟨_, hsame, hproject⟩ :=
      (foundRows_ith_page_eq_ok_iff hraw hcount hgroup hbound hlt).1 (h i hlt)
    obtain rfl := Except.ok.inj (hsource.symm.trans hsame)
    exact hproject
  have hwhole := Pipeline.mapDocs_flatten hparts
  rw [flatten_windows rows start hsize hpages] at hwhole
  exact (foundRows_page_eq_ok_iff hraw hcount hgroup (by omega) (by omega)).2
    ⟨rows, hsource, hwhole⟩

theorem exists_foundRows_pages_iff :
    (∀ i < pages, ∃ part, (q.page (start + i * size) size).foundRows s = .ok part) ↔
      ∃ whole, (q.page start (pages * size)).foundRows s = .ok whole := by
  constructor
  · intro h
    choose! part hpart using h
    exact ⟨_, foundRows_flatMap_pages hraw hcount hgroup hsize hpages hbound hpart⟩
  · rintro ⟨whole, hwhole⟩ i hi
    obtain ⟨rows, hsource, hproject⟩ :=
      (foundRows_page_eq_ok_iff hraw hcount hgroup (by omega) (by omega)).1 hwhole
    rw [← flatten_windows rows start hsize hpages] at hproject
    have hmem := List.mem_map_of_mem (f := fun i => window rows (start + i * size) size)
      (List.mem_range.2 hi)
    obtain ⟨part, hpart⟩ := Pipeline.exists_mapDocs_flatten_iff.1 ⟨whole, hproject⟩ _ hmem
    exact ⟨part, (foundRows_ith_page_eq_ok_iff hraw hcount hgroup hbound hi).2
      ⟨rows, hsource, hpart⟩⟩

end Pages

/-- The pages of a query all succeed exactly if the one query for all of them does, and then their
rows in order are its rows. With room for all rows that are left, these are the rows that the query
finds without a limit. -/
theorem foundRows_pages (q : Query κ) (s : Store) (hraw : q.state.hasRawStages = false)
    (hcount : q.state.count? = none) (hgroup : q.state.group? = none) {start size pages : Nat}
    (hsize : 1 ≤ size) (hpages : 1 ≤ pages) (hbound : start + pages * size < 2 ^ 53) :
    ((∀ i < pages, ∃ part, (q.page (start + i * size) size).foundRows s = .ok part) ↔
        ∃ whole, (q.page start (pages * size)).foundRows s = .ok whole) ∧
      (∀ part : Nat → List Document,
        (∀ i < pages, (q.page (start + i * size) size).foundRows s = .ok (part i)) →
          (q.page start (pages * size)).foundRows s = .ok ((List.range pages).flatMap part)) ∧
      ((∀ rows, q.rowsOf s q.state.sourceStages = .ok rows →
          rows.length - start ≤ pages * size) →
        (q.page start 0).foundRows s = (q.page start (pages * size)).foundRows s) :=
  ⟨exists_foundRows_pages_iff hraw hcount hgroup hsize hpages hbound,
    fun _ => foundRows_flatMap_pages hraw hcount hgroup hsize hpages hbound,
    foundRows_page_zero hraw hcount hgroup hbound⟩

end

/-- Two pages of three rows. -/
theorem foundRows_pages_users :
    let q := (⟨none, some ⟨(), "users"⟩, .empty, true, true⟩ : Query Unit).select [.name "name"]
    let s : Store :=
      ⟨[("users", [[("_id", .int32 3), ("name", .string "cy")],
        [("_id", .int32 1), ("name", .string "al")], [("_id", .int32 2), ("name", .string "bo")]])],
        0⟩
    let names (rows : List Document) := rows.map (Document.string? · "name")
    ∃ first second, (q.page 0 2).foundRows s = .ok first ∧
      names first = [some "al", some "bo"] ∧ (q.page 2 2).foundRows s = .ok second ∧
        names second = [some "cy"] ∧ (q.page 0 4).foundRows s = .ok (first ++ second) := by
  intro q s names
  have hfirst : ((q.page 0 2).foundRows s).toOption.map names = some [some "al", some "bo"] := by
    decide +kernel
  have hsecond : ((q.page 2 2).foundRows s).toOption.map names = some [some "cy"] := by
    decide +kernel
  obtain ⟨first, hone, hnames⟩ := Except.toOption_map_eq_some_iff.1 hfirst
  obtain ⟨second, htwo, hlast⟩ := Except.toOption_map_eq_some_iff.1 hsecond
  have hbound : 0 + 2 * 2 < 2 ^ 53 := by decide
  have hwhole := (foundRows_pages q s rfl rfl rfl (Nat.le_succ 1) (Nat.le_succ 1) hbound).2.1
    (fun i => if i = 0 then first else second)
  refine ⟨first, second, hone, hnames, htwo, hlast, ?_⟩
  have hpages : ∀ i < 2, (q.page (0 + i * 2) 2).foundRows s =
      .ok (if i = 0 then first else second) := by
    intro i hi
    match i with
    | 0 => exact hone
    | 1 => exact htwo
  rw [hwhole hpages]
  simp [List.range_succ]

end Query

end DocQuery
