import DocQuery.Proofs.Pipeline.Rows
import DocQuery.Proofs.Value.Order
import Mathlib.Data.List.Pairwise

/-!
# The one order of distinct rows

Where the values that a sort reads are graded, rows are compared by a total order of rows, the first
key first. So a sort puts rows in order, and rows no two of which compare as equal have one order
only, in whatever order they come.

## Main definitions

* `Sort.IsGradedRow`: a sort document reads graded values of a row
* `Sort.compareGraded`: the order of rows, by the order of graded values

## Main results

* `Sort.compareDocs_of_graded`: rows with graded values are compared by that order
* `Sort.pairwise_stableSort`: sorted items are in order
* `Sort.stableSort_eq_of_perm`: distinct items have one order
* `Sort.run_eq_of_perm`: so do distinct rows with graded values
-/

namespace DocQuery.Sort

open Value (gradedCompare)

/-! ## The order of rows -/

/-- Every value that a sort document reads of a row is graded. -/
def IsGradedRow (keys doc : Document) : Prop :=
  ∀ key ∈ Document.keys keys, (Document.atPath? doc key).all Value.isGraded = true

instance (keys doc : Document) : Decidable (IsGradedRow keys doc) :=
  inferInstanceAs (Decidable (∀ key ∈ Document.keys keys, _))

/-- Compares two graded values, either of which may be missing. -/
def gradedAt (x? y? : Option Value) : Ordering :=
  letI : Ord Value := ⟨gradedCompare⟩
  Ord.compare x? y?

instance : Std.TransCmp gradedAt :=
  letI : Ord Value := ⟨gradedCompare⟩
  letI : Std.TransOrd Value := inferInstanceAs (Std.TransCmp gradedCompare)
  inferInstanceAs (Std.TransOrd (Option Value))

/-- A comparison in the direction of a sort key. -/
def directed {α : Type} (direction : Value) (cmp : α → α → Ordering) (a b : α) : Ordering :=
  if isDescending direction then (cmp a b).swap else cmp a b

instance {α : Type} (direction : Value) (cmp : α → α → Ordering) [Std.TransCmp cmp] :
    Std.TransCmp (directed direction cmp) := by
  cases hdescending : isDescending direction with
  | true =>
    have hopposite : directed direction cmp = fun a b => cmp b a := by
      funext a b
      rw [directed, hdescending, if_pos rfl]
      exact Std.OrientedCmp.eq_swap.symm
    rw [hopposite]
    exact Std.TransCmp.opposite
  | false =>
    have hsame : directed direction cmp = cmp := by
      funext a b
      rw [directed, hdescending, if_neg Bool.false_ne_true]
    rw [hsame]
    infer_instance

/-- The order of rows by the keys of a sort document. -/
def compareGraded : List (String × Value) → Document → Document → Ordering
  | [] => fun _ _ => .eq
  | (path, direction) :: rest =>
    compareLex
      (directed direction fun a b => gradedAt (Document.atPath? a path) (Document.atPath? b path))
      (compareGraded rest)

instance transCmp_gradedAt (path : String) :
    Std.TransCmp fun a b : Document =>
      gradedAt (Document.atPath? a path) (Document.atPath? b path) where
  eq_swap := Std.OrientedCmp.eq_swap
  isLE_trans := Std.TransCmp.isLE_trans

instance transCmp_compareGraded (keys : List (String × Value)) :
    Std.TransCmp (compareGraded keys) := by
  induction keys with
  | nil => exact { eq_swap := rfl, isLE_trans := fun _ _ => rfl }
  | cons key rest ih => exact inferInstanceAs (Std.TransCmp (compareLex _ (compareGraded rest)))

theorem compareAt_of_graded {x? y? : Option Value} (hx : x?.all Value.isGraded = true)
    (hy : y?.all Value.isGraded = true) : compareAt x? y? = gradedAt x? y? := by
  cases x? with
  | none => cases y? <;> rfl
  | some x =>
    cases y? with
    | none => rfl
    | some y => exact Value.compare_of_graded hx hy

/-- Rows with graded values are compared by the order of graded values. -/
theorem compareDocs_of_graded {keys : Document} {a b : Document} (ha : IsGradedRow keys a)
    (hb : IsGradedRow keys b) : compareDocs a b keys = compareGraded keys a b := by
  induction keys with
  | nil => rfl
  | cons key rest ih =>
    obtain ⟨path, direction⟩ := key
    have hfirst : compareAt (Document.atPath? a path) (Document.atPath? b path) =
        gradedAt (Document.atPath? a path) (Document.atPath? b path) :=
      compareAt_of_graded (ha path List.mem_cons_self) (hb path List.mem_cons_self)
    have hrest := ih (fun key hkey => ha key (List.mem_cons_of_mem _ hkey))
      fun key hkey => hb key (List.mem_cons_of_mem _ hkey)
    rw [compareDocs, compareGraded, compareLex, hfirst, hrest, directed]
    cases gradedAt (Document.atPath? a path) (Document.atPath? b path) <;>
      cases isDescending direction <;> rfl

/-! ## Sorted items -/

section Items

variable {α : Type}

theorem insertLast_congr {p p' : α → α → Bool} {x : α} {xs : List α}
    (h : ∀ y ∈ xs, p x y = p' x y) : insertLast p x xs = insertLast p' x xs := by
  induction xs with
  | nil => rfl
  | cons y rest ih =>
    rw [insertLast, insertLast, h y List.mem_cons_self,
      ih fun z hz => h z (List.mem_cons_of_mem _ hz)]

/-- A sort asks for the order of the items that it sorts, and of no others. -/
theorem stableSort_congr {p p' : α → α → Bool} {xs : List α}
    (h : ∀ x ∈ xs, ∀ y ∈ xs, p x y = p' x y) : stableSort p xs = stableSort p' xs := by
  have hfold : ∀ todo sorted : List α, (∀ x ∈ todo, x ∈ xs) → (∀ y ∈ sorted, y ∈ xs) →
      todo.foldl (fun sorted x => insertLast p x sorted) sorted =
        todo.foldl (fun sorted x => insertLast p' x sorted) sorted := by
    intro todo
    induction todo with
    | nil => exact fun _ _ _ => rfl
    | cons x rest ih =>
      intro sorted htodo hsorted
      obtain ⟨hx, hrest⟩ := List.forall_mem_cons.1 htodo
      rw [List.foldl_cons, List.foldl_cons, insertLast_congr fun y hy => h x hx y (hsorted y hy)]
      refine ih _ hrest fun y hy => ?_
      obtain rfl | hy := List.mem_cons.1 ((insertLast_perm p' x sorted).mem_iff.1 hy)
      · exact hx
      · exact hsorted y hy
  unfold stableSort
  rw [hfold xs [] (fun _ hx => hx) nofun]

variable {cmp : α → α → Ordering} [Std.TransCmp cmp]

theorem pairwise_insertLast {x : α} {xs : List α} (h : xs.Pairwise fun a b => (cmp b a).isLE) :
    (insertLast (fun a b => cmp a b == .lt) x xs).Pairwise fun a b => (cmp b a).isLE := by
  induction xs with
  | nil => exact List.pairwise_singleton _ x
  | cons y rest ih =>
    obtain ⟨hy, hrest⟩ := List.pairwise_cons.1 h
    rw [insertLast]
    split
    · next hlt =>
      refine List.pairwise_cons.2 ⟨fun z hz => ?_, ih hrest⟩
      obtain rfl | hz := List.mem_cons.1 ((insertLast_perm _ x rest).mem_iff.1 hz)
      · simp [eq_of_beq hlt]
      · exact hy z hz
    · next hlt =>
      have hyx : (cmp y x).isLE := by
        refine Std.OrientedCmp.isGE_iff_isLE.1 ?_
        cases hcompare : cmp x y <;> simp [hcompare] at hlt ⊢
      refine List.pairwise_cons.2 ⟨fun z hz => ?_, h⟩
      obtain rfl | hz := List.mem_cons.1 hz
      · exact hyx
      · exact Std.TransCmp.isLE_trans (hy z hz) hyx

/-- Sorted items are in order. -/
theorem pairwise_stableSort (xs : List α) :
    (stableSort (fun a b => cmp a b == .lt) xs).Pairwise fun a b => (cmp a b).isLE := by
  refine List.pairwise_reverse.2 ?_
  refine List.foldlRecOn xs _ List.Pairwise.nil fun sorted hsorted x _ => ?_
  exact pairwise_insertLast hsorted

/-- Items no two of which compare as equal are sorted into one list, in whatever order they come. -/
theorem stableSort_eq_of_perm {xs ys : List α} (hperm : xs.Perm ys)
    (hdistinct : xs.Pairwise fun a b => cmp a b ≠ .eq) :
    stableSort (fun a b => cmp a b == .lt) xs = stableSort (fun a b => cmp a b == .lt) ys := by
  have hsame : (stableSort (fun a b => cmp a b == .lt) xs).Perm
      (stableSort (fun a b => cmp a b == .lt) ys) :=
    (stableSort_perm _ xs).trans (hperm.trans (stableSort_perm _ ys).symm)
  have : Std.Symm fun a b => cmp a b ≠ .eq :=
    ⟨fun a b hab hba => hab (Std.OrientedCmp.eq_comm.1 hba)⟩
  refine List.Perm.eq_of_pairwise (fun a b ha hb hab hba => ?_) (pairwise_stableSort xs)
    (pairwise_stableSort ys) hsame
  have ha' : a ∈ xs := (stableSort_perm _ xs).mem_iff.1 ha
  have hb' : b ∈ xs := hperm.mem_iff.2 ((stableSort_perm _ ys).mem_iff.1 hb)
  by_contra hne
  exact hdistinct.forall ha' hb' hne (Std.OrientedCmp.isLE_antisymm hab hba)

end Items

/-- Rows with graded values are sorted by the order of graded values. -/
theorem run_of_graded {keys : Document} {docs : List Document}
    (hgraded : ∀ doc ∈ docs, IsGradedRow keys doc) :
    run keys docs = stableSort (fun a b => compareGraded keys a b == .lt) docs := by
  refine stableSort_congr fun a ha b hb => ?_
  rw [compareDocs_of_graded (hgraded a ha) (hgraded b hb)]

/-- Distinct rows with graded values are sorted into one list, in whatever order they come. -/
theorem run_eq_of_perm {keys : Document} {docs docs' : List Document} (hperm : docs.Perm docs')
    (hgraded : ∀ doc ∈ docs, IsGradedRow keys doc)
    (hdistinct : docs.Pairwise fun a b => compareDocs a b keys ≠ .eq) :
    run keys docs = run keys docs' := by
  have hgraded' : ∀ doc ∈ docs', IsGradedRow keys doc :=
    fun doc hdoc => hgraded doc (hperm.mem_iff.2 hdoc)
  have hdistinct' : docs.Pairwise fun a b => compareGraded keys a b ≠ .eq := by
    refine hdistinct.imp_of_mem fun {a b} ha hb hab => ?_
    rwa [← compareDocs_of_graded (hgraded a ha) (hgraded b hb)]
  rw [run_of_graded hgraded, run_of_graded hgraded', stableSort_eq_of_perm hperm hdistinct']

end DocQuery.Sort
