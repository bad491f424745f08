import DocQuery.Proofs.Path.Reach
import DocQuery.Proofs.Update.Decomposition
import DocQuery.Regex.Basic

/-!
# Pushes

A push reads the array at its path and writes it back longer. A write reaches documents at any
depth, and a read gives up on long paths: on a path that cannot be read, the array that is there
counts as missing, and the pushed items take its place.

## Main definitions

* `Mutation.pushStep`: the step of a push of several items

## Main results

* `Mutation.Step.decide_push`: what a push writes, by the array that it reads
* `Mutation.applyUpdate_arrayPush`: a push onto an array that is reached keeps it if its path can be
  read
-/

namespace DocQuery

namespace Document

variable {d : Document} {path : String} {found : Value}

theorem atPath?_of_reach? (hpath : Path.IsReadable path)
    (h : reach? d (Path.segments path) = some found) : atPath? d path = some found := by
  rw [atPath?_of_isReadable hpath]
  exact follow?_of_reach? h

theorem atPath?_of_not_isReadable (hpath : ¬ Path.IsReadable path) (d : Document) :
    atPath? d path = none := by
  simp only [atPath?]
  split
  · rfl
  · next hlength =>
    obtain ⟨hne, hsize⟩ := not_or.1 hlength
    refine if_pos (Nat.lt_of_not_le fun hdepth => ?_)
    exact hpath ⟨hne, Nat.le_of_not_lt hsize, hdepth⟩

end Document

namespace Mutation

open Document

variable {d : Document} {path : String} {stored items : List Value}

/-- The step of a push of several items. -/
def pushStep (path : String) (items : List Value) : Step :=
  ⟨.push, path, .document [("$each", .array items)]⟩

section

variable [Regex.Engine]

/-- A push writes the array that it reads, with its items at the end, unless it has none. -/
theorem Step.decide_push (path : String) (items : List Value) {found? : Option Value}
    (h : found? = some (.array stored) ∨ found? = none ∧ stored = []) :
    (pushStep path items).decide found? =
      .ok (if items.isEmpty then (none, false) else (some (.array (stored ++ items)), true)) := by
  obtain rfl | ⟨rfl, rfl⟩ := h <;> rfl

/-- A push onto an array that is reached through documents succeeds, and its items stand there at
the end. The array itself is kept if the path can be read, and if there are no items to push. -/
theorem applyUpdate_arrayPush (f : ArrayPush)
    (h : reach? d (Path.segments f.field) = some (.array stored)) :
    ∃ left, applyUpdate f.document d = ⟨left, .ok !f.values.isEmpty⟩ ∧
      reach? left (Path.segments f.field) =
        some (.array ((if Path.IsReadable f.field ∨ f.values.isEmpty then stored else []) ++
          f.values)) := by
  obtain ⟨path, items⟩ := f
  have hrun : applyUpdate (ArrayPush.document ⟨path, items⟩) d =
      runSteps [pushStep path items] d :=
    Update.applyUpdate_decompose_singleton (path, .push ⟨path, items⟩) d
  let old := if Path.IsReadable path then stored else []
  have hread : atPath? d path = some (.array old) ∨ atPath? d path = none ∧ old = [] := by
    by_cases hpath : Path.IsReadable path
    · exact .inl (by simp [old, hpath, atPath?_of_reach? hpath h])
    · exact .inr (by simp [old, hpath, atPath?_of_not_isReadable hpath])
  have hdecide := Step.decide_push path items hread
  rw [hrun]
  by_cases hitems : items = []
  · -- Nothing is written, and nothing was there to add.
    subst hitems
    have happly : (pushStep path []).apply d = .ok (d, false) :=
      Step.apply_eq_ok_iff.2 ⟨none, hdecide, rfl⟩
    exact ⟨d, runSteps_cons_eq_ok_iff.2 ⟨d, false, false, happly, rfl, rfl⟩, by simpa using h⟩
  · have hsome : items.isEmpty = false := by simpa using hitems
    rw [hsome, if_neg Bool.false_ne_true] at hdecide
    obtain ⟨left, hleft⟩ :
        ∃ left, setSegments d (Path.segments path) (.array (old ++ items)) = .ok left :=
      exists_setSegments_iff.2 (not_isBlocked_of_reach? h)
    have happly : (pushStep path items).apply d = .ok (left, true) :=
      Step.apply_eq_ok_iff.2 ⟨_, hdecide, hleft⟩
    refine ⟨left, runSteps_cons_eq_ok_iff.2 ⟨left, true, false, happly, rfl, by simp [hsome]⟩, ?_⟩
    rw [reach?_setSegments_self (Path.segments_ne_nil path) hleft]
    simp [old, hsome]

end

/-- A push below a key, onto an array that is read. -/
theorem applyUpdate_arrayPush_nested :
    let d : Document := [("log", .document [("tags", .array [.string "a"])])]
    reach? d (Path.segments "log.tags") = some (.array [.string "a"]) ∧
      ∃ left, applyUpdate (ArrayPush.mk "log.tags" [.null, .string "b"]).document d =
          ⟨left, .ok true⟩ ∧
        reach? left (Path.segments "log.tags") =
          some (.array [.string "a", .null, .string "b"]) := by
  intro d
  have h : reach? d (Path.segments "log.tags") = some (.array [.string "a"]) := rfl
  exact ⟨h, applyUpdate_arrayPush ⟨"log.tags", [.null, .string "b"]⟩ h⟩

/-- A path of thirty-four segments. -/
def deepPath : String := "a.a.a.a.a.a.a.a.a.a.a.a.a.a.a.a.a.a.a.a.a.a.a.a.a.a.a.a.a.a.a.a.a.a"

/-- A document with a value at the end of a number of equal keys. -/
def nested (key : String) (value : Value) : Nat → Document
  | 0 => [(key, value)]
  | depth + 1 => [(key, .document (nested key value depth))]

/-- Thirty-four segments lead to an array that a write reaches and a read does not: the pushed item
takes the place of the array. -/
theorem not_forall_push_keeps :
    ¬ ∀ (d : Document) (f : ArrayPush) (stored : List Value) (left : Document) (changed : Bool),
      reach? d (Path.segments f.field) = some (.array stored) →
        applyUpdate f.document d = ⟨left, .ok changed⟩ →
          reach? left (Path.segments f.field) = some (.array (stored ++ f.values)) := by
  intro h
  have hreach : reach? (nested "a" (.array [.null]) 33) (Path.segments deepPath) =
      some (.array [.null]) := by rfl
  have hpush : applyUpdate (ArrayPush.mk deepPath [.minKey]).document
      (nested "a" (.array [.null]) 33) = ⟨nested "a" (.array [.minKey]) 33, .ok true⟩ := by rfl
  have hkept : some (Value.array [.minKey]) = some (.array [.null, .minKey]) :=
    h _ ⟨deepPath, [.minKey]⟩ [.null] _ true hreach hpush
  cases hkept

end Mutation

end DocQuery
