import DocQuery.Proofs.Path.Reach
import DocQuery.Proofs.Value.Sameness

/-!
# Writing, reading and removing at one path

What a write leaves at its path is what a read and a removal find there; reads at paths that diverge
from it see neither the write nor the removal. Documents repeat no key, so nothing is left at a path
behind what was removed.

## Main definitions

* `Document.IsWritten`: what a write leaves, as reads, writes and removals see it

## Main results

* `Document.map_fst_removeSegments?`: a removal takes what is reached
* `Document.follow?_removeSegments?`: a removal leaves reads at diverging paths alone
* `Document.setPath_lens`: a write is blocked and changes nothing, or obeys the laws of its path
-/

namespace DocQuery

namespace Document

variable {d d' bare inner : Document} {p q rest : List String} {key : String} {value found : Value}

theorem get?_erase_self (h : HasUniqueKeys d) : get? (erase d key) key = none := by
  induction d with
  | nil => rfl
  | cons field rest ih =>
    obtain ⟨k, v⟩ := field
    obtain ⟨hk, hrest⟩ := List.nodup_cons.1 h
    rw [erase]
    split
    · next heq => exact get?_eq_none_of_not_mem (heq ▸ hk)
    · next hne => rw [get?, if_neg hne, ih hrest]

/-! ## Removals -/

/-- Behind a key, a removal goes on in the document there. -/
theorem removeSegments?_cons_eq_some_iff (hrest : rest ≠ []) :
    removeSegments? d (key :: rest) = some (found, bare) ↔
      ∃ inner left, get? d key = some (.document inner) ∧
        removeSegments? inner rest = some (found, left) ∧ bare = insert d key (.document left) := by
  rw [removeSegments?.eq_3 _ _ _ hrest]
  cases get? d key with
  | none => simp
  | some v =>
    cases v with
    | document inner =>
      constructor
      · intro h
        obtain ⟨⟨_, left⟩, hleft, heq⟩ := Option.map_eq_some_iff.1 h
        cases heq
        exact ⟨inner, left, rfl, hleft, rfl⟩
      · rintro ⟨_, left, hinner, hleft, rfl⟩
        cases hinner
        simp [hleft]
    | _ => simp

/-- A removal takes what is reached. -/
theorem map_fst_removeSegments? (d : Document) (p : List String) :
    (removeSegments? d p).map Prod.fst = reach? d p := by
  induction p generalizing d with
  | nil => rfl
  | cons key rest ih =>
    by_cases hrest : rest = []
    · subst hrest
      cases hget : get? d key <;> simp [removeSegments?, reach?, hget]
    · rw [removeSegments?.eq_3 _ _ _ hrest, reach?.eq_3 _ _ _ hrest]
      cases get? d key with
      | none => rfl
      | some v =>
        cases v with
        | document inner =>
          simp only [← ih inner]
          cases removeSegments? inner rest <;> rfl
        | _ => rfl

/-- A removal leaves reads at diverging paths alone. -/
theorem follow?_removeSegments? (h : Path.Diverge p q)
    (hremove : removeSegments? d p = some (found, bare)) : follow? bare q = follow? d q := by
  induction p generalizing q d bare with
  | nil => exact absurd rfl h.ne_nil
  | cons key p ih =>
    cases q with
    | nil => exact absurd rfl h.symm.ne_nil
    | cons other q =>
      by_cases hkey : key = other
      · -- Both go on in the document at the key, where they diverge.
        subst hkey
        have hrest : Path.Diverge p q := (Path.diverge_cons_cons.1 h).resolve_left (absurd rfl)
        obtain ⟨inner, left, hget, hleft, rfl⟩ :=
          (removeSegments?_cons_eq_some_iff hrest.ne_nil).1 hremove
        rw [follow?, follow?, get?_insert_self, hget]
        change (Value.document left).follow? q = (Value.document inner).follow? q
        rw [Value.follow?_document left hrest.symm.ne_nil,
          Value.follow?_document inner hrest.symm.ne_nil, ih hrest hleft]
      · have hother : get? bare other = get? d other := by
          by_cases hp : p = []
          · subst hp
            obtain ⟨v, -, hbare⟩ := Option.map_eq_some_iff.1 hremove
            cases hbare
            exact get?_erase_of_ne (Ne.symm hkey)
          · obtain ⟨inner, left, -, -, rfl⟩ := (removeSegments?_cons_eq_some_iff hp).1 hremove
            exact get?_insert_of_ne d _ (Ne.symm hkey)
        rw [follow?, follow?, hother]

/-- What was written can be removed. -/
theorem exists_removeSegments?_of_setSegments (hp : p ≠ [])
    (h : setSegments d p value = .ok d') : ∃ bare, removeSegments? d' p = some (value, bare) := by
  have hfst := map_fst_removeSegments? d' p
  rw [reach?_setSegments_self hp h] at hfst
  obtain ⟨⟨found, bare⟩, hremove, rfl⟩ := Option.map_eq_some_iff.1 hfst
  exact ⟨bare, hremove⟩

/-- Nothing is read where something was written and removed again. -/
theorem follow?_removeSegments?_self (hd : (Value.document d).HasUniqueKeys)
    (hset : setSegments d p value = .ok d') (hremove : removeSegments? d' p = some (found, bare)) :
    follow? bare p = none := by
  induction p generalizing d d' bare with
  | nil => rfl
  | cons key p ih =>
    obtain ⟨w, hw, rfl⟩ := setSegments_cons_eq_ok_iff.1 hset
    by_cases hp : p = []
    · subst hp
      obtain ⟨v, -, hbare⟩ := Option.map_eq_some_iff.1 hremove
      cases hbare
      rw [follow?, get?_erase_self (hd.keys.insert key w)]
    · obtain ⟨inner, left, hinner, hleft, rfl⟩ := (written_eq_ok_iff hp).1 hw
      obtain ⟨inner', left', hget, hleft', rfl⟩ := (removeSegments?_cons_eq_some_iff hp).1 hremove
      rw [get?_insert_self] at hget
      cases hget
      -- The document that the write entered is one of those in the whole, or new.
      have hinner' : (Value.document inner).HasUniqueKeys := by
        cases hget : get? d key with
        | none =>
          rw [hget] at hinner
          cases hinner
          rfl
        | some v =>
          rw [hget] at hinner
          cases v with
          | document fields =>
            cases hinner
            exact hd.of_get? hget
          | _ => cases hinner
      rw [follow?, get?_insert_self]
      exact (Value.follow?_document left' hp).trans (ih hinner' hleft hleft')

/-! ## The laws of one path -/

/-- What a write of a value at a path leaves of a document: the value is read there, reads at
diverging paths see no change, keys keep their places, and writing the value once more changes
nothing. A removal takes the value, leaves nothing to read, and is not seen at diverging paths
either. -/
structure IsWritten (d : Document) (path : String) (value : Value) (left : Document) : Prop where
  read : atPath? left path = some value
  frame : ∀ other, Path.Diverge (Path.segments path) (Path.segments other) →
    atPath? left other = atPath? d other
  keys : keys d <+: keys left
  again : setPath left path value = .ok left
  removed : ∃ bare, removePath? left path = some (value, bare) ∧ atPath? bare path = none ∧
    ∀ other, Path.Diverge (Path.segments path) (Path.segments other) →
      atPath? bare other = atPath? d other

theorem isWritten_of_setPath {path : String} (hpath : Path.IsReadable path)
    (hd : (Value.document d).HasUniqueKeys) (h : setPath d path value = .ok d') :
    IsWritten d path value d' := by
  have hne := Path.segments_ne_nil path
  obtain ⟨bare, hbare⟩ := exists_removeSegments?_of_setSegments hne h
  refine ⟨atPath?_setPath_self hpath h, fun other hother => atPath?_setPath hother h,
    keys_prefix_setSegments h, setSegments_again hne h, bare, hbare, ?_, fun other hother => ?_⟩
  · rw [atPath?_of_isReadable hpath]
    exact follow?_removeSegments?_self hd h hbare
  · rw [atPath?_congr (follow?_removeSegments? hother hbare), atPath?_setPath hother h]

/-- A write at a path that can be read fails exactly if a part of the way leads to a value that is
not a document, and then leaves the document as it was, in place too. If it succeeds, what it leaves
obeys the laws of its path. -/
theorem setPath_lens {path : String} (hpath : Path.IsReadable path)
    (hd : (Value.document d).HasUniqueKeys) (value : Value) :
    (IsBlocked d (Path.segments path) ∧ ∃ e, setPath d path value = .error e ∧
        assign d (Path.segments path) value = (d, .error e)) ∨
      (¬ IsBlocked d (Path.segments path) ∧ ∃ left, setPath d path value = .ok left ∧
        assign d (Path.segments path) value = (left, .ok ()) ∧ IsWritten d path value left) := by
  have hassign := assign_eq d (Path.segments path) value
  cases hset : setPath d path value with
  | error e =>
    have hset' : setSegments d (Path.segments path) value = .error e := hset
    rw [hset'] at hassign
    have hblocked : IsBlocked d (Path.segments path) := by
      refine Classical.not_not.1 fun hfree => ?_
      obtain ⟨left, hleft⟩ : ∃ left, setSegments d (Path.segments path) value = .ok left :=
        exists_setSegments_iff.2 hfree
      rw [hset'] at hleft
      cases hleft
    exact .inl ⟨hblocked, e, rfl, hassign⟩
  | ok left =>
    have hset' : setSegments d (Path.segments path) value = .ok left := hset
    rw [hset'] at hassign
    exact .inr ⟨exists_setSegments_iff.1 ⟨left, hset'⟩, left, rfl, hassign,
      isWritten_of_setPath hpath hd hset⟩

/-- A write into a document below a key, and one that a null blocks. -/
theorem setPath_lens_nested :
    let d : Document := [("a", .document [("c", .int32 1)]), ("z", .null)]
    let left : Document := [("a", .document [("c", .int32 1), ("b", .string "v")]), ("z", .null)]
    Path.IsReadable "a.b" ∧ Path.IsReadable "z.b" ∧ (Value.document d).HasUniqueKeys ∧
      setPath d "a.b" (.string "v") = .ok left ∧ IsWritten d "a.b" (.string "v") left ∧
      setPath d "z.b" (.string "v") = .error (.typeMismatch (.notDocument "z")) ∧
      IsBlocked d (Path.segments "z.b") ∧
      (assign d (Path.segments "z.b") (.string "v")).1 = d := by
  intro d left
  have hab : Path.IsReadable "a.b" := by decide
  have hzb : Path.IsReadable "z.b" := by decide
  have hd : (Value.document d).HasUniqueKeys := by decide
  obtain ⟨-, e, he, -⟩ | ⟨-, left', hleft, -, hwritten⟩ := setPath_lens hab hd (.string "v")
  · cases he
  · obtain rfl : left = left' := Except.ok.inj hleft
    obtain ⟨hblocked, e, he, hassign⟩ | ⟨-, left', hleft', -⟩ := setPath_lens hzb hd (.string "v")
    · exact ⟨hab, hzb, hd, rfl, hwritten, rfl, hblocked, by rw [hassign]⟩
    · cases hleft'

end Document

end DocQuery
