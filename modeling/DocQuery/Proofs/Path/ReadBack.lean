import DocQuery.Proofs.Path.Lens

/-!
# Reading what was written

The laws of one path: a write is read back, below its path too, and writing what is there already
changes nothing. They are the counterpart of the frame of a write, which is about diverging paths.

## Main definitions

* `Path.IsReadable`: a path on which a read does not give up

## Main results

* `Document.follow?_append`: a path leads on from where its first part leads
* `Document.follow?_setSegments_self`: a write is read back
* `Document.eq_of_setSegments`: writing what is there changes nothing
* `Document.keys_setSegments`: a write adds no key but its first segment
-/

namespace DocQuery

theorem Value.follow?_append (v : Value) (p q : List String) :
    v.follow? (p ++ q) = (v.follow? p).bind (·.follow? q) := by
  induction p generalizing v with
  | nil => rfl
  | cons segment p ih =>
    rw [List.cons_append, follow?, follow?]
    cases v.step? segment with
    | none => rfl
    | some inner => exact ih inner

namespace Document

/-- A path leads on from where its first part leads. -/
theorem follow?_append (d : Document) {p : List String} (hp : p ≠ []) (q : List String) :
    follow? d (p ++ q) = (follow? d p).bind (·.follow? q) := by
  cases p with
  | nil => exact absurd rfl hp
  | cons key p =>
    rw [List.cons_append, follow?, follow?]
    cases get? d key with
    | none => rfl
    | some v => exact v.follow?_append p q

theorem insert_of_get? {d : Document} {key : String} {v : Value} (h : get? d key = some v) :
    insert d key v = d := by
  induction d with
  | nil => cases h
  | cons field rest ih =>
    obtain ⟨k, w⟩ := field
    rw [get?] at h
    rw [insert]
    split at h
    · next hk =>
      cases h
      rw [if_pos hk]
    · next hk => rw [if_neg hk, ih h]

variable {d d' : Document} {p : List String} {value : Value}

/-- A write is read back. -/
theorem follow?_setSegments_self (hp : p ≠ []) (h : setSegments d p value = .ok d') :
    follow? d' p = some value := by
  induction p generalizing d d' with
  | nil => exact absurd rfl hp
  | cons key p ih =>
    obtain ⟨w, hw, rfl⟩ := setSegments_cons_eq_ok_iff.1 h
    rw [follow?, get?_insert_self]
    by_cases hrest : p = []
    · subst hrest
      cases hw
      rfl
    · obtain ⟨inner, left, -, hleft, rfl⟩ := (written_eq_ok_iff hrest).1 hw
      exact (Value.follow?_document left hrest).trans (ih hrest hleft)

/-- Writing what is there changes nothing. -/
theorem eq_of_setSegments (hread : follow? d p = some value)
    (h : setSegments d p value = .ok d') : d' = d := by
  induction p generalizing d d' with
  | nil => cases hread
  | cons key p ih =>
    obtain ⟨w, hw, rfl⟩ := setSegments_cons_eq_ok_iff.1 h
    by_cases hrest : p = []
    · subst hrest
      cases hw
      refine insert_of_get? ?_
      rw [follow?] at hread
      cases hget : get? d key with
      | none => rw [hget] at hread; cases hread
      | some v => rw [hget] at hread; exact hread
    · obtain ⟨inner, left, hinner, hleft, rfl⟩ := (written_eq_ok_iff hrest).1 hw
      rw [follow?_cons_of_below hinner hrest] at hread
      obtain rfl : left = inner := ih hread hleft
      -- Something is read below the key, so a document stands there.
      cases hget : get? d key with
      | none =>
        rw [hget] at hinner
        cases hinner
        cases p with
        | nil => exact absurd rfl hrest
        | cons next p => cases hread
      | some v =>
        rw [hget] at hinner
        cases v with
        | document fields =>
          cases hinner
          exact insert_of_get? hget
        | _ => cases hinner

/-- A write adds no key but its first segment. -/
theorem keys_setSegments (h : setSegments d p value = .ok d') {key : String}
    (hkey : key ∈ keys d') : key ∈ keys d ∨ p.head? = some key := by
  cases p with
  | nil =>
    cases h
    exact .inl hkey
  | cons first p =>
    obtain ⟨w, -, rfl⟩ := setSegments_cons_eq_ok_iff.1 h
    rw [keys_insert] at hkey
    split at hkey
    · exact .inl hkey
    · obtain hkey | hkey := List.mem_append.1 hkey
      · exact .inl hkey
      · exact .inr (congrArg some (List.mem_singleton.1 hkey).symm)

theorem keys_prefix_setSegments (h : setSegments d p value = .ok d') : keys d <+: keys d' := by
  cases p with
  | nil =>
    cases h
    exact List.prefix_rfl
  | cons first p =>
    obtain ⟨w, -, rfl⟩ := setSegments_cons_eq_ok_iff.1 h
    exact keys_prefix_insert d first w

/-! ## Paths as texts -/

theorem atPath?_congr {e : Document} {path : String}
    (h : follow? d (Path.segments path) = follow? e (Path.segments path)) :
    atPath? d path = atPath? e path := by
  simp only [atPath?, h]

/-- What a path leads to is read off the field that its first segment names. -/
theorem atPath?_of_head? {e : Document} {path : String}
    (h : ∀ first, (Path.segments path).head? = some first → get? d first = get? e first) :
    atPath? d path = atPath? e path := by
  refine atPath?_congr ?_
  cases hsegments : Path.segments path with
  | nil => rfl
  | cons first rest =>
    rw [hsegments] at h
    rw [follow?, follow?, h first rfl]

theorem follow?_of_atPath? {path : String} (h : atPath? d path = some value) :
    follow? d (Path.segments path) = some value := by
  simp only [atPath?] at h
  split at h
  · cases h
  · split at h
    · cases h
    · exact h

/-- Nothing is read at a path if the path leads nowhere, or if it is one that is never read. -/
theorem follow?_of_atPath?_eq_none {path : String} (h : atPath? d path = none) :
    follow? d (Path.segments path) = none ∨ ∀ e, atPath? e path = none := by
  simp only [atPath?] at h ⊢
  split at h
  · next hlength => exact .inr fun e => if_pos hlength
  · next hlength =>
    split at h
    · next hdepth =>
      refine .inr fun e => ?_
      rw [if_neg hlength, if_pos hdepth]
    · exact .inl h

theorem get?_of_atPath? {path : String} (hdot : '.' ∉ path.toList)
    (h : atPath? d path = some value) : get? d path = some value := by
  have hfollow := follow?_of_atPath? h
  rw [Path.segments_of_not_mem hdot, follow?] at hfollow
  cases hget : get? d path with
  | none => rw [hget] at hfollow; cases hfollow
  | some found => rw [hget] at hfollow; exact hfollow

/-- Paths that start at another key do not miss a removed field. -/
theorem atPath?_erase {key path : String} (h : (Path.segments path).head? ≠ some key) :
    atPath? (erase d key) path = atPath? d path := by
  refine atPath?_of_head? fun first hfirst => ?_
  have hne : first ≠ key := by
    rintro rfl
    exact h hfirst
  exact get?_erase_of_ne hne

/-- Paths that start at another key do not see a field that is written. -/
theorem atPath?_insert {key path : String} (h : (Path.segments path).head? ≠ some key)
    (v : Value) : atPath? (insert d key v) path = atPath? d path := by
  refine atPath?_of_head? fun first hfirst => ?_
  have hne : first ≠ key := by
    rintro rfl
    exact h hfirst
  exact get?_insert_of_ne d v hne

/-- A field whose key has a dot is not what its key leads to as a path. -/
theorem atPath?_insert_of_mem {key : String} (hdot : '.' ∈ key.toList) (v : Value) :
    atPath? (insert d key v) key = atPath? d key := by
  refine atPath?_insert (fun hhead => ?_) v
  exact Path.not_mem_of_mem_segments (List.mem_of_head? hhead) hdot

end Document

/-! ## Paths that can be read -/

/-- A path on which a read does not give up: it is neither empty nor too long. -/
def Path.IsReadable (path : String) : Prop :=
  path ≠ "" ∧ path.utf8ByteSize ≤ maxBytes ∧ (segments path).length ≤ maxDepth + 1

instance (path : String) : Decidable (Path.IsReadable path) :=
  inferInstanceAs (Decidable (_ ∧ _ ∧ _))

theorem Document.atPath?_of_isReadable {path : String} (h : Path.IsReadable path) (d : Document) :
    atPath? d path = follow? d (Path.segments path) := by
  obtain ⟨hne, hsize, hdepth⟩ := h
  have hlength : ¬ (path = "" ∨ Path.maxBytes < path.utf8ByteSize) := by
    rintro (hempty | hlong)
    · exact hne hempty
    · omega
  rw [atPath?, if_neg hlength]
  exact if_neg (by omega)

/-- What is written at a path that can be read is read back. -/
theorem Document.atPath?_setPath_self {path : String} (h : Path.IsReadable path)
    {d d' : Document} {value : Value} (hset : setPath d path value = .ok d') :
    atPath? d' path = some value := by
  rw [atPath?_of_isReadable h]
  exact follow?_setSegments_self (Path.segments_ne_nil path) hset

end DocQuery
