import DocQuery.Path
import DocQuery.Proofs.Document.Reordering
import DocQuery.Proofs.Result

/-!
# Reading and writing at paths

A write at a path descends through documents alone, segment by segment; a read also enters arrays.
A write at one path leaves every read at a diverging path alone, and writes at diverging paths
commute up to the order of fields.

## Main definitions

* `Path.Diverge`: two lists of segments of which neither continues the other
* `Document.below`: the document that a write enters at a key
* `Document.written`: the value that a write puts at the key of its first segment

## Main results

* `Document.follow?_setSegments`: a write leaves reads at diverging paths alone
* `Document.setSegments_comm`: writes at diverging paths commute
* `Document.Reorders.setSegments`: writes keep reorderings

## Design notes

The frame of a write is stated on lists of segments, where the induction goes, and carried over to
texts by `Path.segments`.
-/

namespace DocQuery

namespace Path

/-- Neither list of segments continues the other. -/
def Diverge (p q : List String) : Prop := ¬ p <+: q ∧ ¬ q <+: p

instance (p q : List String) : Decidable (Diverge p q) := inferInstanceAs (Decidable (_ ∧ _))

theorem Diverge.symm {p q : List String} (h : Diverge p q) : Diverge q p := ⟨h.2, h.1⟩

/-- Every path continues the empty list of segments. -/
theorem Diverge.ne_nil {p q : List String} (h : Diverge p q) : p ≠ [] := by
  rintro rfl
  exact h.1 List.nil_prefix

/-- Paths diverge at their first segments or behind them. -/
theorem diverge_cons_cons {a b : String} {p q : List String} :
    Diverge (a :: p) (b :: q) ↔ a ≠ b ∨ Diverge p q := by
  unfold Diverge
  rw [List.cons_prefix_cons, List.cons_prefix_cons]
  by_cases h : a = b
  · simp [h]
  · simp [h, Ne.symm h]

theorem segments_ne_nil (path : String) : segments path ≠ [] := by
  intro h
  exact splitDots_ne_nil _ (List.map_eq_nil_iff.1 h)

theorem segments_of_not_mem {path : String} (h : '.' ∉ path.toList) : segments path = [path] := by
  rw [segments, splitDots_of_not_mem h, List.map_singleton, String.ofList_toList]

/-- No dot is left between the dots. -/
theorem not_mem_of_mem_splitDots {chars piece : List Char} (h : piece ∈ splitDots chars) :
    '.' ∉ piece := by
  induction chars generalizing piece with
  | nil =>
    obtain rfl := List.mem_singleton.1 h
    exact List.not_mem_nil
  | cons c rest ih =>
    rw [splitDots] at h
    split at h
    · obtain rfl | h := List.mem_cons.1 h
      · exact List.not_mem_nil
      · exact ih h
    · next hc =>
      cases hpieces : splitDots rest with
      | nil => exact absurd hpieces (splitDots_ne_nil rest)
      | cons first more =>
        rw [hpieces] at h ih
        obtain rfl | h := List.mem_cons.1 h
        · simp only [List.mem_cons, not_or]
          exact ⟨Ne.symm hc, ih List.mem_cons_self⟩
        · exact ih (List.mem_cons_of_mem _ h)

theorem not_mem_of_mem_segments {path segment : String} (h : segment ∈ segments path) :
    '.' ∉ segment.toList := by
  obtain ⟨piece, hpiece, rfl⟩ := List.mem_map.1 h
  rw [String.toList_ofList]
  exact not_mem_of_mem_splitDots hpiece

end Path

/-- A list of segments leads into a document as it leads from it. -/
theorem Value.follow?_document (d : Document) {q : List String} (hq : q ≠ []) :
    (Value.document d).follow? q = Document.follow? d q := by
  cases q with
  | nil => exact absurd rfl hq
  | cons key rest => rfl

namespace Document

/-! ## One segment -/

/-- The document that a write enters at a key: a new one if the key is missing. -/
def below (current? : Option Value) (key : String) : Except StoreError Document :=
  match current? with
  | none => .ok []
  | some (.document inner) => .ok inner
  | some _ => .error (.typeMismatch (.notDocument key))

/-- The value that a write puts at the key of its first segment, where a value may stand. -/
def written (current? : Option Value) (key : String) (rest : List String) (value : Value) :
    Except StoreError Value :=
  match rest with
  | [] => .ok value
  | _ :: _ => return .document (← setSegments (← below current? key) rest value)

/-- A write puts one value at the key of its first segment. -/
theorem setSegments_cons (d : Document) (key : String) (rest : List String) (value : Value) :
    setSegments d (key :: rest) value =
      (written (get? d key) key rest value).map (insert d key) := by
  cases rest with
  | nil => rfl
  | cons next rest =>
    have hrest : next :: rest ≠ [] := List.cons_ne_nil next rest
    rw [setSegments.eq_3 _ _ _ _ hrest]
    unfold written below
    cases get? d key with
    | none =>
      simp only [bind, Except.bind]
      cases setSegments [] (next :: rest) value <;> rfl
    | some v =>
      cases v with
      | document inner =>
        simp only [bind, Except.bind]
        cases setSegments inner (next :: rest) value <;> rfl
      | _ => rfl

theorem atPath?_of_not_mem (d : Document) {path : String} (hne : path ≠ "")
    (hsize : path.utf8ByteSize ≤ Path.maxBytes) (hdot : '.' ∉ path.toList) :
    atPath? d path = get? d path := by
  rw [atPath?, if_neg (by simp [hne]; omega), Path.segments_of_not_mem hdot]
  have hdepth : ¬ Path.maxDepth + 1 < [path].length := by
    simp only [Path.maxDepth, List.length_singleton]
    omega
  simp only [if_neg hdepth, follow?]
  cases get? d path <;> rfl

theorem setPath_of_not_mem (d : Document) {path : String} (hdot : '.' ∉ path.toList)
    (value : Value) : setPath d path value = .ok (insert d path value) := by
  rw [setPath, Path.segments_of_not_mem hdot]
  rfl

/-- A write behind the first segment writes into the document below it. -/
theorem written_eq_ok_iff {current? : Option Value} {key : String} {rest : List String}
    (hrest : rest ≠ []) {value w : Value} :
    written current? key rest value = .ok w ↔
      ∃ inner left, below current? key = .ok inner ∧
        setSegments inner rest value = .ok left ∧ w = .document left := by
  cases rest with
  | nil => exact absurd rfl hrest
  | cons next rest =>
    unfold written
    rw [Except.bind_eq_ok_iff]
    constructor
    · rintro ⟨inner, hinner, h⟩
      obtain ⟨left, hleft, hw⟩ := Except.bind_eq_ok_iff.1 h
      cases hw
      exact ⟨inner, left, hinner, hleft, rfl⟩
    · rintro ⟨inner, left, hinner, hleft, rfl⟩
      exact ⟨inner, hinner, Except.bind_eq_ok_iff.2 ⟨left, hleft, rfl⟩⟩

theorem setSegments_cons_eq_ok_iff {d d' : Document} {key : String} {rest : List String}
    {value : Value} :
    setSegments d (key :: rest) value = .ok d' ↔
      ∃ w, written (get? d key) key rest value = .ok w ∧ insert d key w = d' := by
  rw [setSegments_cons, Except.map_eq_ok_iff]

/-! ## Reads and diverging writes -/

/-- A read behind a key reads the document that a write enters there. -/
theorem follow?_cons_of_below {d inner : Document} {key : String} {q : List String}
    (hinner : below (get? d key) key = .ok inner) (hq : q ≠ []) :
    follow? d (key :: q) = follow? inner q := by
  rw [follow?]
  cases hget : get? d key with
  | none =>
    rw [hget] at hinner
    cases hinner
    cases q with
    | nil => exact absurd rfl hq
    | cons next q => rfl
  | some v =>
    rw [hget] at hinner
    cases v with
    | document fields =>
      cases hinner
      exact Value.follow?_document _ hq
    | _ => cases hinner

/-- A write leaves reads at diverging paths alone. -/
theorem follow?_setSegments {p q : List String} (h : Path.Diverge p q) {d d' : Document}
    {value : Value} (hset : setSegments d p value = .ok d') : follow? d' q = follow? d q := by
  induction p generalizing q d d' with
  | nil => exact absurd rfl h.ne_nil
  | cons key p ih =>
    obtain ⟨w, hw, rfl⟩ := setSegments_cons_eq_ok_iff.1 hset
    cases q with
    | nil => exact absurd rfl h.symm.ne_nil
    | cons other q =>
      by_cases hkey : key = other
      · -- Both go on in the document below the key, where they diverge.
        subst hkey
        have hrest : Path.Diverge p q := (Path.diverge_cons_cons.1 h).resolve_left (absurd rfl)
        obtain ⟨inner, left, hinner, hleft, rfl⟩ := (written_eq_ok_iff hrest.ne_nil).1 hw
        rw [follow?_cons_of_below hinner hrest.symm.ne_nil, ← ih hrest hleft, follow?,
          get?_insert_self]
        exact Value.follow?_document left hrest.symm.ne_nil
      · rw [follow?, follow?, get?_insert_of_ne d w (Ne.symm hkey)]

theorem atPath?_setPath {path other : String}
    (h : Path.Diverge (Path.segments path) (Path.segments other)) {d d' : Document}
    {value : Value} (hset : setPath d path value = .ok d') : atPath? d' other = atPath? d other := by
  have hfollow := follow?_setSegments h hset
  simp only [atPath?, hfollow]

/-! ## Writes up to the order of fields -/

theorem below_of_rel {current? other? : Option Value}
    (h : Option.Rel Value.Reorders current? other?) {key : String} {inner : Document}
    (hinner : below current? key = .ok inner) :
    ∃ inner', below other? key = .ok inner' ∧ inner.Reorders inner' := by
  cases h with
  | none => exact ⟨inner, hinner, .refl inner⟩
  | some h =>
    cases h with
    | refl v => exact ⟨inner, hinner, .refl inner⟩
    | document h =>
      cases hinner
      exact ⟨_, rfl, h⟩

/-- Writes keep reorderings. -/
theorem Reorders.setSegments {p : List String} {d e : Document} (h : d.Reorders e) {value : Value}
    {d' : Document} (hset : Document.setSegments d p value = .ok d') :
    ∃ e', Document.setSegments e p value = .ok e' ∧ d'.Reorders e' := by
  induction p generalizing d e d' with
  | nil =>
    cases hset
    exact ⟨e, rfl, h⟩
  | cons key p ih =>
    obtain ⟨w, hw, rfl⟩ := setSegments_cons_eq_ok_iff.1 hset
    by_cases hp : p = []
    · -- The last segment is written without a look at what is there.
      subst hp
      cases hw
      exact ⟨_, setSegments_cons_eq_ok_iff.2 ⟨value, rfl, rfl⟩, h.insert_left key value⟩
    · obtain ⟨inner, left, hinner, hleft, rfl⟩ := (written_eq_ok_iff hp).1 hw
      obtain ⟨inner', hinner', hreorders⟩ := below_of_rel (h.get? key) hinner
      obtain ⟨left', hleft', hreorders'⟩ := ih hreorders hleft
      exact ⟨_, setSegments_cons_eq_ok_iff.2
        ⟨_, (written_eq_ok_iff hp).2 ⟨inner', left', hinner', hleft', rfl⟩, rfl⟩,
        h.insert key (.document hreorders')⟩

/-- Writes at diverging paths commute up to the order of fields. -/
theorem setSegments_comm {p q : List String} (h : Path.Diverge p q) {d d₁ d₂ : Document}
    {v w : Value} (hp : setSegments d p v = .ok d₁) (hq : setSegments d₁ q w = .ok d₂) :
    ∃ e₁ e₂, setSegments d q w = .ok e₁ ∧ setSegments e₁ p v = .ok e₂ ∧ d₂.Reorders e₂ := by
  induction p generalizing q d d₁ d₂ with
  | nil => exact absurd rfl h.ne_nil
  | cons key p ih =>
    cases q with
    | nil => exact absurd rfl h.symm.ne_nil
    | cons other q =>
      obtain ⟨v', hv', rfl⟩ := setSegments_cons_eq_ok_iff.1 hp
      obtain ⟨w', hw', rfl⟩ := setSegments_cons_eq_ok_iff.1 hq
      by_cases hkey : key = other
      · -- Both writes enter the document at the key, where they diverge.
        subst hkey
        have hrest : Path.Diverge p q := (Path.diverge_cons_cons.1 h).resolve_left (absurd rfl)
        obtain ⟨inner, left, hinner, hleft, rfl⟩ := (written_eq_ok_iff hrest.ne_nil).1 hv'
        obtain ⟨inner₁, left₁, hinner₁, hleft₁, rfl⟩ := (written_eq_ok_iff hrest.symm.ne_nil).1 hw'
        rw [get?_insert_self] at hinner₁
        cases hinner₁
        obtain ⟨e₁, e₂, he₁, he₂, hreorders⟩ := ih hrest hleft hleft₁
        refine ⟨insert d key (.document e₁), insert d key (.document e₂), ?_, ?_, ?_⟩
        · exact setSegments_cons_eq_ok_iff.2 ⟨_, (written_eq_ok_iff hrest.symm.ne_nil).2
            ⟨inner, e₁, hinner, he₁, rfl⟩, rfl⟩
        · refine setSegments_cons_eq_ok_iff.2 ⟨.document e₂, (written_eq_ok_iff hrest.ne_nil).2
            ⟨e₁, e₂, ?_, he₂, rfl⟩, insert_insert _ _ _ _⟩
          rw [get?_insert_self]
          rfl
        · rw [insert_insert]
          exact Reorders.insert_right d key (.document hreorders)
      · -- Each write reads its own key alone, and the two fields are written in either order.
        rw [get?_insert_of_ne d v' (Ne.symm hkey)] at hw'
        refine ⟨insert d other w', insert (insert d other w') key v', ?_, ?_, ?_⟩
        · exact setSegments_cons_eq_ok_iff.2 ⟨w', hw', rfl⟩
        · refine setSegments_cons_eq_ok_iff.2 ⟨v', ?_, rfl⟩
          rw [get?_insert_of_ne d w' hkey]
          exact hv'
        · exact reorders_insert_comm d hkey v' w'

end Document

end DocQuery
