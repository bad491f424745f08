import DocQuery.Proofs.Path.ReadBack

/-!
# Places that a write reaches

A write descends through documents alone, so it reaches less than a read, which also enters arrays.
It is blocked where a value of another kind stands on its way, and makes what is missing. Nothing
can block it below a document that it made itself, so a write in place that fails has changed
nothing before it does.

## Main definitions

* `Document.reach?`: the value that a list of segments leads to through documents alone
* `Document.IsBlocked`: a value on the way that is not a document
* `Document.assign`: a write in place, which leaves what it has done when it fails

## Main results

* `Document.exists_setSegments_iff`: a write succeeds unless it is blocked
* `Document.assign_eq`: a write in place that fails leaves the document as it was
* `Document.reach?_setSegments_self`: what is written is reached
* `Document.setSegments_setSegments`: a second write at a path takes the place of the first
* `Document.setSegments_again`: writing a value once more changes nothing
-/

namespace DocQuery.Document

/-- The value that a list of segments leads to through documents alone. -/
def reach? (d : Document) : List String → Option Value
  | [] => none
  | [key] => get? d key
  | key :: rest =>
    match get? d key with
    | some (.document inner) => reach? inner rest
    | _ => none

/-- A part of the way, but not the whole way, leads to a value that is not a document. -/
def IsBlocked (d : Document) (p : List String) : Prop :=
  ∃ way found, way <+: p ∧ way ≠ p ∧ reach? d way = some found ∧ ∀ inner, found ≠ .document inner

/-- A write in place: what is missing on the way is put there first, then the write goes on in the
document below, which keeps what was done to it, whether the write fails there or not. -/
def assign (d : Document) (p : List String) (value : Value) : Document × Except StoreError Unit :=
  match p with
  | [] => (d, .ok ())
  | [key] => (insert d key value, .ok ())
  | key :: rest =>
    let ready := if contains d key then d else insert d key (.document [])
    match get? ready key with
    | some (.document inner) =>
      let (left, result) := assign inner rest value
      (insert ready key (.document left), result)
    | _ => (ready, .error (.typeMismatch (.notDocument key)))

variable {d d' left inner : Document} {p rest : List String} {key : String} {value found : Value}

/-! ## Reaching -/

theorem reach?_cons_of_below (hinner : below (get? d key) key = .ok inner) (hrest : rest ≠ []) :
    reach? d (key :: rest) = reach? inner rest := by
  cases rest with
  | nil => exact absurd rfl hrest
  | cons next rest =>
    rw [reach?.eq_3 _ _ _ hrest]
    cases hget : get? d key with
    | none =>
      rw [hget] at hinner
      cases hinner
      cases rest <;> rfl
    | some v =>
      rw [hget] at hinner
      cases v with
      | document fields =>
        cases hinner
        rfl
      | _ => cases hinner

/-- What is reached through documents alone is what a read finds. -/
theorem follow?_of_reach? (h : reach? d p = some found) : follow? d p = some found := by
  induction p generalizing d with
  | nil => cases h
  | cons key rest ih =>
    by_cases hrest : rest = []
    · subst hrest
      have hget : get? d key = some found := h
      rw [follow?, hget]
      rfl
    · rw [reach?.eq_3 _ _ _ hrest] at h
      rw [follow?]
      cases hget : get? d key with
      | none => simp [hget] at h
      | some v =>
        cases v with
        | document inner =>
          rw [hget] at h
          exact (Value.follow?_document inner hrest).trans (ih h)
        | _ => simp [hget] at h

/-! ## Blocked writes -/

theorem not_isBlocked_singleton : ¬ IsBlocked d [key] := by
  rintro ⟨way, found, hway, hne, hreach, -⟩
  cases way with
  | nil => cases hreach
  | cons first way =>
    obtain ⟨rfl, hnil⟩ := List.cons_prefix_cons.1 hway
    exact hne (by rw [List.prefix_nil.1 hnil])

theorem isBlocked_cons_of_error {e : StoreError} (h : below (get? d key) key = .error e)
    (hrest : rest ≠ []) : IsBlocked d (key :: rest) := by
  cases hget : get? d key with
  | none =>
    rw [hget] at h
    cases h
  | some v =>
    refine ⟨[key], v, List.cons_prefix_cons.2 ⟨rfl, List.nil_prefix⟩, by simpa using hrest.symm,
      hget, ?_⟩
    rintro inner rfl
    rw [hget] at h
    cases h

/-- Behind a document, a write is blocked exactly if it is blocked inside. -/
theorem isBlocked_cons_of_below (hinner : below (get? d key) key = .ok inner) :
    IsBlocked d (key :: rest) ↔ IsBlocked inner rest := by
  constructor
  · rintro ⟨way, found, hway, hne, hreach, hfound⟩
    cases way with
    | nil => cases hreach
    | cons first way =>
      obtain ⟨rfl, htail⟩ := List.cons_prefix_cons.1 hway
      by_cases hnil : way = []
      · -- The value at the key is a document, since the write goes on below it.
        subst hnil
        have hget : get? d first = some found := hreach
        rw [hget] at hinner
        cases found with
        | document fields => exact absurd rfl (hfound fields)
        | _ => cases hinner
      · rw [reach?_cons_of_below hinner hnil] at hreach
        exact ⟨way, found, htail, fun h => hne (by rw [h]), hreach, hfound⟩
  · rintro ⟨way, found, hway, hne, hreach, hfound⟩
    have hnil : way ≠ [] := by
      rintro rfl
      cases hreach
    refine ⟨key :: way, found, List.cons_prefix_cons.2 ⟨rfl, hway⟩, by simpa using hne, ?_, hfound⟩
    rwa [reach?_cons_of_below hinner hnil]

/-- A write succeeds unless a value on its way is not a document. -/
theorem exists_setSegments_iff :
    (∃ left, setSegments d p value = .ok left) ↔ ¬ IsBlocked d p := by
  induction p generalizing d with
  | nil =>
    refine ⟨fun _ => ?_, fun _ => ⟨d, rfl⟩⟩
    rintro ⟨way, -, hway, hne, -⟩
    exact hne (List.prefix_nil.1 hway)
  | cons key rest ih =>
    by_cases hrest : rest = []
    · subst hrest
      exact ⟨fun _ => not_isBlocked_singleton, fun _ => ⟨_, rfl⟩⟩
    · simp only [setSegments_cons_eq_ok_iff, written_eq_ok_iff hrest]
      cases hbelow : below (get? d key) key with
      | error e => simpa using isBlocked_cons_of_error hbelow hrest
      | ok inner =>
        rw [isBlocked_cons_of_below hbelow, ← ih]
        constructor
        · rintro ⟨_, _, ⟨_, left, hinner, hleft, _⟩, _⟩
          cases hinner
          exact ⟨left, hleft⟩
        · rintro ⟨left, hleft⟩
          exact ⟨_, _, ⟨_, left, rfl, hleft, rfl⟩, rfl⟩

theorem not_isBlocked_of_reach? (h : reach? d p = some found) : ¬ IsBlocked d p := by
  induction p generalizing d with
  | nil => cases h
  | cons key rest ih =>
    by_cases hrest : rest = []
    · subst hrest
      exact not_isBlocked_singleton
    · cases hget : get? d key with
      | none => simp [reach?.eq_3 _ _ _ hrest, hget] at h
      | some v =>
        cases v with
        | document inner =>
          have hbelow : below (get? d key) key = .ok inner := by rw [hget, below]
          rw [reach?_cons_of_below hbelow hrest] at h
          rw [isBlocked_cons_of_below hbelow]
          exact ih h
        | _ => simp [reach?.eq_3 _ _ _ hrest, hget] at h

theorem not_isBlocked_nil : ¬ IsBlocked [] p := by
  rintro ⟨way, found, -, -, hreach, -⟩
  have hfollow := follow?_of_reach? hreach
  cases way with
  | nil => cases hreach
  | cons key way => cases hfollow

/-! ## Writes in place -/

/-- A write in place leaves what a write makes, and a document in which it fails as it was. -/
theorem assign_eq (d : Document) (p : List String) (value : Value) :
    assign d p value =
      match setSegments d p value with
      | .ok left => (left, .ok ())
      | .error e => (d, .error e) := by
  induction p generalizing d with
  | nil => rfl
  | cons key rest ih =>
    by_cases hrest : rest = []
    · subst hrest
      rfl
    · rw [assign.eq_3 _ _ _ _ hrest, setSegments.eq_3 _ _ _ _ hrest]
      cases hget : get? d key with
      | none =>
        -- The write goes on in a document that it made, where it is not blocked.
        obtain ⟨left, hleft⟩ : ∃ left, setSegments [] rest value = .ok left :=
          exists_setSegments_iff.2 not_isBlocked_nil
        simp [contains, hget, ih, hleft, insert_insert, bind, Except.bind, pure, Except.pure]
      | some v =>
        cases v with
        | document inner =>
          simp only [contains, hget, Option.isSome_some, if_true, ih]
          cases setSegments inner rest value with
          | ok left => rfl
          | error e => simp [insert_of_get? hget, bind, Except.bind]
        | _ => simp [contains, hget]

/-! ## Writing and reaching -/

/-- What is written is reached. -/
theorem reach?_setSegments_self (hp : p ≠ []) (h : setSegments d p value = .ok d') :
    reach? d' p = some value := by
  induction p generalizing d d' with
  | nil => exact absurd rfl hp
  | cons key rest ih =>
    obtain ⟨w, hw, rfl⟩ := setSegments_cons_eq_ok_iff.1 h
    by_cases hrest : rest = []
    · subst hrest
      cases hw
      exact get?_insert_self d key value
    · obtain ⟨inner, left, -, hleft, rfl⟩ := (written_eq_ok_iff hrest).1 hw
      have hbelow : below (get? (insert d key (.document left)) key) key = .ok left := by
        rw [get?_insert_self, below]
      rw [reach?_cons_of_below hbelow hrest]
      exact ih hrest hleft

theorem written_of_below {current? : Option Value} (h : below current? key = .ok inner)
    (hrest : rest ≠ []) (value : Value) :
    written current? key rest value = (setSegments inner rest value).map .document := by
  cases rest with
  | nil => exact absurd rfl hrest
  | cons next rest =>
    unfold written
    rw [h]
    cases hset : setSegments inner (next :: rest) value <;>
      simp only [bind, Except.bind, hset] <;> rfl

/-- A second write at a path takes the place of the first. -/
theorem setSegments_setSegments (h : setSegments d p value = .ok d') (other : Value) :
    setSegments d' p other = setSegments d p other := by
  induction p generalizing d d' with
  | nil =>
    cases h
    rfl
  | cons key rest ih =>
    obtain ⟨w, hw, rfl⟩ := setSegments_cons_eq_ok_iff.1 h
    have hwritten : written (some w) key rest other = written (get? d key) key rest other := by
      by_cases hrest : rest = []
      · subst hrest
        rfl
      · obtain ⟨inner, left, hinner, hleft, rfl⟩ := (written_eq_ok_iff hrest).1 hw
        have hbelow : below (some (.document left)) key = .ok left := rfl
        rw [written_of_below hbelow hrest, written_of_below hinner hrest, ih hleft]
    have hinsert : insert (insert d key w) key = insert d key :=
      funext fun v => insert_insert d key w v
    rw [setSegments_cons, setSegments_cons, get?_insert_self, hwritten, hinsert]

/-- Writing what is reached changes nothing. -/
theorem setSegments_of_reach? (h : reach? d p = some value) : setSegments d p value = .ok d := by
  obtain ⟨left, hleft⟩ : ∃ left, setSegments d p value = .ok left :=
    exists_setSegments_iff.2 (not_isBlocked_of_reach? h)
  rw [hleft, eq_of_setSegments (follow?_of_reach? h) hleft]

/-- Writing a value once more changes nothing. -/
theorem setSegments_again (hp : p ≠ []) (h : setSegments d p value = .ok d') :
    setSegments d' p value = .ok d' :=
  setSegments_of_reach? (reach?_setSegments_self hp h)

end DocQuery.Document
