import DocQuery.Value.Basic

/-!
# Laws of fields

Equations between writes of single fields and of many.

## Main results

* `Document.insert_insert`: the second of two writes to one field stays
* `Document.insert_of_not_mem`: a new field goes to the end
* `Document.extend_of_disjoint`, `Document.ofList_of_nodup`: writing new fields appends them
* `Document.mem_of_mem_extend`, `Document.mem_keys_extend`: where fields and keys come from
* `Document.extend_extend`: writing documents over one another is associative
* `Document.get?_erase_of_ne`: removing a field leaves the others
-/

namespace DocQuery.Document

/-- The second of two writes to one field stays. -/
theorem insert_insert (d : Document) (key : String) (first second : Value) :
    insert (insert d key first) key second = insert d key second := by
  induction d with
  | nil => simp [insert]
  | cons field rest ih =>
    obtain ⟨k, v⟩ := field
    by_cases h : k = key
    · simp [insert, h]
    · simp [insert, h, ih]

/-- A new field goes to the end. -/
theorem insert_of_not_mem {d : Document} {key : String} (h : key ∉ keys d) (value : Value) :
    insert d key value = d ++ [(key, value)] := by
  induction d with
  | nil => rfl
  | cons field rest ih =>
    obtain ⟨k, v⟩ := field
    simp only [keys, List.map_cons, List.mem_cons, not_or] at h
    obtain ⟨hk, hrest⟩ := h
    rw [insert, if_neg (Ne.symm hk), ih hrest]
    rfl

@[simp]
theorem extend_nil (d : Document) : extend d [] = d := rfl

@[simp]
theorem extend_singleton (d : Document) (key : String) (value : Value) :
    extend d [(key, value)] = insert d key value := rfl

/-- Fields with new keys of their own are appended. -/
theorem extend_of_disjoint {d extra : Document} (hextra : HasUniqueKeys extra)
    (h : ∀ key ∈ keys extra, key ∉ keys d) : extend d extra = d ++ extra := by
  induction extra generalizing d with
  | nil => rw [extend_nil, List.append_nil]
  | cons field rest ih =>
    obtain ⟨key, value⟩ := field
    obtain ⟨hkey, hrest⟩ := List.nodup_cons.1 hextra
    have hinsert := insert_of_not_mem (h key List.mem_cons_self) value
    -- The first new field is not among the others, so they stay new behind it.
    have hdisjoint : ∀ k ∈ keys rest, k ∉ keys (insert d key value) := by
      intro k hk
      rw [hinsert]
      simp only [keys, List.map_append, List.map_cons, List.map_nil, List.mem_append,
        List.mem_singleton, not_or]
      refine ⟨h k (List.mem_cons_of_mem _ hk), ?_⟩
      rintro rfl
      exact hkey hk
    change extend (insert d key value) rest = _
    rw [ih hrest hdisjoint, hinsert, List.append_assoc]
    rfl

/-- Fields with keys of their own are the document that they make. -/
theorem ofList_of_nodup {d : Document} (h : HasUniqueKeys d) : ofList d = d :=
  extend_of_disjoint h fun _ _ => List.not_mem_nil

/-! ## Fields one by one -/

variable {entry : String × Value} {d extra : Document} {key : String}

theorem mem_of_mem_insert {v : Value} (h : entry ∈ insert d key v) :
    entry ∈ d ∨ entry = (key, v) := by
  induction d with
  | nil => exact .inr (List.mem_singleton.1 h)
  | cons field rest ih =>
    obtain ⟨k, w⟩ := field
    rw [insert] at h
    split at h
    · next hk =>
      subst hk
      obtain h | h := List.mem_cons.1 h
      · exact .inr h
      · exact .inl (List.mem_cons_of_mem _ h)
    · obtain h | h := List.mem_cons.1 h
      · exact .inl (h ▸ List.mem_cons_self)
      · exact (ih h).imp_left (List.mem_cons_of_mem _)

theorem mem_keys_insert {other : String} {v : Value} :
    other ∈ keys (insert d key v) ↔ other ∈ keys d ∨ other = key := by
  rw [keys_insert]
  split
  · next hkey => exact ⟨.inl, fun h => h.elim id fun heq => heq ▸ hkey⟩
  · rw [List.mem_append, List.mem_singleton]

/-- The keys that are there keep their places at the front. -/
theorem keys_prefix_insert (d : Document) (key : String) (v : Value) :
    keys d <+: keys (insert d key v) := by
  rw [keys_insert]
  split
  · exact List.prefix_rfl
  · exact List.prefix_append _ _

theorem extend_append (d first second : Document) :
    extend d (first ++ second) = extend (extend d first) second := List.foldl_append

theorem mem_of_mem_extend (h : entry ∈ extend d extra) : entry ∈ d ∨ entry ∈ extra := by
  induction extra generalizing d with
  | nil => exact .inl h
  | cons field rest ih =>
    obtain h | h := ih h
    · obtain h | rfl := mem_of_mem_insert h
      · exact .inl h
      · exact .inr List.mem_cons_self
    · exact .inr (List.mem_cons_of_mem _ h)

theorem mem_keys_extend :
    key ∈ keys (extend d extra) ↔ key ∈ keys d ∨ key ∈ keys extra := by
  induction extra generalizing d with
  | nil => simp [keys]
  | cons field rest ih =>
    have hextend : extend d (field :: rest) = extend (insert d field.1 field.2) rest := rfl
    have hkeys : keys (field :: rest) = field.1 :: keys rest := rfl
    rw [hextend, ih, mem_keys_insert, hkeys, List.mem_cons, or_assoc]

theorem HasUniqueKeys.extend (h : HasUniqueKeys d) (extra : Document) :
    HasUniqueKeys (Document.extend d extra) := by
  induction extra generalizing d with
  | nil => exact h
  | cons field rest ih => exact ih (h.insert field.1 field.2)

/-! ## Writes of many fields, one after another -/

/-- A field that is there keeps its place, whatever is written to another one before. -/
theorem insert_insert_comm {other : String} (hne : key ≠ other) (hkey : key ∈ keys d)
    (v w : Value) : insert (insert d other w) key v = insert (insert d key v) other w := by
  induction d with
  | nil => cases hkey
  | cons field rest ih =>
    obtain ⟨k, u⟩ := field
    by_cases hk : k = key
    · subst hk
      simp [insert, hne]
    · have hrest : key ∈ keys rest := (List.mem_cons.1 hkey).resolve_left (Ne.symm hk)
      by_cases ho : k = other
      · subst ho
        simp [insert, hk]
      · simp [insert, hk, ho, ih hrest]

theorem insert_extend_of_not_mem (hd : key ∈ keys d) (hextra : key ∉ keys extra) (v : Value) :
    insert (extend d extra) key v = extend (insert d key v) extra := by
  induction extra generalizing d with
  | nil => rfl
  | cons field rest ih =>
    obtain ⟨k, w⟩ := field
    obtain ⟨hk, hrest⟩ := not_or.1 (mt List.mem_cons.2 hextra)
    change insert (extend (insert d k w) rest) key v = extend (insert (insert d key v) k w) rest
    rw [ih (mem_keys_insert.2 (.inl hd)) hrest, insert_insert_comm hk hd]

/-- Writing one more field comes to the same before the fields are written out and behind them. -/
theorem extend_insert (h : HasUniqueKeys extra) (d : Document) (key : String) (v : Value) :
    extend d (insert extra key v) = insert (extend d extra) key v := by
  induction extra generalizing d with
  | nil => rfl
  | cons field rest ih =>
    obtain ⟨k, w⟩ := field
    obtain ⟨hk, hrest⟩ := List.nodup_cons.1 h
    by_cases hkey : k = key
    · -- The field takes its place at the first write, and no later one touches it.
      subst hkey
      have hinserted : k ∈ keys (insert d k w) := mem_keys_insert.2 (.inr rfl)
      have hextend := insert_extend_of_not_mem hinserted hk v
      rw [insert_insert] at hextend
      rw [insert, if_pos rfl]
      exact hextend.symm
    · rw [insert, if_neg hkey]
      exact ih hrest (insert d k w)

/-- Writing documents over one another is associative, the order of the fields included. -/
theorem extend_extend (d : Document) {first : Document} (h : HasUniqueKeys first)
    (second : Document) : extend (extend d first) second = extend d (extend first second) := by
  induction second generalizing first with
  | nil => rfl
  | cons field rest ih =>
    obtain ⟨key, v⟩ := field
    change extend (insert (extend d first) key v) rest = extend d (extend (insert first key v) rest)
    rw [← extend_insert h, ih (h.insert key v)]

/-- What is found is a field. -/
theorem mem_of_get? {v : Value} (h : get? d key = some v) : (key, v) ∈ d := by
  induction d with
  | nil => cases h
  | cons field rest ih =>
    obtain ⟨k, w⟩ := field
    rw [get?] at h
    split at h
    · next hk =>
      cases h
      exact hk ▸ List.mem_cons_self
    · exact List.mem_cons_of_mem _ (ih h)

/-- Of unique keys each leads to its own field. -/
theorem get?_of_mem {v : Value} (hd : HasUniqueKeys d) (h : (key, v) ∈ d) :
    get? d key = some v := by
  induction d with
  | nil => cases h
  | cons field rest ih =>
    obtain ⟨k, w⟩ := field
    obtain ⟨hk, hrest⟩ := List.nodup_cons.1 hd
    rw [get?]
    obtain h | h := List.mem_cons.1 h
    · cases h
      rw [if_pos rfl]
    · have hmem : key ∈ keys rest := List.mem_map_of_mem (f := Prod.fst) h
      have hne : k ≠ key := fun heq => hk (heq ▸ hmem)
      rw [if_neg hne, ih hrest h]

/-! ## Fields that are missing -/

theorem get?_eq_none_of_not_mem (h : key ∉ keys d) :
    get? d key = none := by
  rw [← contains_iff_mem_keys, contains, Option.not_isSome_iff_eq_none] at h
  exact h

theorem erase_of_get?_eq_none (h : get? d key = none) : erase d key = d := by
  induction d with
  | nil => rfl
  | cons field rest ih =>
    obtain ⟨k, v⟩ := field
    rw [get?] at h
    rw [erase]
    split at h
    · cases h
    · next hk => rw [if_neg hk, ih h]

theorem get?_erase_of_ne {other : String} (h : other ≠ key) :
    get? (erase d key) other = get? d other := by
  induction d with
  | nil => rfl
  | cons field rest ih =>
    obtain ⟨k, v⟩ := field
    rw [erase]
    by_cases hk : k = key
    · subst hk
      rw [if_pos rfl, get?, if_neg (Ne.symm h)]
    · rw [if_neg hk, get?, get?, ih]

end DocQuery.Document
