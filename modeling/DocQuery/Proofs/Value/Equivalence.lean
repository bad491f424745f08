import DocQuery.Proofs.Value.Sameness
import Mathlib.Data.List.Forall2
import Mathlib.Data.List.Perm.Subperm

/-!
# Sameness as an equivalence

Sameness is transitive, and among values that repeat no key it is symmetric: documents with as many
fields, each of them found in the other, have the same keys. With `Value.same_self` it is an
equivalence on values without a NaN.

## Main definitions

* `Value.isFlat`: a value with no values inside
* `Value.nestedInduction`: induction over the values inside a value

## Main results

* `Value.same_trans`: sameness is transitive
* `Value.same_symm`: sameness is symmetric
-/

namespace DocQuery

theorem Double.numEq_symm {x y : Double} (h : x.numEq y = true) : y.numEq x = true := by
  unfold numEq at *
  simp only [Bool.and_eq_true, Bool.or_eq_true, beq_iff_eq] at *
  obtain ⟨⟨hx, hy⟩, hbits | ⟨hx', hy'⟩⟩ := h
  · exact ⟨⟨hy, hx⟩, .inl hbits.symm⟩
  · exact ⟨⟨hy, hx⟩, .inr ⟨hy', hx'⟩⟩

theorem Double.numEq_trans {x y z : Double} (hxy : x.numEq y = true) (hyz : y.numEq z = true) :
    x.numEq z = true := by
  have heq : ∀ {u v : Double}, u.bits = v.bits → u = v := fun {u v} h => by
    cases u
    cases v
    exact congrArg Double.mk h
  unfold numEq at *
  simp only [Bool.and_eq_true, Bool.or_eq_true, beq_iff_eq] at *
  obtain ⟨⟨hx, -⟩, hxy⟩ := hxy
  obtain ⟨⟨-, hz⟩, hyz⟩ := hyz
  refine ⟨⟨hx, hz⟩, ?_⟩
  obtain hbits | ⟨hx', hy'⟩ := hxy
  · rwa [heq hbits]
  · obtain hbits | ⟨-, hz'⟩ := hyz
    · exact .inr ⟨hx', heq hbits ▸ hy'⟩
    · exact .inr ⟨hx', hz'⟩

/-! ## Fields and items one by one -/

theorem Document.sameFields_iff {fields : List (String × Value)} {d : Document} :
    sameFields fields d = true ↔
      ∀ field ∈ fields, ∃ found, get? d field.1 = some found ∧ field.2.same found = true := by
  induction fields with
  | nil => simp [sameFields]
  | cons field rest ih =>
    obtain ⟨key, value⟩ := field
    rw [sameFields, Bool.and_eq_true, ih, List.forall_mem_cons]
    refine and_congr_left fun _ => ?_
    cases get? d key <;> simp

theorem Value.sameItems_iff {xs ys : List Value} :
    sameItems xs ys = true ↔ List.Forall₂ (fun x y => x.same y = true) xs ys := by
  induction xs generalizing ys with
  | nil => cases ys <;> simp [sameItems]
  | cons x xs ih =>
    cases ys with
    | nil => simp [sameItems]
    | cons y ys => rw [sameItems, Bool.and_eq_true, ih, List.forall₂_cons]

namespace Document

variable {d e f : Document}

theorem same_iff : d.same e = true ↔ d.length = e.length ∧
    ∀ field ∈ d, ∃ found, get? e field.1 = some found ∧ field.2.same found = true := by
  rw [same, Bool.and_eq_true, beq_iff_eq, sameFields_iff]

/-- Documents with unique keys and as many fields, each field of the first being found in the
second, have the same keys. -/
theorem keys_subset_of_same (hd : HasUniqueKeys d) (h : d.same e = true) : keys e ⊆ keys d := by
  obtain ⟨hlength, hfound⟩ := same_iff.1 h
  have hsub : keys d ⊆ keys e := by
    intro key hkey
    obtain ⟨field, hfield, rfl⟩ := List.mem_map.1 hkey
    obtain ⟨found, hget, -⟩ := hfound field hfield
    exact List.mem_map.2 ⟨(field.1, found), mem_of_get? hget, rfl⟩
  have hle : (keys e).length ≤ (keys d).length := by
    simp only [keys, List.length_map, hlength, Nat.le_refl]
  exact ((hd.subperm hsub).perm_of_length_le hle).symm.subset

theorem same_symm_of_fields (hd : HasUniqueKeys d) (he : HasUniqueKeys e)
    (hfields : ∀ field ∈ d, ∀ w, (field.1, w) ∈ e → field.2.same w = true → w.same field.2 = true)
    (h : d.same e = true) : e.same d = true := by
  obtain ⟨hlength, hfound⟩ := same_iff.1 h
  refine same_iff.2 ⟨hlength.symm, fun ⟨key, w⟩ hw => ?_⟩
  -- The key stands in the first document too, and what it leads to there is what was compared.
  have hkey : key ∈ keys d := keys_subset_of_same hd h (List.mem_map_of_mem hw)
  obtain ⟨⟨_, v⟩, hv, rfl⟩ := List.mem_map.1 hkey
  obtain ⟨found, hget, hsame⟩ := hfound _ hv
  obtain rfl : found = w := Option.some.inj (hget.symm.trans (get?_of_mem he hw))
  exact ⟨v, get?_of_mem hd hv, hfields _ hv _ hw hsame⟩

theorem same_trans_of_fields
    (hfields : ∀ field ∈ d, ∀ v w, field.2.same v = true → v.same w = true →
      field.2.same w = true)
    (hde : d.same e = true) (hef : e.same f = true) : d.same f = true := by
  obtain ⟨hlength, hfound⟩ := same_iff.1 hde
  obtain ⟨hlength', hfound'⟩ := same_iff.1 hef
  refine same_iff.2 ⟨hlength.trans hlength', fun field hfield => ?_⟩
  obtain ⟨v, hv, hsame⟩ := hfound field hfield
  obtain ⟨w, hw, hsame'⟩ := hfound' _ (mem_of_get? hv)
  exact ⟨w, hw, hfields field hfield v w hsame hsame'⟩

end Document

namespace Value

/-! ## Induction over the values inside a value -/

/-- Whether a value has no values inside. -/
def isFlat : Value → Bool
  | .document _ | .array _ | .javaScriptWithScope _ _ => false
  | _ => true

theorem sizeOf_lt_of_mem_fields {fields : Document} {field : String × Value}
    (hfield : field ∈ fields) : sizeOf field.2 < sizeOf fields := by
  obtain ⟨key, v⟩ := field
  refine Nat.lt_trans ?_ (List.sizeOf_lt_of_mem hfield)
  rw [Prod.mk.sizeOf_spec]
  exact Nat.lt_add_of_pos_left (Nat.add_pos_left Nat.one_pos _)

/-- What holds of a value if it holds of the values inside holds of every value. -/
@[elab_as_elim]
theorem nestedInduction {motive : Value → Prop}
    (document : ∀ fields : Document, (∀ field ∈ fields, motive field.2) →
      motive (.document fields))
    (array : ∀ items : List Value, (∀ item ∈ items, motive item) → motive (.array items))
    (scope : ∀ (code : String) (fields : Document), (∀ field ∈ fields, motive field.2) →
      motive (.javaScriptWithScope code fields))
    (flat : ∀ v : Value, v.isFlat = true → motive v) (v : Value) : motive v := by
  cases v with
  | document fields =>
    exact document fields fun field hfield => nestedInduction document array scope flat field.2
  | array items =>
    exact array items fun item hitem => nestedInduction document array scope flat item
  | javaScriptWithScope code fields =>
    exact scope code fields fun field hfield => nestedInduction document array scope flat field.2
  | _ => exact flat _ rfl
termination_by v
decreasing_by
  · have := sizeOf_lt_of_mem_fields hfield
    simp only [Value.document.sizeOf_spec]
    omega
  · have := List.sizeOf_lt_of_mem hitem
    simp only [Value.array.sizeOf_spec]
    omega
  · have := sizeOf_lt_of_mem_fields hfield
    simp only [Value.javaScriptWithScope.sizeOf_spec]
    omega

/-! ## Values of one kind -/

variable {a b c v : Value}

theorem exists_of_same_document {d : Document} (h : (Value.document d).same v = true) :
    ∃ e : Document, v = .document e ∧ d.same e = true := by
  cases v with
  | document e => exact ⟨e, rfl, h⟩
  | _ => cases h

theorem exists_of_same_array {xs : List Value} (h : (Value.array xs).same v = true) :
    ∃ ys, v = .array ys ∧ List.Forall₂ (fun x y => x.same y = true) xs ys := by
  cases v with
  | array ys => exact ⟨ys, rfl, sameItems_iff.1 h⟩
  | _ => cases h

theorem exists_of_same_scope {code : String} {d : Document}
    (h : (Value.javaScriptWithScope code d).same v = true) :
    ∃ e : Document, v = .javaScriptWithScope code e ∧ d.same e = true := by
  cases v with
  | javaScriptWithScope other e =>
    obtain ⟨hcode, hsame⟩ := Bool.and_eq_true_iff.1 h
    exact ⟨e, by rw [beq_iff_eq.1 hcode], hsame⟩
  | _ => cases h

theorem scope_same {code : String} {d e : Document} (h : d.same e = true) :
    (Value.javaScriptWithScope code d).same (.javaScriptWithScope code e) = true :=
  Bool.and_eq_true_iff.2 ⟨beq_self_eq_true code, h⟩

/-- Flat values that are the same are equal, unless they are doubles. -/
theorem eq_or_of_same_flat (ha : a.isFlat = true) (h : a.same b = true) :
    a = b ∨ ∃ x y, a = .double x ∧ b = .double y ∧ x.numEq y = true := by
  unfold same at h
  split at h
  case h_7 x y => exact .inr ⟨x, y, rfl, rfl, h⟩
  case h_11 | h_12 | h_20 => cases ha
  case h_22 => cases h
  all_goals
    left
    simp only [Bool.and_eq_true, beq_iff_eq] at h
    first | rfl | rw [h] | rw [h.1, h.2]

/-! ## Symmetry and transitivity -/

theorem sameItems_symm_of_items {xs ys : List Value}
    (hitems : ∀ x ∈ xs, ∀ y ∈ ys, x.same y = true → y.same x = true)
    (h : List.Forall₂ (fun x y => x.same y = true) xs ys) :
    List.Forall₂ (fun x y => x.same y = true) ys xs := by
  induction h with
  | nil => exact .nil
  | cons hfirst _ ih =>
    refine .cons (hitems _ List.mem_cons_self _ List.mem_cons_self hfirst) (ih ?_)
    exact fun x hx y hy => hitems x (List.mem_cons_of_mem _ hx) y (List.mem_cons_of_mem _ hy)

theorem sameItems_trans_of_items {xs ys zs : List Value}
    (hitems : ∀ x ∈ xs, ∀ y z, x.same y = true → y.same z = true → x.same z = true)
    (hxy : List.Forall₂ (fun x y => x.same y = true) xs ys)
    (hyz : List.Forall₂ (fun x y => x.same y = true) ys zs) :
    List.Forall₂ (fun x y => x.same y = true) xs zs := by
  induction hxy generalizing zs with
  | nil => exact hyz
  | cons hfirst _ ih =>
    obtain ⟨hx, hxs⟩ := List.forall_mem_cons.1 hitems
    obtain ⟨z, zs, hz, hzs, rfl⟩ := List.forall₂_cons_left_iff.1 hyz
    exact .cons (hx _ z hfirst hz) (ih hxs hzs)

/-- Sameness is transitive. -/
theorem same_trans (hab : a.same b = true) (hbc : b.same c = true) : a.same c = true := by
  induction a using nestedInduction generalizing b c with
  | document d ih =>
    obtain ⟨e, rfl, hde⟩ := exists_of_same_document hab
    obtain ⟨f, rfl, hef⟩ := exists_of_same_document hbc
    exact Document.same_trans_of_fields (fun field hfield v w => ih field hfield) hde hef
  | array xs ih =>
    obtain ⟨ys, rfl, hxy⟩ := exists_of_same_array hab
    obtain ⟨zs, rfl, hyz⟩ := exists_of_same_array hbc
    exact sameItems_iff.2 (sameItems_trans_of_items (fun x hx y z => ih x hx) hxy hyz)
  | scope code d ih =>
    obtain ⟨e, rfl, hde⟩ := exists_of_same_scope hab
    obtain ⟨f, rfl, hef⟩ := exists_of_same_scope hbc
    exact scope_same (Document.same_trans_of_fields (fun field hfield v w => ih field hfield) hde hef)
  | flat a ha =>
    obtain rfl | ⟨x, y, rfl, rfl, hxy⟩ := eq_or_of_same_flat ha hab
    · exact hbc
    · obtain rfl | ⟨_, z, heq, rfl, hyz⟩ := eq_or_of_same_flat rfl hbc
      · exact hab
      · cases heq
        exact Double.numEq_trans hxy hyz

/-- Sameness of values that repeat no key is symmetric. -/
theorem same_symm (ha : a.HasUniqueKeys) (hb : b.HasUniqueKeys) (h : a.same b = true) :
    b.same a = true := by
  induction a using nestedInduction generalizing b with
  | document d ih =>
    obtain ⟨e, rfl, hde⟩ := exists_of_same_document h
    obtain ⟨hd, hfields⟩ := hasUniqueKeys_document.1 ha
    obtain ⟨he, hfields'⟩ := hasUniqueKeys_document.1 hb
    refine Document.same_symm_of_fields hd he (fun field hfield w hw => ?_) hde
    exact ih field hfield (hfields field hfield) (hfields' _ hw)
  | array xs ih =>
    obtain ⟨ys, rfl, hxy⟩ := exists_of_same_array h
    refine sameItems_iff.2 (sameItems_symm_of_items (fun x hx y hy => ?_) hxy)
    exact ih x hx (hasUniqueKeys_array.1 ha x hx) (hasUniqueKeys_array.1 hb y hy)
  | scope code d ih =>
    obtain ⟨e, rfl, hde⟩ := exists_of_same_scope h
    -- The check of a scope is that of a document.
    obtain ⟨hd, hfields⟩ := hasUniqueKeys_document.1 (show (Value.document d).HasUniqueKeys from ha)
    obtain ⟨he, hfields'⟩ := hasUniqueKeys_document.1 (show (Value.document e).HasUniqueKeys from hb)
    refine scope_same (Document.same_symm_of_fields hd he (fun field hfield w hw => ?_) hde)
    exact ih field hfield (hfields field hfield) (hfields' _ hw)
  | flat a ha' =>
    obtain rfl | ⟨x, y, rfl, rfl, hxy⟩ := eq_or_of_same_flat ha' h
    · exact h
    · exact Double.numEq_symm hxy

end Value

end DocQuery
