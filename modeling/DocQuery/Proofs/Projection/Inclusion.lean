import DocQuery.Proofs.Projection.Views

/-!
# Inclusion projections

A projection that includes fields by flags, and excludes at most the identifier, is an exact view:
it shows what the document has at the included paths, however they overlap, and nothing else. Since
all that it reads is what it shows, showing the view through the same projection gives the view
again.

## Main definitions

* `Project.IsView`: a projection that includes fields and excludes at most the identifier

## Main results

* `Project.includeFields_congr`: a view depends on what is read at the included paths
* `Project.IsView.atPath?_doc`, `Project.IsView.keys_doc`: what a view shows, and nothing else
* `Project.IsView.doc_doc`: a view of a view
-/

namespace DocQuery

theorem Document.follow?_singleton (d : Document) (key : String) :
    follow? d [key] = get? d key := by
  rw [follow?]
  cases get? d key <;> rfl

namespace Project

open Document (follow? atPath? get? keys)

/-- A projection that includes fields by flags: it excludes at most the identifier, and it includes
some other field. -/
structure IsView (projection : Document) : Prop where
  included : ∀ field ∈ projection,
    isInclusion field.2 = true ∨ field.1 = "_id" ∧ isExclusion field.2 = true
  nonempty : ∃ field ∈ projection, field.1 ≠ "_id" ∧ isInclusion field.2 = true

/-- No flag both includes and excludes. -/
theorem isExclusion_eq_false {flag : Value} (h : isInclusion flag = true) :
    isExclusion flag = false := by
  unfold isInclusion at h
  split at h
  · next b => exact congrArg (!·) h
  · next hnumber =>
    rw [isExclusion.eq_2 flag hnumber]
    cases hx : flag.toDouble? with
    | none => rfl
    | some x =>
      rw [hx] at h
      exact (Bool.not_eq_true' _).mp h

variable {projection : Document} {d e vars vars' row last : Document}

/-- What a view is built from is what is read at the included paths. No expression is evaluated, so
the variables do not matter. -/
theorem includeFields_congr
    (hflags : ∀ field ∈ projection, isInclusion field.2 = true ∨ isExclusion field.2 = true)
    (hread : ∀ field ∈ projection, isInclusion field.2 = true →
      atPath? d field.1 = atPath? e field.1) :
    includeFields d vars projection row = includeFields e vars' projection row := by
  induction projection generalizing row with
  | nil => rfl
  | cons field rest ih =>
    obtain ⟨path, flag⟩ := field
    obtain ⟨hflag, hflags⟩ := List.forall_mem_cons.1 hflags
    obtain ⟨hfirst, hread⟩ := List.forall_mem_cons.1 hread
    rw [includeFields, includeFields]
    by_cases hout : isExclusion flag = true
    · rw [if_pos hout, if_pos hout, ih hflags hread]
    · have hin : isInclusion flag = true := hflag.resolve_right hout
      rw [if_neg hout, if_neg hout, if_pos hin, if_pos hin, hfirst hin]
      cases atPath? e path with
      | none => exact ih hflags hread
      | some found =>
        exact congrArg (Document.setPath row path found >>= ·) (funext fun next => ih hflags hread)

/-! ## The start of a row -/

theorem start_of_mem (d : Document) (h : "_id" ∈ keys projection) : start d projection = [] :=
  if_pos ((Document.contains_iff_mem_keys _ _).2 h)

theorem start_congr (h : "_id" ∉ keys projection → get? d "_id" = get? e "_id") :
    start d projection = start e projection := by
  by_cases hid : "_id" ∈ keys projection
  · rw [start_of_mem d hid, start_of_mem e hid]
  · unfold start
    rw [h hid]

/-- The identifier is the only key that a row starts with. -/
theorem keys_start {key : String} (h : key ∈ keys (start d projection)) :
    key = "_id" ∧ "_id" ∉ keys projection := by
  by_cases hid : "_id" ∈ keys projection
  · rw [start_of_mem d hid] at h
    cases h
  · refine ⟨?_, hid⟩
    unfold start at h
    split at h
    · cases h
    · split at h
      · exact List.mem_singleton.1 h
      · cases h

theorem get?_start_id (d : Document) (h : "_id" ∉ keys projection) :
    get? (start d projection) "_id" = get? d "_id" := by
  have hcontains : ¬ Document.contains projection "_id" = true := by
    rwa [Document.contains_iff_mem_keys]
  rw [start, if_neg hcontains]
  cases get? d "_id" <;> rfl

/-- A row starts with nothing that the document does not have. -/
theorem follow?_start_of_eq_none {p : List String} (h : follow? d p = none) :
    follow? (start d projection) p = none := by
  cases p with
  | nil => rfl
  | cons key rest =>
    cases hkey : get? (start d projection) key with
    | none => rw [follow?, hkey]
    | some v =>
      have hmem : key ∈ keys (start d projection) :=
        (Document.contains_iff_mem_keys _ _).1 (Option.isSome_iff_exists.2 ⟨v, hkey⟩)
      obtain ⟨rfl, hid⟩ := keys_start hmem
      rw [follow?, get?_start_id d hid]
      exact h

/-! ## Views -/

namespace IsView

variable {out : Document}

theorem isInclusive (h : IsView projection) : isInclusive projection = true := by
  obtain ⟨field, hmem, hne, hin⟩ := h.nonempty
  refine List.any_eq_true.2 ⟨field, hmem, ?_⟩
  rw [isExclusion_eq_false hin, bne_iff_ne.2 hne]
  rfl

/-- A view computes nothing, so nothing gets in the way of a path. -/
theorem keepsTo (h : IsView projection) (q : List String) : KeepsTo projection q := by
  intro field hmem hin
  obtain hflag | ⟨-, hout⟩ := h.included field hmem
  · exact .inl hflag
  · exact absurd (hin.symm.trans hout) Bool.false_ne_true

theorem doc_eq (h : IsView projection) (d vars : Document) :
    doc d projection vars = includeFields d vars projection (start d projection) :=
  if_pos h.isInclusive

/-- At the included paths a view shows what the document has there. -/
theorem atPath?_doc (h : IsView projection) (hout : doc d projection vars = .ok out) :
    ∀ field ∈ projection, isInclusion field.2 = true → atPath? out field.1 = atPath? d field.1 := by
  intro field hmem hin
  rw [h.doc_eq] at hout
  exact atPath?_includeFields (h.keepsTo _) hout follow?_start_of_eq_none hmem
    (isExclusion_eq_false hin)

/-- A view shows nothing but the included fields and the identifier, this if it is not mentioned. -/
theorem keys_doc (h : IsView projection) (hout : doc d projection vars = .ok out) {key : String}
    (hkey : key ∈ keys out) :
    (key = "_id" ∧ "_id" ∉ keys projection) ∨
      ∃ field ∈ projection, isInclusion field.2 = true ∧
        (Path.segments field.1).head? = some key := by
  rw [h.doc_eq] at hout
  obtain hstart | ⟨field, hmem, hin, hhead⟩ := keys_includeFields hout hkey
  · exact .inl (keys_start hstart)
  · obtain hflag | ⟨-, hexcluded⟩ := h.included field hmem
    · exact .inr ⟨field, hmem, hflag, hhead⟩
    · exact absurd (hin.symm.trans hexcluded) Bool.false_ne_true

/-- The identifier comes along unless it is mentioned, whatever is included below it. -/
theorem get?_doc_id (h : IsView projection) (hout : doc d projection vars = .ok out)
    (hid : "_id" ∉ keys projection) : get? out "_id" = get? d "_id" := by
  rw [h.doc_eq] at hout
  have hstart : follow? (start d projection) ["_id"] = follow? d ["_id"] := by
    rw [Document.follow?_singleton, Document.follow?_singleton, get?_start_id d hid]
  have hfollow := follow?_includeFields (h.keepsTo _) hout hstart
  rwa [Document.follow?_singleton, Document.follow?_singleton] at hfollow

/-- The view of a view is the view. -/
theorem doc_doc (h : IsView projection) (hout : doc d projection vars = .ok out)
    (vars' : Document) : doc out projection vars' = .ok out := by
  -- Both runs read the same values and start with the same identifier.
  have hflags : ∀ field ∈ projection,
      isInclusion field.2 = true ∨ isExclusion field.2 = true :=
    fun field hmem => (h.included field hmem).imp_right And.right
  have hstart : start out projection = start d projection := start_congr (h.get?_doc_id hout)
  rw [h.doc_eq, includeFields_congr hflags (h.atPath?_doc hout), hstart, ← h.doc_eq, hout]

end IsView

/-- An inclusion projection is an exact view of a document: it shows what the document has at every
included path, also if it is nothing; it has no key but the first segments of included paths and the
identifier, which it shows if it is not mentioned; and projecting it again gives it again. -/
theorem doc_exact_view (h : IsView projection) {out : Document}
    (hout : doc d projection vars = .ok out) :
    (∀ field ∈ projection, isInclusion field.2 = true →
        atPath? out field.1 = atPath? d field.1) ∧
      (∀ key ∈ keys out, (key = "_id" ∧ "_id" ∉ keys projection) ∨
        ∃ field ∈ projection, isInclusion field.2 = true ∧
          (Path.segments field.1).head? = some key) ∧
      ("_id" ∉ keys projection → get? out "_id" = get? d "_id") ∧
      ∀ vars', doc out projection vars' = .ok out :=
  ⟨h.atPath?_doc hout, fun _ => h.keys_doc hout, h.get?_doc_id hout, h.doc_doc hout⟩

/-- Paths that overlap, in either order, and one into an array, which the view shows as a document
with the position as its key. -/
theorem doc_exact_view_overlapping :
    let d : Document := [("_id", .int32 7), ("size", .document [("w", .int32 1), ("h", .int32 2)]),
      ("tags", .array [.string "a", .string "b"]), ("note", .null)]
    let projection : Document := [("size.h", .boolean true), ("tags.1", .boolean true),
      ("size", .boolean true), ("size.w", .boolean true), ("gone", .boolean true)]
    let out : Document := [("_id", .int32 7),
      ("size", .document [("w", .int32 1), ("h", .int32 2)]),
      ("tags", .document [("1", .string "b")])]
    IsView projection ∧ doc d projection [] = .ok out ∧ atPath? out "gone" = atPath? d "gone" ∧
      "note" ∉ keys out ∧ get? out "_id" = get? d "_id" ∧ doc out projection [] = .ok out := by
  intro d projection out
  have hview : IsView projection := ⟨by decide, by decide⟩
  have hout : doc d projection [] = .ok out := rfl
  obtain ⟨hread, hkeys, hid, hagain⟩ := doc_exact_view hview hout
  refine ⟨hview, hout, hread ("gone", .boolean true) (by simp [projection]) rfl, fun hnote => ?_,
    hid (by decide), hagain []⟩
  obtain ⟨hne, -⟩ | hincluded := hkeys "note" hnote
  · exact absurd hne (by decide)
  · exact absurd hincluded (by decide)

end Project

end DocQuery
