import DocQuery.Proofs.Path.ReadBack
import DocQuery.Stage.Project

/-!
# Projections as views

A projection that builds a row anew writes one field after another. What it shows at an included
path is what the document has there, however the included paths overlap: every included field puts
down what the document holds, so a later one above or below the path puts down the same again. Only
a computed field at the path, above it or below it could spoil this.

## Main definitions

* `Project.Writes`: what one field of a projection does to a row
* `Project.KeepsTo`: no computed field gets in the way of a path

## Main results

* `Project.includeFields_cons`: fields are written one after another
* `Project.Writes.follow?_eq`, `Project.follow?_includeFields`: what one field, and what many leave
  in agreement with the document
* `Project.atPath?_includeFields`: what an included field shows
* `Project.keys_includeFields`: the keys of a row are first segments of included paths
* `Project.atPath?_addFields`: added fields leave diverging paths alone
-/

namespace DocQuery

namespace Document

variable {row row' d : Document} {p : List String} {v : Value}

theorem ne_nil_of_follow? (h : follow? d p = some v) : p ≠ [] := by
  rintro rfl
  cases h

/-- A row that agrees with a document at a path still does after a value of the document is
written. -/
theorem follow?_setSegments_of_eq (hread : follow? d p = some v)
    (hset : setSegments row p v = .ok row') {q : List String}
    (h : follow? row q = follow? d q) : follow? row' q = follow? d q := by
  by_cases hpq : p <+: q
  · -- Below the written path, both are what the value leads to.
    obtain ⟨rest, rfl⟩ := hpq
    have hp := ne_nil_of_follow? hread
    rw [follow?_append _ hp, follow?_append _ hp, hread, follow?_setSegments_self hp hset]
  · by_cases hqp : q <+: p
    · by_cases hq : q = []
      · subst hq
        rfl
      · -- Above it, the row holds the value already.
        obtain ⟨rest, rfl⟩ := hqp
        have hrow : follow? row (q ++ rest) = some v := by
          rw [follow?_append _ hq, h, ← follow?_append _ hq, hread]
        rw [eq_of_setSegments hrow hset, h]
    · rw [follow?_setSegments ⟨hpq, hqp⟩ hset, h]

end Document

namespace Project

open Document (follow? atPath? keys)

/-- What a field of a projection does to a row: it leaves it alone, or it writes a value, which is
that of the document if the field is included by a flag. -/
def Writes (d : Document) (field : String × Value) (row next : Document) : Prop :=
  next = row ∧ (isExclusion field.2 = true ∨ atPath? d field.1 = none) ∨
    ∃ value, Document.setPath row field.1 value = .ok next ∧ isExclusion field.2 = false ∧
      (isInclusion field.2 = true → atPath? d field.1 = some value)

/-- Whatever is written at a path, above it or below it is included by a flag. -/
def KeepsTo (projection : Document) (q : List String) : Prop :=
  ∀ field ∈ projection, isExclusion field.2 = false →
    isInclusion field.2 = true ∨ Path.Diverge (Path.segments field.1) q

variable {projection rest : Document} {d vars row next last : Document} {field : String × Value}
  {q : List String}

theorem KeepsTo.of_cons (h : KeepsTo (field :: rest) q) : KeepsTo rest q :=
  fun other hother => h other (List.mem_cons_of_mem _ hother)

/-- The fields of a projection are written one after another. -/
theorem includeFields_cons (h : includeFields d vars (field :: rest) row = .ok last) :
    ∃ next, Writes d field row next ∧ includeFields d vars rest next = .ok last := by
  obtain ⟨path, flag⟩ := field
  rw [includeFields] at h
  by_cases hout : isExclusion flag = true
  · rw [if_pos hout] at h
    exact ⟨row, .inl ⟨rfl, .inl hout⟩, h⟩
  · rw [if_neg hout] at h
    have hin := Bool.eq_false_iff.2 hout
    by_cases hflag : isInclusion flag = true
    · rw [if_pos hflag] at h
      cases hread : atPath? d path with
      | none =>
        rw [hread] at h
        exact ⟨row, .inl ⟨rfl, .inr hread⟩, h⟩
      | some found =>
        rw [hread] at h
        obtain ⟨next, hnext, hrest⟩ := Except.bind_eq_ok_iff.1 h
        exact ⟨next, .inr ⟨found, hnext, hin, fun _ => hread⟩, hrest⟩
    · rw [if_neg hflag] at h
      obtain ⟨value, -, hwrite⟩ := Except.bind_eq_ok_iff.1 h
      obtain ⟨next, hnext, hrest⟩ := Except.bind_eq_ok_iff.1 hwrite
      exact ⟨next, .inr ⟨value, hnext, hin, fun hpos => absurd hpos hflag⟩, hrest⟩

/-- A row that agrees with the document at a path still does after a field is written. -/
theorem Writes.follow?_eq (h : Writes d field row next)
    (hkeeps : isExclusion field.2 = false →
      isInclusion field.2 = true ∨ Path.Diverge (Path.segments field.1) q)
    (hagree : follow? row q = follow? d q) : follow? next q = follow? d q := by
  obtain ⟨rfl, -⟩ | ⟨value, hset, hin, hvalue⟩ := h
  · exact hagree
  · obtain hflag | hdiverge := hkeeps hin
    · have hread := Document.follow?_of_atPath? (hvalue hflag)
      exact Document.follow?_setSegments_of_eq hread hset hagree
    · rw [Document.follow?_setSegments hdiverge hset, hagree]

/-- A row that agrees with the document at a path still does after all fields are written. -/
theorem follow?_includeFields (hkeeps : KeepsTo projection q)
    (h : includeFields d vars projection row = .ok last) (hagree : follow? row q = follow? d q) :
    follow? last q = follow? d q := by
  induction projection generalizing row with
  | nil =>
    cases h
    exact hagree
  | cons field rest ih =>
    obtain ⟨next, hnext, hrest⟩ := includeFields_cons h
    have hfirst := hnext.follow?_eq (hkeeps field List.mem_cons_self) hagree
    exact ih hkeeps.of_cons hrest hfirst

/-- At an included path a row shows what the document has there, also if it is nothing. -/
theorem atPath?_includeFields {path : String} (hkeeps : KeepsTo projection (Path.segments path))
    (h : includeFields d vars projection row = .ok last)
    (hrow : follow? d (Path.segments path) = none → follow? row (Path.segments path) = none)
    {flag : Value} (hmem : (path, flag) ∈ projection) (hin : isExclusion flag = false) :
    atPath? last path = atPath? d path := by
  induction projection generalizing row with
  | nil => cases hmem
  | cons field rest ih =>
    obtain ⟨next, hnext, hrest⟩ := includeFields_cons h
    have hfirst := hkeeps field List.mem_cons_self
    obtain rfl | hmem := List.mem_cons.1 hmem
    · obtain ⟨rfl, hskip⟩ | ⟨value, hset, -, hvalue⟩ := hnext
      · have hmissing : atPath? d path = none := hskip.resolve_left (Bool.eq_false_iff.1 hin)
        obtain hnone | hunreadable := Document.follow?_of_atPath?_eq_none hmissing
        · have hagree := (hrow hnone).trans hnone.symm
          exact Document.atPath?_congr (follow?_includeFields hkeeps.of_cons hrest hagree)
        · rw [hunreadable last, hunreadable d]
      · -- The path does not diverge from itself, so the flag includes it.
        have hflag : isInclusion flag = true :=
          (hfirst hin).resolve_right fun hself => hself.1 List.prefix_rfl
        have hread := Document.follow?_of_atPath? (hvalue hflag)
        have hwritten : follow? next (Path.segments path) = follow? d (Path.segments path) := by
          rw [Document.follow?_setSegments_self (Document.ne_nil_of_follow? hread) hset, hread]
        exact Document.atPath?_congr (follow?_includeFields hkeeps.of_cons hrest hwritten)
    · refine ih hkeeps.of_cons hrest (fun hnone => ?_) hmem
      rw [hnext.follow?_eq hfirst ((hrow hnone).trans hnone.symm), hnone]

/-- The keys of a row are those that it starts with and first segments of paths that are not
excluded. -/
theorem keys_includeFields (h : includeFields d vars projection row = .ok last) {key : String}
    (hkey : key ∈ keys last) :
    key ∈ keys row ∨ ∃ field ∈ projection, isExclusion field.2 = false ∧
      (Path.segments field.1).head? = some key := by
  induction projection generalizing row with
  | nil =>
    cases h
    exact .inl hkey
  | cons field rest ih =>
    obtain ⟨next, hnext, hrest⟩ := includeFields_cons h
    obtain hkey | ⟨other, hother, hin, hhead⟩ := ih hrest
    · obtain ⟨rfl, -⟩ | ⟨value, hset, hin, -⟩ := hnext
      · exact .inl hkey
      · exact (Document.keys_setSegments hset hkey).imp_right fun hhead =>
          ⟨field, List.mem_cons_self, hin, hhead⟩
    · exact .inr ⟨other, List.mem_cons_of_mem _ hother, hin, hhead⟩

/-- Fields that are added elsewhere leave a path alone. -/
theorem atPath?_addFields {fields : List (String × Value)} {path : String}
    (hdiverge : ∀ field ∈ fields, Path.Diverge (Path.segments field.1) (Path.segments path))
    (h : addFields vars fields row = .ok last) : atPath? last path = atPath? row path := by
  induction fields generalizing row with
  | nil =>
    cases h
    rfl
  | cons field rest ih =>
    obtain ⟨value, -, hwrite⟩ := Except.bind_eq_ok_iff.1 h
    obtain ⟨next, hset, hrest⟩ := Except.bind_eq_ok_iff.1 hwrite
    have hfirst := Document.atPath?_setPath (hdiverge field List.mem_cons_self) hset
    rw [ih (fun other hother => hdiverge other (List.mem_cons_of_mem _ hother)) hrest, hfirst]

end Project

end DocQuery
