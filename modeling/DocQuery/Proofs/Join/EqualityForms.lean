import DocQuery.Proofs.Join.NestedLoop
import DocQuery.Proofs.Value.Equality
import DocQuery.Regex.Basic
import Mathlib.Data.List.Basic

/-!
# The two forms of an equality join

A join of equal fields can be written with a variable and a pipeline, where the order of values
decides, or with the names of the two fields, where equality decides. The second form joins some of
the documents that the first one joins. It joins all of them if both fields hold values of kinds
that the order tells apart by content.

## Main definitions

* `Join.fieldLookupStage`: the lookup stage that names the two fields
* `Join.equalPartners`: the documents that it joins to a row

## Main results

* `Join.runStage_fieldLookupStage`: what the second form joins
* `Join.equalPartners_sublist`, `Join.equalPartners_eq_iff`: the two side by side
* `Join.runStage_equality_forms`: where the two forms agree
-/

namespace DocQuery.Join

/-- The settings of a lookup stage that names the two fields. -/
def fieldLookupSettings (j : Join) : Document :=
  [("from", .string j.collection), ("localField", .string j.localField),
   ("foreignField", .string j.foreignField), ("as", .string j.alias)]

/-- The lookup stage that names the two fields. -/
def fieldLookupStage (j : Join) : Document := [("$lookup", .document j.fieldLookupSettings)]

section Partners

variable (j : Join) (collections : Collections)

/-- Whether the fields of a row and of a document of the other collection are equal; a missing
field counts as null. -/
def equates (row other : Document) : Bool :=
  (other.atPathOrNull j.foreignField).equals (row.atPathOrNull j.localField)

/-- The documents of the other collection with the field of a row, in their order. -/
def equalPartners (row : Document) : List Document :=
  (Collections.documents collections j.collection).filter (j.equates row)

theorem accepts_of_equates {row other : Document} (h : j.equates row other = true) :
    j.accepts .equal row other = true :=
  beq_iff_eq.2 (Value.compare_eq_of_equals h)

/-- Documents with equal fields are among those whose fields compare as equal. -/
theorem equalPartners_sublist (row : Document) :
    (j.equalPartners collections row).Sublist (j.partners .equal collections row) :=
  List.monotone_filter_right _ fun _ => j.accepts_of_equates

theorem equalPartners_eq_iff (row : Document) :
    j.partners .equal collections row = j.equalPartners collections row ↔
      ∀ other ∈ Collections.documents collections j.collection,
        j.accepts .equal row other = true → j.equates row other = true := by
  constructor
  · intro heq other hother haccepts
    have hmem : other ∈ j.partners .equal collections row :=
      List.mem_filter.2 ⟨hother, haccepts⟩
    rw [heq] at hmem
    exact (List.mem_filter.1 hmem).2
  · intro h
    refine List.filter_congr fun other hother => ?_
    rw [Bool.eq_iff_iff]
    exact ⟨h other hother, j.accepts_of_equates⟩

/-- Rows with an array of documents under one key are the same rows if the arrays are. -/
theorem map_insert_documents_inj {key : String} {first second : Document → List Document}
    {docs : List Document} :
    docs.map (fun row => Document.insert row key (.array ((first row).map .document))) =
        docs.map (fun row => Document.insert row key (.array ((second row).map .document))) ↔
      ∀ row ∈ docs, first row = second row := by
  rw [List.map_inj_left]
  refine forall₂_congr fun row _ => ⟨fun h => ?_, fun h => by rw [h]⟩
  have hget := congrArg (Document.get? · key) h
  simp only [Document.get?_insert_self, Option.some.injEq, Value.array.injEq] at hget
  exact (List.map_inj_right fun _ _ => Value.document.inj).1 hget

end Partners

section Stages

variable {j : Join} (collections : Collections) (vars : Document)
  (docs : List Document)

theorem runStage_fieldLookupStage [Regex.Engine] :
    Pipeline.runStage collections vars (.document j.fieldLookupStage) docs =
      .ok (docs.map fun row =>
        Document.insert row j.alias
          (.array ((j.equalPartners collections row).map .document))) := by
  rw [fieldLookupStage, Pipeline.runStage_lookup]
  exact Pipeline.mapDocs_eq_ok fun row _ => rfl

theorem isPlain_on (collection : String) {localField foreignField : String}
    (hlocal : Expression.isOperatorKey localField = false)
    (hforeign : Expression.isOperatorKey foreignField = false)
    (hdot : '.' ∉ foreignField.toList) :
    ({ on collection localField foreignField with «alias» := "joined" } : Join).IsPlain .equal := by
  have hend : '.' ∉ boundNameEnd.toList := by decide
  have hbound : '.' ∉ (foreignField ++ boundNameEnd).toList := by
    rw [String.toList_append, List.mem_append, not_or]
    exact ⟨hdot, hend⟩
  have hname : "joined" ≠ "" := by decide
  have hsize : "joined".utf8ByteSize ≤ Path.maxBytes := by decide
  have hkey : '.' ∉ "joined".toList := by decide
  exact ⟨rfl, hname, hsize, hkey, hbound, hlocal, hforeign⟩

end Stages

/-- Both forms of an equality join succeed and give every row an array. The one of the second form
is a part of the one of the first, and the two forms agree exactly if no field compares as equal to
another without being equal to it. Fields with keyed values never do. -/
theorem runStage_equality_forms [Regex.Engine] (collection : String)
    {localField foreignField : String} (hlocal : Expression.isOperatorKey localField = false)
    (hforeign : Expression.isOperatorKey foreignField = false) (hdot : '.' ∉ foreignField.toList)
    (collections : Collections) (vars : Document) (docs : List Document) :
    let j := on collection localField foreignField
    let others := Collections.documents collections collection
    let first := Pipeline.runStage collections vars (.document j.lookupStage) docs
    let second := Pipeline.runStage collections vars (.document j.fieldLookupStage) docs
    first = .ok (docs.map fun row => Document.insert row j.alias
        (.array ((j.partners .equal collections row).map .document))) ∧
      second = .ok (docs.map fun row => Document.insert row j.alias
        (.array ((j.equalPartners collections row).map .document))) ∧
      (∀ row ∈ docs,
        (j.equalPartners collections row).Sublist (j.partners .equal collections row)) ∧
      (first = second ↔ ∀ row ∈ docs, ∀ other ∈ others,
        (other.atPathOrNull foreignField).compare (row.atPathOrNull localField) = .eq →
          (other.atPathOrNull foreignField).equals (row.atPathOrNull localField) = true) ∧
      ((∀ row ∈ docs, (row.atPathOrNull localField).isKeyed = true) →
        (∀ other ∈ others, (other.atPathOrNull foreignField).isKeyed = true) →
        first = second) := by
  intro j others first second
  have hfirst : first = _ := runStage_lookupStage_of_alias collections vars docs
    (isPlain_on collection hlocal hforeign hdot)
  have hsecond : second = _ := runStage_fieldLookupStage collections vars docs
  have hagree : first = second ↔ ∀ row ∈ docs, ∀ other ∈ others,
      (other.atPathOrNull foreignField).compare (row.atPathOrNull localField) = .eq →
        (other.atPathOrNull foreignField).equals (row.atPathOrNull localField) = true := by
    rw [hfirst, hsecond, Except.ok.injEq, map_insert_documents_inj]
    refine forall₂_congr fun row _ => (j.equalPartners_eq_iff collections row).trans ?_
    exact forall₂_congr fun other _ => imp_congr_left beq_iff_eq
  refine ⟨hfirst, hsecond, fun row _ => j.equalPartners_sublist collections row, hagree, ?_⟩
  intro hrows hothers
  exact hagree.2 fun row hrow other hother =>
    Value.equals_of_compare_eq (hothers other hother) (hrows row hrow)

/-- Three orders, joined with the users by their names in both forms. -/
theorem runStage_equality_forms_orders :
    Expression.isOperatorKey "user" = false ∧ Expression.isOperatorKey "id" = false ∧
      '.' ∉ "id".toList ∧
      Pipeline.runStage [("users", [[("id", .string "bo")], [("id", .int64 7)]])] []
          (.document (on "users" "user" "id").lookupStage)
          [[("user", .string "bo")], [("user", .int32 7)], [("user", .string "cy")]] =
        Pipeline.runStage [("users", [[("id", .string "bo")], [("id", .int64 7)]])] []
          (.document (on "users" "user" "id").fieldLookupStage)
          [[("user", .string "bo")], [("user", .int32 7)], [("user", .string "cy")]] := by
  have hlocal : Expression.isOperatorKey "user" = false := by decide
  have hforeign : Expression.isOperatorKey "id" = false := by decide
  have hdot : '.' ∉ "id".toList := by decide
  refine ⟨hlocal, hforeign, hdot, ?_⟩
  refine (runStage_equality_forms "users" hlocal hforeign hdot _ _ _).2.2.2.2 ?_ ?_
  · simp only [List.forall_mem_cons]
    exact ⟨rfl, rfl, rfl, List.forall_mem_nil _⟩
  · change ∀ other ∈ [[("id", Value.string "bo")], [("id", Value.int64 7)]], _
    simp only [List.forall_mem_cons]
    exact ⟨rfl, rfl, List.forall_mem_nil _⟩

/-- Any two documents compare as equal, so that the first form joins a document to another with a
different key. -/
theorem not_forall_equality_forms :
    ¬ ∀ (collection localField foreignField : String),
      Expression.isOperatorKey localField = false → Expression.isOperatorKey foreignField = false →
        '.' ∉ foreignField.toList → ∀ (collections : Collections) (vars : Document)
          (docs : List Document),
          Pipeline.runStage collections vars
              (.document (on collection localField foreignField).lookupStage) docs =
            Pipeline.runStage collections vars
              (.document (on collection localField foreignField).fieldLookupStage) docs := by
  intro hall
  have hagree := hall "users" "user" "id" (by decide) (by decide) (by decide)
    [("users", [[("id", .document [("b", .int32 2)])]])] [] [[("user", .document [("a", .int32 1)])]]
  have hfirst : Pipeline.runStage [("users", [[("id", .document [("b", .int32 2)])]])] []
      (.document (on "users" "user" "id").lookupStage) [[("user", .document [("a", .int32 1)])]] =
        .ok [[("user", .document [("a", .int32 1)]),
          ("users#joined", .array [.document [("id", .document [("b", .int32 2)])]])]] := rfl
  have hsecond : Pipeline.runStage [("users", [[("id", .document [("b", .int32 2)])]])] []
      (.document (on "users" "user" "id").fieldLookupStage)
      [[("user", .document [("a", .int32 1)])]] =
        .ok [[("user", .document [("a", .int32 1)]), ("users#joined", .array [])]] := rfl
  rw [hfirst, hsecond] at hagree
  simp at hagree

end DocQuery.Join
