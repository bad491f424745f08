import DocQuery.Proofs.Condition.Comparisons
import DocQuery.Proofs.Filter.Clauses
import DocQuery.Proofs.Regex.Builtin
import Mathlib.Data.List.Infix

/-!
# Searches for literal text

A search for literal text is written as a regular expression, with the text quoted, and read again
by an engine when a document is checked. With any engine that goes by the rules for writing patterns
what comes out is a comparison of characters: the text stands in the string of a field, at its start
or at its end, whatever characters either of them holds.

## Main definitions

* `TextMatch.Occurs`: whether a text stands in another at the place that is searched
* `TextMatch.Finds`: whether the value of a field, or one of its items, is a string with the text
* `TextMatch.pieces`: what the regular expression of a search is assembled of

## Main results

* `TextMatch.pattern_eq`: the regular expression of a search is written piece by piece
* `TextMatch.isMatch_iff_occurs`: it matches where the text stands
* `TextMatch.fieldMatches_pattern`: the operator of a search holds of the values it finds
* `Query.docMatches_text`: the filter of a search holds of the documents it finds
-/

namespace DocQuery

open Regex

namespace TextMatch

/-- Whether a text stands in another at the place that is searched. -/
def Occurs (kind : TextMatch) (wanted s : String) : Prop :=
  match kind with
  | anywhere => wanted.toList <:+: s.toList
  | atStart => wanted.toList <+: s.toList
  | atEnd => wanted.toList <:+ s.toList

instance (kind : TextMatch) (wanted s : String) : Decidable (kind.Occurs wanted s) :=
  match kind with
  | anywhere => inferInstanceAs (Decidable (wanted.toList <:+: s.toList))
  | atStart => inferInstanceAs (Decidable (wanted.toList <+: s.toList))
  | atEnd => inferInstanceAs (Decidable (wanted.toList <:+ s.toList))

/-- Whether a search finds its text in the value of a field: in a string, or in some item of an
array that is a string. A missing field and any other value have none. -/
def Finds (kind : TextMatch) (wanted : String) : Option Value → Prop
  | some (.string s) => kind.Occurs wanted s
  | some (.array items) => ∃ s, .string s ∈ items ∧ kind.Occurs wanted s
  | _ => False

/-- Whether a value is a string with the text. -/
def isIn (kind : TextMatch) (wanted : String) : Value → Bool
  | .string s => decide (kind.Occurs wanted s)
  | _ => false

/-- A search looks for a string with its text among the values compared. -/
theorem finds_iff (kind : TextMatch) (wanted : String) (value? : Option Value) :
    kind.Finds wanted value? ↔ (Condition.compared value?).any (kind.isIn wanted) = true := by
  have hitems (items : List Value) :
      items.any (kind.isIn wanted) = true ↔ ∃ s, .string s ∈ items ∧ kind.Occurs wanted s := by
    rw [List.any_eq_true]
    constructor
    · rintro ⟨v, hv, hin⟩
      cases v with
      | string s => exact ⟨s, hv, of_decide_eq_true hin⟩
      | _ => cases hin
    · rintro ⟨s, hs, hoccurs⟩
      exact ⟨.string s, hs, decide_eq_true hoccurs⟩
  cases value? with
  | none => simp [Finds, Condition.compared]
  | some v =>
    cases v with
    | array items => exact (hitems items).symm
    | _ => simp [Finds, Condition.compared, isIn]

instance (kind : TextMatch) (wanted : String) (value? : Option Value) :
    Decidable (kind.Finds wanted value?) :=
  decidable_of_iff _ (kind.finds_iff wanted value?).symm

/-! ## The regular expression -/

/-- The pieces of the pattern of a search. -/
def pieces (kind : TextMatch) (wanted : String) : List Piece :=
  match kind with
  | anywhere => .anything :: wanted.toList.map .char ++ [.anything]
  | atStart => .textStart :: wanted.toList.map .char ++ [.anything]
  | atEnd => .anything :: wanted.toList.map .char ++ [.textEnd]

section Search

variable [Regex.Engine] {M : Meaning} (h : Engine.Follows M) (kind : TextMatch) {wanted : String}
include h

/-- The pattern of a search is written piece by piece. -/
theorem pattern_eq (wanted : String) :
    kind.pattern wanted true = String.ofList (M.written (kind.pieces wanted)) := by
  have hpieces (first last : Piece) :
      String.ofList (M.written (first :: wanted.toList.map .char ++ [last])) =
        String.ofList (M.text first) ++ Engine.escape wanted ++ String.ofList (M.text last) := by
    rw [List.cons_append, Meaning.written_cons, Meaning.written_append, Meaning.written_singleton,
      h.escape_eq, String.ofList_append, String.ofList_append, String.append_assoc]
  cases kind with
  | anywhere => exact (hpieces .anything .anything).symm
  | atStart => exact (hpieces .textStart .anything).symm
  | atEnd => exact (hpieces .anything .textEnd).symm

/-- The pattern of a search compiles unless it takes too much memory. -/
theorem compile_pattern
    (hsize : Engine.compile (kind.pattern wanted true) false false ≠ .error .tooLarge) :
    ∃ isMatch, Engine.compile (kind.pattern wanted true) false false = .ok isMatch := by
  rw [kind.pattern_eq h wanted] at hsize ⊢
  exact h.compile_eq_ok hsize

/-- The pattern of a search matches a string if the text stands where it is searched. -/
theorem isMatch_iff_occurs {isMatch : String → Bool}
    (hcompile : Engine.compile (kind.pattern wanted true) false false = .ok isMatch) (s : String) :
    isMatch s = true ↔ kind.Occurs wanted s := by
  rw [h.search hcompile, kind.pattern_eq h wanted, String.toList_ofList]
  -- A stretch of the whole pattern has the text between its first and its last piece, of which an
  -- anchor ties it to an end, and a dot with a star can be left empty.
  cases kind with
  | anywhere =>
    simp only [pieces, h.spans_between, Occurs]
    constructor
    · rintro ⟨-, -, -, m, -, htext, -⟩
      exact htext.isInfix.trans (List.drop_suffix m s.toList).isInfix
    · rintro ⟨before, behind, hs⟩
      refine ⟨before.length, ?_, _, before.length, h.spans_anything_self _ _, ?_,
        h.spans_anything_self _ _⟩
      · simp only [← hs, List.length_append]
        omega
      · rw [← hs, List.append_assoc, List.drop_left]
        exact List.prefix_append _ _
  | atStart =>
    simp only [pieces, h.spans_between, Occurs, Meaning.text, h.textStart]
    constructor
    · rintro ⟨-, -, -, _, ⟨rfl, rfl⟩, htext, -⟩
      exact htext
    · intro htext
      exact ⟨0, Nat.zero_le _, _, 0, ⟨rfl, rfl⟩, htext, h.spans_anything_self _ _⟩
  | atEnd =>
    simp only [pieces, h.spans_between, Occurs, Meaning.text, h.textEnd]
    constructor
    · rintro ⟨-, -, -, m, -, htext, hend, -⟩
      have hlength : wanted.toList.length = (s.toList.drop m).length := by
        rw [List.length_drop]
        omega
      rw [htext.eq_of_length hlength]
      exact List.drop_suffix m s.toList
    · rintro ⟨before, hs⟩
      refine ⟨before.length, ?_, _, before.length, h.spans_anything_self _ _, ?_, ?_, rfl⟩
      · simp only [← hs, List.length_append]
        omega
      · rw [← hs, List.drop_left]
      · rw [← hs, List.length_append]

end Search

end TextMatch

/-! ## The operator -/

namespace Condition

variable [Regex.Engine]

/-- The operator for regular expressions looks for a string that matches among the values compared;
without options no flag is set. -/
theorem fieldMatches_regex {pattern : String} {isMatch : String → Bool}
    (hcompile : Engine.compile pattern false false = .ok isMatch) (value? : Option Value)
    (vars : Document) :
    fieldMatches value? [("$regex", .string pattern)] vars =
      .ok ((compared value?).any (textMatches isMatch)) := by
  apply fieldMatches_comparison (by decide) (by decide)
  let ops : Document := [("$regex", .string pattern)]
  have hregex : Document.string? ops "$regex" = some pattern := by
    simp [ops, Document.string?, Document.get?]
  have hoptions : Document.string? ops "$options" = none := by
    simp [ops, Document.string?, Document.get?]
  change regexMatches value? ops = _
  simp only [regexMatches, hregex, hoptions, Option.getD_none, String.toList_empty,
    List.contains_nil, hcompile]
  cases value? with
  | none => rfl
  | some v =>
    cases v with
    | array items => rfl
    | _ => exact congrArg Except.ok (Bool.or_false _).symm

/-- On a name with a sign in front, which is no field, a regular expression is an error. -/
theorem docMatches_regex_of_isOperatorKey {field : String}
    (hfield : Expression.isOperatorKey field = true) (pattern : String) (doc vars : Document) :
    ∃ e, docMatches doc [(field, .document [("$regex", .string pattern)])] vars = .error e := by
  have heval : Expression.eval doc vars (.document [("$regex", .string pattern)]) =
      .error (.unsupportedOperator "$regex") := by
    rw [Expression.eval, if_neg (by decide), if_neg (by decide), if_neg (by decide),
      if_neg (by decide)]
  rw [docMatches_singleton, conditionMatches]
  split_ifs
  · exact ⟨_, rfl⟩
  · exact ⟨_, rfl⟩
  · exact ⟨_, rfl⟩
  · exact ⟨_, by rw [heval]; rfl⟩
  · exact ⟨_, rfl⟩

end Condition

namespace TextMatch

variable [Regex.Engine] {M : Meaning} {kind : TextMatch} {wanted : String}

/-- The operator of a search is decided on every value: it holds of those in which the search finds
its text. -/
theorem fieldMatches_pattern (h : Engine.Follows M)
    (hsize : Engine.compile (kind.pattern wanted true) false false ≠ .error .tooLarge)
    (value? : Option Value) (vars : Document) :
    Condition.fieldMatches value? [("$regex", .string (kind.pattern wanted true))] vars =
      .ok (decide (kind.Finds wanted value?)) := by
  obtain ⟨isMatch, hcompile⟩ := kind.compile_pattern h hsize
  have htext : Condition.textMatches isMatch = kind.isIn wanted := by
    funext v
    cases v with
    | string s =>
      exact Bool.eq_iff_iff.mpr
        ((kind.isMatch_iff_occurs h hcompile s).trans decide_eq_true_iff.symm)
    | _ => rfl
  rw [Condition.fieldMatches_regex hcompile, htext]
  refine congrArg Except.ok (Bool.eq_iff_iff.mpr ?_)
  rw [decide_eq_true_iff]
  exact (kind.finds_iff wanted value?).symm

end TextMatch

/-! ## The filter -/

namespace Query

variable {κ : Type}

/-- A single condition on a fresh query is left as it is by either connective. -/
theorem docMatches_pushFilter_empty [Regex.Engine] (connective : Connective)
    (filter doc vars : Document) :
    Condition.docMatches doc ((empty : Query κ).pushFilter connective filter).filter vars =
      Condition.docMatches doc filter vars := by
  change Condition.docMatches doc (Filters.normalized ⟨[⟨connective, filter⟩]⟩) vars = _
  rw [Filters.docMatches_normalized]
  exact Verdict.join_singleton _ _

/-- A call that searches for literal text succeeds on a fresh query. With an engine that goes by the
rules for writing patterns and grants the memory for this one, checking its filter never fails on a
field, and it holds of the documents in whose field the search finds the text, character by
character: in a string, or in an item of an array that is one. A name with a sign in front is no
field but names an operator, and is refused whenever it is checked. -/
theorem docMatches_text [Regex.Engine] {M : Meaning} (h : Engine.Follows M) (kind : TextMatch)
    (connective : Connective) (field wanted : String)
    (hsize : Engine.compile (kind.pattern wanted true) false false ≠ .error .tooLarge) :
    ∃ q : Query κ, Query.empty.apply (.text connective kind field wanted true) = .ok q ∧
      ∀ doc vars : Document,
        (Expression.isOperatorKey field = false →
          Condition.docMatches doc q.filter vars =
            .ok (decide (kind.Finds wanted (Document.atPath? doc field)))) ∧
        (Expression.isOperatorKey field = true →
          ∃ e, Condition.docMatches doc q.filter vars = .error e) := by
  let c : Comparison := ⟨field, "$regex", .string (kind.pattern wanted true)⟩
  have hcall : (Call.text connective kind field wanted true : Call κ).comparison? =
      some (connective, c) := rfl
  refine ⟨_, apply_of_comparison? Query.empty hcall, fun doc vars => ?_⟩
  have hdocument : Condition.docMatches doc (Filters.comparison c.field c.op c.operand) vars =
      Condition.docMatches doc c.document vars :=
    RawFilter.docMatches_document_singleton doc vars c.document
  rw [docMatches_pushFilter_empty, hdocument]
  constructor
  · intro hfield
    have hholds : Condition.docMatches doc c.document vars = c.holds doc vars :=
      Comparison.docMatches_document doc vars hfield (Call.isOperatorKey_of_comparison? hcall)
    rw [hholds]
    exact TextMatch.fieldMatches_pattern h hsize _ vars
  · intro hfield
    exact Condition.docMatches_regex_of_isOperatorKey hfield _ doc vars

/-- The dot and the star are characters, a line feed is no end of the text in front of it, and the
items of an array are searched one by one. -/
theorem docMatches_text_atEnd :
    let wanted := "a.b*"
    let verdict (q : Query Unit) (note : Value) := Condition.docMatches [("note", note)] q.filter []
    Engine.Follows builtinMeaning ∧
      Engine.compile (TextMatch.atEnd.pattern wanted true) false false ≠ .error .tooLarge ∧
      ∃ q : Query Unit, Query.empty.apply (.text .and .atEnd "note" wanted true) = .ok q ∧
        verdict q (.string "line\n(a.b*") = .ok true ∧
        verdict q (.string "aXbb") = .ok false ∧
        verdict q (.string "a.b*\n") = .ok false ∧
        verdict q (.array [.null, .string "a.b", .string "a.b*"]) = .ok true := by
  intro wanted verdict
  have hsize := builtin_compile_ne_tooLarge (TextMatch.atEnd.pattern wanted true) false false
  obtain ⟨q, hq, hdoc⟩ :=
    docMatches_text (κ := Unit) builtin_follows TextMatch.atEnd Connective.and "note" wanted hsize
  have hverdict (note : Value) := (hdoc [("note", note)] []).1 (by decide)
  refine ⟨builtin_follows, hsize, q, hq, ?_, ?_, ?_, ?_⟩
  all_goals exact (hverdict _).trans (congrArg Except.ok (by decide +kernel))

end Query

end DocQuery
