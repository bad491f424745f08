import DocQuery.Regex.Engine
import Mathlib.Data.List.Infix
import Mathlib.Logic.Relation

/-!
# What an engine for regular expressions promises

A pattern matches stretches of a text. Of the rules for writing patterns a search for literal text
takes quoted characters, the dot, the star and the two anchors. An engine that follows these rules
finds quoted text where it stands, whatever the characters are.

## Main definitions

* `Piece`: a character, `.*`, or an anchor
* `Meaning`: which characters need quoting, and what patterns match
* `Meaning.written`: pieces as they are written, one after another
* `Engine.Follows`: an engine goes by a meaning of patterns, and the meaning by the rules

## Main results

* `Engine.Follows.spans_chars_append`: what quoted characters match
* `Engine.Follows.compile_eq_ok`: what can keep pieces from compiling

## Design notes

The rules speak of stretches, of which an engine shows only whether there is one. So the stretches
that a pattern matches are part of its meaning, and each operator has a rule of its own.
-/

namespace DocQuery.Regex

/-- What a search for literal text is assembled of. -/
inductive Piece where
  | char (c : Char)
  | anything
  | textStart
  | textEnd

/-- What patterns mean to an engine. -/
structure Meaning where
  /-- Whether a character has a meaning of its own, so that only with a backslash in front it stands
  for itself. -/
  isMeta (c : Char) : Bool
  /-- The stretches of a text, from one position to another, that a pattern matches. Positions count
  characters. -/
  Spans (pattern text : List Char) (i j : Nat) : Prop

namespace Meaning

variable (M : Meaning)

/-- A character, quoted if it has a meaning of its own. -/
def quoted (c : Char) : List Char := if M.isMeta c then ['\\', c] else [c]

/-- A piece as it is written. -/
def text : Piece → List Char
  | .char c => M.quoted c
  | .anything => ['.', '*']
  | .textStart => ['^']
  | .textEnd => ['$']

/-- Pieces as they are written, one after another. -/
def written (pieces : List Piece) : List Char := pieces.flatMap M.text

theorem written_cons (piece : Piece) (rest : List Piece) :
    M.written (piece :: rest) = M.text piece ++ M.written rest := List.flatMap_cons

theorem written_append (first second : List Piece) :
    M.written (first ++ second) = M.written first ++ M.written second := List.flatMap_append

@[simp]
theorem written_singleton (piece : Piece) : M.written [piece] = M.text piece :=
  (M.written_cons piece []).trans (List.append_nil _)

end Meaning

/-- An engine goes by a meaning of patterns without flags, and the meaning by the rules for writing
them. -/
structure Engine.Follows [Engine] (M : Meaning) : Prop where
  /-- Escaping quotes the characters of a text. -/
  escape (text : String) : Engine.escape text = String.ofList (text.toList.flatMap M.quoted)
  /-- Pieces one after another are written by the rules. -/
  wellFormed (pieces : List Piece) :
    Engine.compile (String.ofList (M.written pieces)) false false ≠ .error .malformed
  /-- Searching finds whether there is a stretch that the pattern matches. -/
  search {pattern : String} {isMatch : String → Bool}
    (h : Engine.compile pattern false false = .ok isMatch) (text : String) :
    isMatch text = true ↔
      ∃ i, i ≤ text.toList.length ∧ ∃ j, M.Spans pattern.toList text.toList i j
  /-- A character without a meaning of its own stands for itself. -/
  literal {c : Char} (hc : M.isMeta c = false) (text : List Char) (i j : Nat) :
    M.Spans [c] text i j ↔ text[i]? = some c ∧ j = i + 1
  /-- Any other character stands for itself behind a backslash. -/
  escaped {c : Char} (hc : M.isMeta c = true) (text : List Char) (i j : Nat) :
    M.Spans ['\\', c] text i j ↔ text[i]? = some c ∧ j = i + 1
  /-- The dot stands for any character that does not end a line. -/
  dot (text : List Char) (i j : Nat) :
    M.Spans ['.'] text i j ↔ (∃ c, text[i]? = some c ∧ c ≠ '\n') ∧ j = i + 1
  /-- The star repeats what is in front of it any number of times. -/
  star (text : List Char) (i j : Nat) :
    M.Spans ['.', '*'] text i j ↔ Relation.ReflTransGen (M.Spans ['.'] text) i j
  /-- The caret matches at the start of the text. -/
  textStart (text : List Char) (i j : Nat) : M.Spans ['^'] text i j ↔ i = 0 ∧ j = i
  /-- The dollar sign matches at the end of the text. -/
  textEnd (text : List Char) (i j : Nat) : M.Spans ['$'] text i j ↔ i = text.length ∧ j = i
  /-- Pieces match one after another. -/
  sequence (piece : Piece) (rest : List Piece) (text : List Char) (i j : Nat) :
    M.Spans (M.text piece ++ M.written rest) text i j ↔
      ∃ m, M.Spans (M.text piece) text i m ∧ M.Spans (M.written rest) text m j

namespace Engine.Follows

variable [Engine] {M : Meaning} (h : Engine.Follows M)
include h

theorem escape_eq (text : String) :
    Engine.escape text = String.ofList (M.written (text.toList.map .char)) := by
  rw [h.escape, Meaning.written, List.flatMap_map]
  rfl

/-- Pieces compile unless they take too much memory. -/
theorem compile_eq_ok {pieces : List Piece}
    (hsize : Engine.compile (String.ofList (M.written pieces)) false false ≠ .error .tooLarge) :
    ∃ isMatch, Engine.compile (String.ofList (M.written pieces)) false false = .ok isMatch := by
  have hform := h.wellFormed pieces
  cases hcompile : Engine.compile (String.ofList (M.written pieces)) false false with
  | ok isMatch => exact ⟨isMatch, rfl⟩
  | error refusal =>
    cases refusal with
    | malformed => exact absurd hcompile hform
    | tooLarge => exact absurd hcompile hsize

theorem spans_char (c : Char) (text : List Char) (i j : Nat) :
    M.Spans (M.text (.char c)) text i j ↔ text[i]? = some c ∧ j = i + 1 := by
  rw [Meaning.text, Meaning.quoted]
  cases hc : M.isMeta c with
  | true => exact h.escaped hc text i j
  | false => exact h.literal hc text i j

/-- Nothing at all is matched by a dot with a star. -/
theorem spans_anything_self (text : List Char) (i : Nat) :
    M.Spans (M.text .anything) text i i :=
  (h.star text i i).mpr .refl

/-- Quoted characters match the stretch that holds them, and what is behind them matches behind
it. -/
theorem spans_chars_append (wanted : List Char) (rest : List Piece) (text : List Char) (i j : Nat) :
    M.Spans (M.written (wanted.map .char ++ rest)) text i j ↔
      wanted <+: text.drop i ∧ M.Spans (M.written rest) text (i + wanted.length) j := by
  induction wanted generalizing i with
  | nil => simp
  | cons c wanted ih =>
    rw [List.map_cons, List.cons_append, Meaning.written_cons, h.sequence]
    simp only [h.spans_char, ih]
    constructor
    · rintro ⟨m, ⟨hc, rfl⟩, hwanted, hrest⟩
      obtain ⟨hi, rfl⟩ := List.getElem?_eq_some_iff.mp hc
      rw [List.drop_eq_getElem_cons hi, List.length_cons, Nat.add_comm wanted.length,
        ← Nat.add_assoc]
      exact ⟨List.cons_prefix_cons.mpr ⟨rfl, hwanted⟩, hrest⟩
    · rintro ⟨hstarts, hrest⟩
      have hi : i < text.length := by
        have hlength := hstarts.length_le
        simp only [List.length_cons, List.length_drop] at hlength
        omega
      rw [List.drop_eq_getElem_cons hi, List.cons_prefix_cons] at hstarts
      rw [List.length_cons, Nat.add_comm wanted.length, ← Nat.add_assoc] at hrest
      exact ⟨i + 1, ⟨by rw [List.getElem?_eq_getElem hi, hstarts.1], rfl⟩, hstarts.2, hrest⟩

/-- Quoted characters between two pieces match where both of them match around the stretch. -/
theorem spans_between (first last : Piece) (wanted text : List Char) (i j : Nat) :
    M.Spans (M.written (first :: wanted.map .char ++ [last])) text i j ↔
      ∃ m, M.Spans (M.text first) text i m ∧ wanted <+: text.drop m ∧
        M.Spans (M.text last) text (m + wanted.length) j := by
  rw [List.cons_append, Meaning.written_cons, h.sequence]
  simp only [h.spans_chars_append, Meaning.written_singleton]

end Engine.Follows

end DocQuery.Regex
