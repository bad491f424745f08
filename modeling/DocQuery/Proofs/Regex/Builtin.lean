import DocQuery.Proofs.Regex.Meaning
import DocQuery.Proofs.Regex.Spans
import DocQuery.Regex.Basic

/-!
# The rules of the engine

The engine that matches by sets of positions goes by the rules for writing patterns. A pattern
assembled of quoted characters, of `.*` and of anchors is read back as just these pieces, in their
order, whatever the characters are; and what the pieces match are the stretches of the text.

## Main definitions

* `builtinMeaning`: what patterns mean to the engine
* `Piece.pattern`: what a piece is read as

## Main results

* `readPattern?_pieces`: reading gives back the pieces
* `builtin_follows`: the engine goes by the rules

## Design notes

Reading decides by the character ahead. A quoted character either starts with a backslash or has no
meaning of its own, so it neither opens anything nor changes what was read in front of it; the only
look beyond a piece, for a question mark behind a repetition, finds none.
-/

namespace DocQuery.Regex

/-- What patterns mean to the engine: it matches the stretches of a pattern as it is read. -/
def builtinMeaning : Meaning where
  isMeta := metaCharacters.contains
  Spans pattern text i j :=
    ∃ p, readPattern? (String.ofList pattern) (startFlags false false) = some p ∧
      (Haystack.ofString (String.ofList text)).Spans p i j

namespace Piece

/-- What a piece stands for, without flags. -/
def pattern : Piece → Pattern
  | char c => .one (.single c)
  | anything => .rep (.one (.complement (.single '\n'))) 0 none
  | textStart => .assert .textStart
  | textEnd => .assert .textEnd

/-- The part that reading makes of a piece. -/
def part : Piece → Part
  | anything => ⟨pattern anything, 1, true⟩
  | piece => ⟨piece.pattern, 0, true⟩

/-- The number of steps that reading a piece takes. -/
def steps : Piece → Nat
  | anything => 2
  | _ => 1

@[simp]
theorem part_pattern (piece : Piece) : piece.part.pattern = piece.pattern := by
  cases piece <;> rfl

theorem part_depth_le (piece : Piece) : piece.part.depth ≤ 1 := by
  cases piece <;> simp [part]

theorem steps_le_length_text (piece : Piece) :
    piece.steps ≤ (builtinMeaning.text piece).length := by
  cases piece with
  | char c =>
    rw [Meaning.text, Meaning.quoted]
    split <;> simp [steps]
  | _ => simp [steps, Meaning.text]

/-- No piece starts with a question mark: one that is meant literally has a backslash in front. -/
theorem head?_written (pieces : List Piece) : (builtinMeaning.written pieces).head? ≠ some '?' := by
  cases pieces with
  | nil => simp [Meaning.written]
  | cons piece rest =>
    rw [Meaning.written_cons]
    cases piece with
    | char c =>
      rw [Meaning.text, Meaning.quoted]
      split
      · simp
      · next hc =>
        rintro hhead
        cases Option.some.inj hhead
        exact hc (by decide)
    | _ => simp [Meaning.text]

end Piece

/-! ## Steps of reading -/

/-- The state of reading without flags, with a text ahead. -/
def ahead (rest : List Char) : ReadState := ⟨rest, startFlags false false, []⟩

section Steps

variable {α β : Type} {fuel : Nat} {branches parts : List Part} {c : Char} {rest : List Char}

theorem bind_apply (x : Read α) (g : α → Read β) (st : ReadState) :
    (x >>= g) st = (x st).bind fun r => g r.1 r.2 := rfl

theorem peek?_apply (st : ReadState) : peek? st = some (st.rest.head?, st) := rfl

theorem skipBlanks_ahead : skipBlanks (ahead rest) = some ((), ahead rest) := rfl

/-- The characters that an alternation decides on itself. -/
def structureCharacters : List Char := ")|([?*+\x7b".toList

/-- Any other character starts a part. -/
theorem readAlternation_of_primitive (hc : c ∉ structureCharacters) {part : Part}
    {behind : List Char}
    (hpart : readPrimitive (ahead (c :: rest)) = some (part, ahead behind)) :
    readAlternation (fuel + 1) branches parts (ahead (c :: rest)) =
      readAlternation fuel branches (part :: parts) (ahead behind) := by
  rw [readAlternation, bind_apply, skipBlanks_ahead, Option.bind_some, bind_apply, peek?_apply,
    Option.bind_some]
  simp only [ahead, List.head?_cons] at hpart ⊢
  generalize hnext : some c = next?
  split
  case h_10 => rw [bind_apply, hpart, Option.bind_some]
  case h_1 => cases hnext
  -- The other branches are those of the characters in the list.
  all_goals
    cases hnext
    exact absurd (by decide) hc

/-- A star behind a part repeats it, unless a question mark follows. -/
theorem readAlternation_star {part : Part} (hpart : part.repeatable = true)
    (hrest : rest.head? ≠ some '?') :
    readAlternation (fuel + 1) branches (part :: parts) (ahead ('*' :: rest)) =
      readAlternation fuel branches (⟨.rep part.pattern 0 none, part.depth + 1, true⟩ :: parts)
        (ahead rest) := by
  have hlazy : skipLazy (ahead rest) = some ((), ahead rest) := by
    rw [skipLazy, bind_apply, peek?_apply, Option.bind_some]
    change (if rest.head? = some '?' then skip 1 else pure ()) (ahead rest) = _
    rw [if_neg hrest]
    rfl
  have hrepeat : repeatLast 0 none (part :: parts) =
      some (⟨.rep part.pattern 0 none, part.depth + 1, true⟩ :: parts) := by
    rw [repeatLast, if_pos hpart]
  have hskip : skip 1 (ahead ('*' :: rest)) = some ((), ahead rest) := rfl
  rw [readAlternation, bind_apply, skipBlanks_ahead, Option.bind_some, bind_apply, peek?_apply,
    Option.bind_some]
  change (skip 1 >>= fun _ => skipLazy >>= fun _ =>
    (repeatLast 0 none (part :: parts) : Read (List Part)) >>= fun parts =>
      readAlternation fuel branches parts) (ahead ('*' :: rest)) = _
  rw [bind_apply, hskip, Option.bind_some, bind_apply, hlazy, Option.bind_some, hrepeat]
  rfl

/-- A character without a meaning of its own stands for itself. -/
theorem readPrimitive_of_notMem (hc : c ∉ metaCharacters) :
    readPrimitive (ahead (c :: rest)) = some ((Piece.char c).part, ahead rest) := by
  have hnext : next (ahead (c :: rest)) = some (c, ahead rest) := rfl
  have hflags : (get : Read ReadState) (ahead (c :: rest)) =
      some (ahead (c :: rest), ahead (c :: rest)) := rfl
  rw [readPrimitive, bind_apply, hflags, Option.bind_some, bind_apply, hnext, Option.bind_some]
  dsimp only
  split
  case h_5 => rfl
  all_goals exact absurd (by decide) hc

/-- A character with a meaning of its own stands for itself behind a backslash. -/
theorem readPrimitive_backslash (hc : c ∈ metaCharacters) :
    readPrimitive (ahead ('\\' :: c :: rest)) = some ((Piece.char c).part, ahead rest) := by
  have hescapable : isEscapable c = true := by
    rw [isEscapable, List.contains_iff_mem.mpr hc, Bool.true_or]
  have hescape : readEscape (ahead (c :: rest)) = some (.char c, ahead rest) := by
    change (if isEscapable c then (pure (.char c) : Read Escape) else _) _ = _
    rw [if_pos hescapable]
    rfl
  change (readEscape (ahead (c :: rest))).bind _ = _
  rw [hescape]
  rfl

/-- Reading passes a piece and takes its part. -/
theorem readAlternation_piece (piece : Piece) (hrest : rest.head? ≠ some '?') :
    readAlternation (fuel + piece.steps) branches parts
        (ahead (builtinMeaning.text piece ++ rest)) =
      readAlternation fuel branches (piece.part :: parts) (ahead rest) := by
  cases piece with
  | char c =>
    rw [Meaning.text, Meaning.quoted]
    split
    · next hc =>
      have hbackslash : '\\' ∉ structureCharacters := by decide
      exact readAlternation_of_primitive hbackslash
        (readPrimitive_backslash (List.contains_iff_mem.mp hc))
    · next hc =>
      have hmeta : c ∉ metaCharacters := fun hmem => hc (List.contains_iff_mem.mpr hmem)
      have hstructure : structureCharacters ⊆ metaCharacters := by decide
      exact readAlternation_of_primitive (fun hmem => hmeta (hstructure hmem))
        (readPrimitive_of_notMem hmeta)
  | anything =>
    have hdot : readPrimitive (ahead ('.' :: '*' :: rest)) =
        some (⟨.one (.complement (.single '\n')), 0, true⟩, ahead ('*' :: rest)) := rfl
    change readAlternation (fuel + 1 + 1) branches parts (ahead ('.' :: '*' :: rest)) = _
    rw [readAlternation_of_primitive (by decide) hdot, readAlternation_star rfl hrest]
    rfl
  | textStart => exact readAlternation_of_primitive (by decide) rfl
  | textEnd => exact readAlternation_of_primitive (by decide) rfl

end Steps

/-! ## Whole patterns -/

/-- Reading passes all pieces up to the end of the text and takes their parts, last first. -/
theorem readAlternation_pieces (pieces : List Piece) {fuel : Nat} (parts : List Part)
    (hfuel : (builtinMeaning.written pieces).length < fuel) :
    readAlternation fuel [] parts (ahead (builtinMeaning.written pieces)) =
      some (Part.seq ((pieces.map Piece.part).reverse ++ parts), ahead []) := by
  induction pieces generalizing fuel parts with
  | nil =>
    obtain ⟨fuel, rfl⟩ := Nat.exists_eq_add_one_of_ne_zero (Nat.ne_of_gt hfuel)
    rfl
  | cons piece rest ih =>
    have hsteps := piece.steps_le_length_text
    rw [Meaning.written_cons, List.length_append] at hfuel
    obtain ⟨left, rfl⟩ : ∃ left, fuel = left + piece.steps :=
      ⟨fuel - piece.steps, by omega⟩
    rw [Meaning.written_cons, readAlternation_piece piece (Piece.head?_written rest),
      ih (piece.part :: parts) (by omega)]
    simp

theorem Part.seq_pattern (parts : List Part) :
    (Part.seq parts).pattern = .seqAll (parts.reverse.map (·.pattern)) := by
  match parts with
  | [] => rfl
  | [_] => rfl
  | _ :: _ :: _ => rfl

/-- A sequence nests at most one deeper than its parts. -/
theorem Part.seq_depth_le {parts : List Part} {bound : Nat}
    (hparts : ∀ part ∈ parts, part.depth ≤ bound) : (Part.seq parts).depth ≤ bound + 1 := by
  match parts with
  | [] => exact Nat.zero_le _
  | [part] => exact (hparts part List.mem_cons_self).trans (Nat.le_succ bound)
  | first :: second :: rest =>
    refine Nat.succ_le_succ ?_
    refine List.foldlRecOn (motive := (· ≤ bound)) _ max (Nat.zero_le bound) ?_
    intro most hmost depth hdepth
    obtain ⟨part, hpart, rfl⟩ := List.mem_map.mp hdepth
    exact max_le hmost (hparts part hpart)

/-- A text assembled of pieces is read as the pieces, one after another. -/
theorem readPattern?_pieces (pieces : List Piece) :
    readPattern? (String.ofList (builtinMeaning.written pieces)) (startFlags false false) =
      some (.seqAll (pieces.map Piece.pattern)) := by
  have hread : (readAlternation (2 * (builtinMeaning.written pieces).length + 2) [] []).run
      (ahead (builtinMeaning.written pieces)) =
      some (Part.seq (pieces.map Piece.part).reverse, ahead []) :=
    (readAlternation_pieces pieces [] (by omega)).trans (by rw [List.append_nil])
  have hdepth : (Part.seq (pieces.map Piece.part).reverse).depth ≤ maxNesting := by
    have hparts : ∀ part ∈ (pieces.map Piece.part).reverse, part.depth ≤ 1 := by
      intro part hpart
      obtain ⟨piece, -, rfl⟩ := List.mem_map.mp (List.mem_reverse.mp hpart)
      exact piece.part_depth_le
    exact (Part.seq_depth_le hparts).trans (by decide)
  rw [readPattern?, String.toList_ofList]
  change ((readAlternation (2 * (builtinMeaning.written pieces).length + 2) [] []).run
    (ahead (builtinMeaning.written pieces))).bind _ = _
  rw [hread, Option.bind_some]
  simp only [ahead, List.isEmpty_nil, hdepth, decide_true, Bool.and_self, if_true,
    Part.seq_pattern, List.reverse_reverse, List.map_map]
  congr 2
  exact List.map_congr_left fun piece _ => piece.part_pattern

/-! ## What the pieces match -/

theorem CharClass.contains_single (c d : Char) : (single c).contains d = true ↔ c = d := by
  rw [single, contains, Bool.and_eq_true, decide_eq_true_eq, decide_eq_true_eq]
  constructor
  · rintro ⟨hcd, hdc⟩
    exact Char.le_antisymm hcd hdc
  · rintro rfl
    exact ⟨Char.le_refl c, Char.le_refl c⟩

/-- What stands at each position of a text: the characters before it and behind it. -/
theorem getElem?_contexts (before? : Option Char) (chars : List Char) (i : Nat) :
    (contexts before? chars)[i]? =
      if i ≤ chars.length then some ⟨if i = 0 then before? else chars[i - 1]?, chars[i]?⟩
      else none := by
  induction chars generalizing before? i with
  | nil => cases i <;> simp [contexts]
  | cons c rest ih =>
    cases i with
    | zero => simp [contexts]
    | succ i =>
      rw [contexts, List.getElem?_cons_succ, ih]
      cases i <;> simp

namespace Haystack

variable {h : Haystack} {i j : Nat}

theorem spans_seqAll_cons (p : Pattern) (ps : List Pattern) :
    h.Spans (.seqAll (p :: ps)) i j ↔ ∃ m, h.Spans p i m ∧ h.Spans (.seqAll ps) m j := by
  cases ps with
  | nil => simp [Pattern.seqAll, Spans]
  | cons q ps => rfl

theorem spans_char (c : Char) :
    h.Spans (Piece.char c).pattern i j ↔ h.chars[i]? = some c ∧ j = i + 1 := by
  simp [Piece.pattern, Spans, Option.any_eq_true, CharClass.contains_single]

/-- The dot matches a character that does not end a line. -/
theorem spans_dot :
    h.Spans (.one (.complement (.single '\n'))) i j ↔
      (∃ c, h.chars[i]? = some c ∧ c ≠ '\n') ∧ j = i + 1 := by
  have hcontains (c : Char) :
      (CharClass.complement (.single '\n')).contains c = true ↔ c ≠ '\n' := by
    rw [CharClass.contains, Bool.not_eq_true', Bool.eq_false_iff, ne_eq, CharClass.contains_single,
      ne_comm]
  rw [Spans, Option.any_eq_true]
  simp only [hcontains]

theorem spans_textStart {s : String} :
    (ofString s).Spans Piece.textStart.pattern i j ↔ i = 0 ∧ j = i := by
  have hstart : ((ofString s).contexts[i]?).any Assertion.textStart.holds = true ↔ i = 0 := by
    rw [ofString, getElem?_contexts]
    by_cases hzero : i = 0
    · simp [hzero, Assertion.holds]
    · split
      · have hbefore : i - 1 < s.toList.length := by omega
        simp [hzero, Assertion.holds, List.getElem?_eq_getElem hbefore]
      · simp [hzero]
  rw [Piece.pattern, Spans, hstart]

theorem spans_textEnd {s : String} :
    (ofString s).Spans Piece.textEnd.pattern i j ↔ i = s.toList.length ∧ j = i := by
  have hend : ((ofString s).contexts[i]?).any Assertion.textEnd.holds = true ↔
      i = s.toList.length := by
    rw [ofString, getElem?_contexts]
    split
    · simp only [Option.any_some, Assertion.holds, Option.isNone_iff_eq_none,
        List.getElem?_eq_none_iff]
      omega
    · simp only [Option.any_none, Bool.false_eq_true, false_iff]
      omega
  rw [Piece.pattern, Spans, hend]

end Haystack

/-! ## The rules -/

namespace builtinMeaning

variable {text : List Char} {i j : Nat}

/-- A pattern means what it is read as. -/
theorem spans_of_read {pattern : List Char} {p : Pattern}
    (hread : readPattern? (String.ofList pattern) (startFlags false false) = some p) :
    builtinMeaning.Spans pattern text i j ↔
      (Haystack.ofString (String.ofList text)).Spans p i j := by
  constructor
  · rintro ⟨q, hq, hspan⟩
    rw [hread] at hq
    exact Option.some.inj hq ▸ hspan
  · intro hspan
    exact ⟨p, hread, hspan⟩

theorem spans_written (pieces : List Piece) :
    builtinMeaning.Spans (builtinMeaning.written pieces) text i j ↔
      (Haystack.ofString (String.ofList text)).Spans (.seqAll (pieces.map Piece.pattern)) i j :=
  spans_of_read (readPattern?_pieces pieces)

theorem spans_text (piece : Piece) :
    builtinMeaning.Spans (builtinMeaning.text piece) text i j ↔
      (Haystack.ofString (String.ofList text)).Spans piece.pattern i j := by
  rw [← Meaning.written_singleton, spans_written]
  rfl

theorem spans_char (c : Char) :
    builtinMeaning.Spans (builtinMeaning.text (.char c)) text i j ↔
      text[i]? = some c ∧ j = i + 1 := by
  rw [spans_text, Haystack.spans_char, Haystack.ofString, String.toList_ofList]

theorem spans_dot :
    builtinMeaning.Spans ['.'] text i j ↔
      (Haystack.ofString (String.ofList text)).Spans (.one (.complement (.single '\n'))) i j :=
  spans_of_read rfl

end builtinMeaning

theorem builtin_compile (pattern : String) (ignoreCase multiLine : Bool) :
    builtin.compile pattern ignoreCase multiLine =
      match readPattern? pattern (startFlags ignoreCase multiLine) with
      | some p => .ok fun text => (Haystack.ofString text).isMatch p
      | none => .error .malformed := rfl

theorem builtin_compile_eq_ok_iff {pattern : String} {ignoreCase multiLine : Bool}
    {isMatch : String → Bool} :
    builtin.compile pattern ignoreCase multiLine = .ok isMatch ↔
      ∃ p, readPattern? pattern (startFlags ignoreCase multiLine) = some p ∧
        isMatch = fun text => (Haystack.ofString text).isMatch p := by
  rw [builtin_compile]
  cases readPattern? pattern (startFlags ignoreCase multiLine) with
  | none => simp
  | some p => simp [eq_comm]

/-- The engine takes patterns of any size. -/
theorem builtin_compile_ne_tooLarge (pattern : String) (ignoreCase multiLine : Bool) :
    builtin.compile pattern ignoreCase multiLine ≠ .error .tooLarge := by
  rw [builtin_compile]
  cases readPattern? pattern (startFlags ignoreCase multiLine) with
  | none => nofun
  | some p => nofun

/-- The engine goes by the rules for writing patterns. -/
theorem builtin_follows : Engine.Follows builtinMeaning where
  escape text := rfl
  wellFormed pieces := by
    rw [builtin_compile_eq_ok_iff.mpr ⟨_, readPattern?_pieces pieces, rfl⟩]
    nofun
  search {pattern isMatch} h text := by
    obtain ⟨p, hread, rfl⟩ := builtin_compile_eq_ok_iff.mp h
    rw [Haystack.isMatch_iff]
    simp only [builtinMeaning, String.ofList_toList, hread, Option.some_inj, exists_eq_left']
    rfl
  literal {c} hc text i j := by
    have htext : builtinMeaning.text (.char c) = [c] := by
      rw [Meaning.text, Meaning.quoted, hc]
      rfl
    rw [← htext, builtinMeaning.spans_char]
  escaped {c} hc text i j := by
    have htext : builtinMeaning.text (.char c) = ['\\', c] := by
      rw [Meaning.text, Meaning.quoted, hc]
      rfl
    rw [← htext, builtinMeaning.spans_char]
  dot text i j := by
    rw [builtinMeaning.spans_dot, Haystack.spans_dot, Haystack.ofString, String.toList_ofList]
  star text i j := by
    rw [show ['.', '*'] = builtinMeaning.text .anything from rfl, builtinMeaning.spans_text]
    have hdot : builtinMeaning.Spans ['.'] text =
        (Haystack.ofString (String.ofList text)).Spans (.one (.complement (.single '\n'))) := by
      funext i j
      exact propext builtinMeaning.spans_dot
    rw [hdot, Chain.reflTransGen_iff]
    simp [Piece.pattern, Haystack.Spans]
  textStart text i j := by
    rw [show ['^'] = builtinMeaning.text .textStart from rfl, builtinMeaning.spans_text]
    exact Haystack.spans_textStart
  textEnd text i j := by
    rw [show ['$'] = builtinMeaning.text .textEnd from rfl, builtinMeaning.spans_text,
      Haystack.spans_textEnd, String.toList_ofList]
  sequence piece rest text i j := by
    rw [← Meaning.written_cons, builtinMeaning.spans_written, List.map_cons,
      Haystack.spans_seqAll_cons]
    simp only [builtinMeaning.spans_text, builtinMeaning.spans_written]

end DocQuery.Regex
