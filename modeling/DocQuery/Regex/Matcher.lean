import DocQuery.Regex.Pattern

/-!
# Matching

A pattern relates positions of a text: from a set of positions it leads to the set of positions
that a match can end at. Sets of positions are the bits of a natural number, so that one step of
matching is an intersection and a shift. No backtracking is needed, and a repetition without bound
is a least fixed point.

## Main definitions

* `Haystack`: a text with what stands on both sides of each position
* `Walk`: a pattern on one text, with the positions at which its classes and assertions hold
* `Haystack.reach`: the positions that a pattern leads to
* `Haystack.isMatch`: whether a pattern matches anywhere in a text

## Design notes

A repetition walks through its pattern once for every step of the fixed point, so the positions of
classes and assertions are found once for a text, before the walk, and not once for every step.
-/

namespace DocQuery.Regex

/-- What stands on both sides of a position. -/
structure Context where
  before? : Option Char
  after? : Option Char

namespace Assertion

/-- Whether there is a word character. -/
def isWordAt (unicode : Bool) : Option Char → Bool
  | none => false
  | some c => if unicode then Unicode.isWord c else CharClass.asciiWord.contains c

/-- Whether an assertion holds between two characters. -/
def holds (a : Assertion) (ctx : Context) : Bool :=
  match a with
  | textStart => ctx.before?.isNone
  | textEnd => ctx.after?.isNone
  | lineStart false => ctx.before?.isNone || ctx.before? == some '\n'
  | lineEnd false => ctx.after?.isNone || ctx.after? == some '\n'
  | lineStart true =>
    ctx.before?.isNone || ctx.before? == some '\n' ||
      (ctx.before? == some '\r' && ctx.after? != some '\n')
  | lineEnd true =>
    ctx.after?.isNone || ctx.after? == some '\r' ||
      (ctx.after? == some '\n' && ctx.before? != some '\r')
  | wordBoundary u => isWordAt u ctx.before? != isWordAt u ctx.after?
  | notWordBoundary u => isWordAt u ctx.before? == isWordAt u ctx.after?
  | wordStart u => !isWordAt u ctx.before? && isWordAt u ctx.after?
  | wordEnd u => isWordAt u ctx.before? && !isWordAt u ctx.after?
  | wordStartHalf u => !isWordAt u ctx.before?
  | wordEndHalf u => !isWordAt u ctx.after?

end Assertion

/-- The contexts of the positions of a text that follows the given character. -/
def contexts : Option Char → List Char → List Context
  | before?, [] => [⟨before?, none⟩]
  | before?, c :: rest => ⟨before?, some c⟩ :: contexts (some c) rest

/-- The number whose bit at each index tells whether the item there satisfies a condition. -/
def maskOf {α : Type} (p : α → Bool) (xs : List α) : Nat :=
  xs.foldr (fun x mask => 2 * mask + (if p x then 1 else 0)) 0

theorem testBit_maskOf {α : Type} (p : α → Bool) (xs : List α) (i : Nat) :
    (maskOf p xs).testBit i = (xs[i]?).any p := by
  induction xs generalizing i with
  | nil => simp [maskOf]
  | cons x rest ih =>
    have unfolded : maskOf p (x :: rest) = 2 * maskOf p rest + (if p x then 1 else 0) := rfl
    cases i with
    | zero =>
      rw [Nat.testBit_zero, unfolded]
      by_cases h : p x
      · have odd : (2 * maskOf p rest + 1) % 2 = 1 := by omega
        simp [h, odd]
      · simp [h]
    | succ i =>
      rw [Nat.testBit_succ, unfolded]
      have : (2 * maskOf p rest + if p x = true then 1 else 0) / 2 = maskOf p rest := by
        split <;> omega
      rw [this, ih]
      simp

/-- A pattern on one text: each class is the set of the positions in front of its characters, and
each assertion the set of the positions at which it holds. -/
inductive Walk where
  | stay
  | read (positions : Nat)
  | keep (positions : Nat)
  | seq (v w : Walk)
  | alt (v w : Walk)
  | rep (w : Walk) (least : Nat) (most? : Option Nat)
  deriving DecidableEq

namespace Walk

/-- Applies a step a number of times, or until it changes nothing. -/
def times (step : Nat → Nat) : Nat → Nat → Nat
  | 0, set => set
  | count + 1, set =>
    let next := step set
    if next = set then set else times step count next

/-- The positions that at most the given number of steps lead to from `start`, when `set` holds
those that fewer steps lead to. Stops when a step adds nothing. -/
def grow (step : Nat → Nat) (start : Nat) : Nat → Nat → Nat
  | 0, set => set
  | count + 1, set =>
    let next := start ||| step set
    if next = set then set else grow step start count next

/-- The positions that a walk can end at, when it starts at one of the given positions and the text
has the given length. -/
def reach (length : Nat) : Walk → Nat → Nat
  | stay, set => set
  | read positions, set => (set &&& positions) <<< 1
  | keep positions, set => set &&& positions
  | seq v w, set => w.reach length (v.reach length set)
  | alt v w, set => v.reach length set ||| w.reach length set
  | rep w least most?, set =>
    let start := times (w.reach length) least set
    let more := match most? with
      | some most => most - least
      | none => length + 1
    grow (w.reach length) start more start

end Walk

/-- A text to match. -/
structure Haystack where
  chars : List Char
  contexts : List Context

namespace Haystack

/-- The haystack of a text. -/
def ofString (s : String) : Haystack := ⟨s.toList, Regex.contexts none s.toList⟩

/-- Every position, from before the first character to behind the last. -/
def allPositions (h : Haystack) : Nat := 2 ^ (h.chars.length + 1) - 1

/-- A pattern on the text. -/
def walk (h : Haystack) : Pattern → Walk
  | .empty => .stay
  | .one c => .read (maskOf c.contains h.chars)
  | .assert a => .keep (maskOf a.holds h.contexts)
  | .seq p q => .seq (h.walk p) (h.walk q)
  | .alt p q => .alt (h.walk p) (h.walk q)
  | .rep p least most? => .rep (h.walk p) least most?

/-- The positions that a match of the pattern can end at, when it starts at one of the given
positions. -/
def reach (h : Haystack) (p : Pattern) (set : Nat) : Nat := (h.walk p).reach h.chars.length set

/-- Whether a pattern matches anywhere in the text. -/
def isMatch (h : Haystack) (p : Pattern) : Bool := h.reach p h.allPositions != 0

end Haystack

end DocQuery.Regex
