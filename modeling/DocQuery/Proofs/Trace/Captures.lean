import DocQuery.Trace
import Mathlib.Data.List.Basic

/-!
# Captures of a trace

All captures share one counter and one buffer. The buffer starts afresh when a capture is opened
while none is open and when a capture takes the lines, and it collects what is emitted from then on,
whichever captures are opened and closed in between. So no line is seen that was emitted while no
capture was open, and no line is taken twice.

## Main definitions

* `Trace.Event`: what callers do with captures
* `Trace.Session`: the captures that are open, the trace, and what was taken from it
* `Trace.run`: the session that a list of events leads to, if each of them is possible
* `Trace.IsResetAt`: the events with which the buffer starts afresh
* `Trace.Session.Reflects`: what a session shows of the events so far

## Main results

* `Trace.Session.Reflects.step`: one event more
* `Trace.reflects_of_run`: every session of a run reflects the events so far
-/

namespace DocQuery.Trace

/-- What callers do with captures, which are numbered in the order in which they are opened. -/
inductive Event where
  | opens
  | closes (capture : Nat)
  | emits (line : String)
  | takes (capture : Nat)
  deriving DecidableEq

/-- The open captures, how many were opened so far, the trace, and what was taken so far. -/
structure Session where
  captures : List Nat
  opened : Nat
  trace : Trace
  taken : List (List String)
  deriving DecidableEq

namespace Session

/-- No capture was opened yet. -/
def start : Session := ⟨[], 0, Trace.empty, []⟩

/-- What an event leads to. Only an open capture can be closed or taken from. -/
def step (s : Session) : Event → Option Session
  | .opens => some ⟨s.captures ++ [s.opened], s.opened + 1, s.trace.open, s.taken⟩
  | .closes capture =>
    if capture ∈ s.captures then
      some { s with captures := s.captures.erase capture, trace := s.trace.close }
    else none
  | .emits line => some { s with trace := s.trace.emit line }
  | .takes capture =>
    if capture ∈ s.captures then
      some { s with trace := s.trace.take.2, taken := s.taken ++ [s.trace.take.1] }
    else none

/-- The lines of a capture, if it is open. -/
def lines? (s : Session) (capture : Nat) : Option (List String) :=
  if capture ∈ s.captures then some s.trace.lines else none

end Session

/-- The session that a list of events leads to, if each of them is possible. -/
def run (events : List Event) : Option Session := events.foldlM Session.step Session.start

/-! ## What events come to -/

/-- The line that an event emits, if it emits one. -/
def Event.line? : Event → Option String
  | emits line => some line
  | _ => none

/-- Whether an event closes a capture. -/
def Event.isClosing : Event → Bool
  | closes _ => true
  | _ => false

/-- The number of captures that are open after the events: those opened without those closed. -/
def openAfter (events : List Event) : Nat :=
  events.count .opens - events.countP Event.isClosing

/-- The lines that events emit. -/
def emitted (events : List Event) : List String := events.filterMap Event.line?

/-- The lines that events emit while a capture is open. -/
def heard (events : List Event) : List String :=
  (List.range events.length).filterMap fun k =>
    if 0 < openAfter (events.take k) then events[k]?.bind Event.line? else none

/-- The event at a position opens a capture while none is open, or takes the lines. -/
def IsResetAt (events : List Event) (k : Nat) : Prop :=
  match events[k]? with
  | some .opens => openAfter (events.take k) = 0
  | some (.takes _) => True
  | _ => False

/-- The last position of such an event. -/
def IsLastReset (events : List Event) (k : Nat) : Prop :=
  IsResetAt events k ∧ ∀ j, IsResetAt events j → j ≤ k

/-- What a session shows of the events so far. -/
structure Session.Reflects (s : Session) (events : List Event) : Prop where
  openCaptures : s.trace.openCaptures = s.captures.length
  balance : s.captures.length + events.countP Event.isClosing = events.count .opens
  /-- Nothing is kept while no capture is open. -/
  idle : s.captures = [] → s.trace.lines = []
  /-- Every open capture has the lines emitted since the last reset. -/
  window : ∀ capture ∈ s.captures, ∃ k, IsLastReset events k ∧
    s.lines? capture = some (emitted (events.drop (k + 1)))
  /-- What was taken so far and what is still there, one after the other, are lines emitted while a
  capture was open, in order and none twice. -/
  heard : (s.taken.flatten ++ s.trace.lines).Sublist (heard events)

/-! ## One event more -/

variable {events more : List Event} {e : Event} {s next : Session} {j k : Nat}

theorem emitted_append : emitted (events ++ more) = emitted events ++ emitted more :=
  List.filterMap_append

theorem emitted_singleton : emitted [e] = e.line?.toList := by
  cases e <;> rfl

theorem heard_concat : heard (events ++ [e]) =
    heard events ++ if 0 < openAfter events then e.line?.toList else [] := by
  have hold : ∀ k ∈ List.range events.length,
      (if 0 < openAfter ((events ++ [e]).take k) then (events ++ [e])[k]?.bind Event.line?
        else none) = if 0 < openAfter (events.take k) then events[k]?.bind Event.line? else none := by
    intro k hk
    have hlt := List.mem_range.1 hk
    rw [List.take_append_of_le_length (Nat.le_of_lt hlt), List.getElem?_append_left hlt]
  rw [heard, List.length_append, List.length_singleton, List.range_succ, List.filterMap_append,
    List.filterMap_congr hold]
  refine congrArg (heard events ++ ·) ?_
  have htake : (events ++ [e]).take events.length = events := List.take_left' rfl
  by_cases hopen : 0 < openAfter events
  · cases e <;> simp [htake, hopen, Event.line?]
  · simp [htake, hopen]

theorem isResetAt_append (hj : j < events.length) :
    IsResetAt (events ++ more) j ↔ IsResetAt events j := by
  rw [IsResetAt, IsResetAt, List.getElem?_append_left hj,
    List.take_append_of_le_length (Nat.le_of_lt hj)]

theorem IsResetAt.lt_length (h : IsResetAt events j) : j < events.length := by
  refine Decidable.byContradiction fun hj => ?_
  rw [IsResetAt, List.getElem?_eq_none (Nat.le_of_not_lt hj)] at h
  exact h

/-- A reset at the end is the last one. -/
theorem isLastReset_concat (h : IsResetAt (events ++ [e]) events.length) :
    IsLastReset (events ++ [e]) events.length := by
  refine ⟨h, fun j hj => ?_⟩
  have hlt := hj.lt_length
  rw [List.length_append, List.length_singleton] at hlt
  exact Nat.le_of_lt_succ hlt

/-- Without a reset at the end, the last one stays. -/
theorem IsLastReset.concat (h : IsLastReset events k)
    (hend : ¬ IsResetAt (events ++ [e]) events.length) : IsLastReset (events ++ [e]) k := by
  refine ⟨(isResetAt_append h.1.lt_length).2 h.1, fun j hj => ?_⟩
  have hlt := hj.lt_length
  rw [List.length_append, List.length_singleton] at hlt
  have hne : j ≠ events.length := by
    rintro rfl
    exact hend hj
  exact h.2 j ((isResetAt_append (by omega)).1 hj)

theorem isResetAt_length :
    IsResetAt (events ++ [e]) events.length ↔
      e = .opens ∧ openAfter events = 0 ∨ ∃ capture, e = .takes capture := by
  rw [IsResetAt, List.getElem?_concat_length, List.take_left' rfl]
  cases e <;> simp

namespace Session

theorem lines?_of_mem {capture : Nat} (h : capture ∈ s.captures) :
    s.lines? capture = some s.trace.lines := if_pos h

namespace Reflects

theorem openAfter_eq (h : s.Reflects events) : openAfter events = s.captures.length := by
  have hbalance := h.balance
  unfold openAfter
  omega

/-- Behind the last reset, an event that is none adds its line to those of the open captures. -/
theorem window_concat (h : s.Reflects events) (hopen : s.captures ≠ [])
    (hend : ¬ IsResetAt (events ++ [e]) events.length) :
    ∃ k, IsLastReset (events ++ [e]) k ∧
      s.trace.lines ++ e.line?.toList = emitted ((events ++ [e]).drop (k + 1)) := by
  obtain ⟨first, hfirst⟩ := List.exists_mem_of_ne_nil _ hopen
  obtain ⟨k, hlast, hlines⟩ := h.window first hfirst
  refine ⟨k, hlast.concat hend, ?_⟩
  rw [lines?_of_mem hfirst] at hlines
  rw [Option.some.inj hlines, List.drop_append_of_le_length hlast.1.lt_length, emitted_append,
    emitted_singleton]

theorem opens (h : s.Reflects events) :
    Reflects ⟨s.captures ++ [s.opened], s.opened + 1, s.trace.open, s.taken⟩
      (events ++ [.opens]) := by
  refine ⟨?_, ?_, fun hnil => ?_, fun capture hmem => ?_, ?_⟩
  · simp [Trace.open, h.openCaptures]
  · have hbalance := h.balance
    simp [Event.isClosing]
    omega
  · simp at hnil
  · rw [lines?_of_mem hmem]
    by_cases hnone : s.captures = []
    · -- The buffer starts afresh, and it is empty.
      have hempty : openAfter events = 0 := by rw [h.openAfter_eq, hnone, List.length_nil]
      refine ⟨events.length, isLastReset_concat (isResetAt_length.2 (.inl ⟨rfl, hempty⟩)), ?_⟩
      simp [Trace.open, h.idle hnone, emitted]
    · have hopen : openAfter events ≠ 0 := by simpa [h.openAfter_eq] using hnone
      obtain ⟨k, hlast, hlines⟩ := h.window_concat (e := .opens) hnone
        (by simp [isResetAt_length, hopen])
      exact ⟨k, hlast, by simpa [Event.line?, Trace.open] using hlines⟩
  · simpa [heard_concat, Event.line?, Trace.open] using h.heard

theorem closes (h : s.Reflects events) {capture : Nat} (hmem : capture ∈ s.captures) :
    Reflects { s with captures := s.captures.erase capture, trace := s.trace.close }
      (events ++ [.closes capture]) := by
  have hlength := List.length_erase_of_mem hmem
  have hpos := List.length_pos_of_mem hmem
  have hleft : s.trace.openCaptures - 1 = (s.captures.erase capture).length := by
    rw [h.openCaptures, hlength]
  refine ⟨hleft, ?_, fun hnil => ?_, fun other hother => ?_, ?_⟩
  · have hbalance := h.balance
    simp [Event.isClosing]
    omega
  · simp only at hnil
    simp [Trace.close, hleft, hnil]
  · rw [lines?_of_mem hother]
    have hopen : s.captures ≠ [] := List.ne_nil_of_mem hmem
    obtain ⟨k, hlast, hlines⟩ := h.window_concat (e := .closes capture) hopen
      (by simp [isResetAt_length])
    refine ⟨k, hlast, ?_⟩
    have hsome : s.trace.openCaptures - 1 ≠ 0 := by
      rw [hleft]
      exact Nat.ne_of_gt (List.length_pos_of_mem hother)
    simpa [Event.line?, Trace.close, hsome] using hlines
  · refine List.Sublist.trans ?_ (by simpa [heard_concat, Event.line?] using h.heard)
    simp only [Trace.close]
    split
    · simp
    · exact .refl _

theorem emits (h : s.Reflects events) (line : String) :
    Reflects { s with trace := s.trace.emit line } (events ++ [.emits line]) := by
  by_cases hnone : s.captures = []
  · -- The line is lost.
    have hcount : s.trace.openCaptures = 0 := by rw [h.openCaptures, hnone, List.length_nil]
    have hsame : s.trace.emit line = s.trace := by simp [Trace.emit, hcount]
    have hempty : openAfter events = 0 := by rw [h.openAfter_eq, hnone, List.length_nil]
    rw [hsame]
    refine ⟨h.openCaptures, ?_, h.idle, fun capture hmem => ?_, ?_⟩
    · simpa [Event.isClosing] using h.balance
    · rw [hnone] at hmem
      cases hmem
    · simpa [heard_concat, hempty] using h.heard
  · have hpos : 0 < s.captures.length := List.length_pos_iff.2 hnone
    have hadded : s.trace.emit line = { s.trace with lines := s.trace.lines ++ [line] } := by
      simp [Trace.emit, h.openCaptures, hpos]
    rw [hadded]
    refine ⟨h.openCaptures, ?_, fun hnil => absurd hnil hnone, fun capture hmem => ?_, ?_⟩
    · simpa [Event.isClosing] using h.balance
    · rw [lines?_of_mem hmem]
      obtain ⟨k, hlast, hlines⟩ := h.window_concat (e := .emits line) hnone
        (by simp [isResetAt_length])
      exact ⟨k, hlast, congrArg some hlines⟩
    · rw [heard_concat, h.openAfter_eq, if_pos hpos, ← List.append_assoc]
      exact h.heard.append_right [line]

theorem takes (h : s.Reflects events) (capture : Nat) :
    Reflects { s with trace := s.trace.take.2, taken := s.taken ++ [s.trace.take.1] }
      (events ++ [.takes capture]) := by
  refine ⟨h.openCaptures, ?_, fun _ => rfl, fun other hother => ?_, ?_⟩
  · simpa [Event.isClosing] using h.balance
  · rw [lines?_of_mem hother]
    refine ⟨events.length, isLastReset_concat (isResetAt_length.2 (.inr ⟨capture, rfl⟩)), ?_⟩
    simp [Trace.take, emitted]
  · simpa [heard_concat, Event.line?, Trace.take] using h.heard

/-- Every event keeps a session true to the events so far. -/
theorem step (h : s.Reflects events) (hstep : s.step e = some next) :
    next.Reflects (events ++ [e]) := by
  cases e with
  | opens =>
    cases hstep
    exact h.opens
  | closes capture =>
    obtain ⟨hmem, heq⟩ := Option.ite_none_right_eq_some.1 hstep
    cases heq
    exact h.closes hmem
  | emits line =>
    cases hstep
    exact h.emits line
  | takes capture =>
    obtain ⟨-, heq⟩ := Option.ite_none_right_eq_some.1 hstep
    cases heq
    exact h.takes capture

end Reflects

end Session

/-! ## Runs -/

theorem reflects_start : Session.start.Reflects [] :=
  ⟨rfl, rfl, fun _ => rfl, nofun, .slnil⟩

theorem Session.Reflects.foldlM (h : s.Reflects events)
    (hrun : more.foldlM Session.step s = some next) : next.Reflects (events ++ more) := by
  induction more generalizing s events with
  | nil =>
    cases hrun
    simpa using h
  | cons e rest ih =>
    obtain ⟨middle, hstep, hrest⟩ := Option.bind_eq_some_iff.1 hrun
    simpa using ih (h.step hstep) hrest

/-- Whatever is done with captures, in any order: at every point as many are open as were opened and
not closed, nothing is kept while none is, and every open capture has the lines emitted since the
later of the last take and the last opening while none was open. What captures took, one after the
other, are lines emitted while a capture was open, in order and none twice. -/
theorem reflects_of_run (h : run events = some s) :
    ∀ part, part <+: events → ∃ now, run part = some now ∧ now.Reflects part := by
  rintro part ⟨rest, rfl⟩
  rw [run, List.foldlM_append] at h
  obtain ⟨now, hnow, -⟩ := Option.bind_eq_some_iff.1 h
  exact ⟨now, hnow, reflects_start.foldlM hnow⟩

/-- The first of two captures is closed first, and the second one takes the lines of both. -/
theorem reflects_of_run_nested :
    let events : List Event := [.emits "a", .opens, .emits "b", .opens, .closes 0, .emits "c",
      .takes 1, .emits "d"]
    let s : Session := ⟨[1], 2, ⟨1, ["d"]⟩, [["b", "c"]]⟩
    run events = some s ∧ s.Reflects events ∧ s.lines? 1 = some ["d"] ∧
      heard events = ["b", "c", "d"] := by
  intro events s
  have hrun : run events = some s := by rfl
  obtain ⟨now, hnow, hreflects⟩ := reflects_of_run hrun events List.prefix_rfl
  obtain rfl : s = now := Option.some.inj (hrun.symm.trans hnow)
  exact ⟨hrun, hreflects, by rfl, by rfl⟩

end DocQuery.Trace
