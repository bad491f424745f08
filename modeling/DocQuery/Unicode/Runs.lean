/-!
# Run-length tables of characters

A property of characters is constant on long runs of code points. A table is written as one text:
for each run its length in decimal digits, followed by the letters that label it.

## Main definitions

* `Runs.decode`: the runs of a text, each with its first code point
* `Runs.find`: the label of the run that holds a code point
* `Runs.inRanges`: whether a code point lies in one of a list of ranges
-/

namespace DocQuery.Unicode.Runs

/-- The reading of a table so far. -/
structure Reading where
  /-- The first code point of the run being read. -/
  start : Nat
  length : Nat
  /-- The letters of the label, last first. -/
  label : List Char
  runs : Array (Nat × String)

/-- Closes the run being read, if there is one. -/
def Reading.close (r : Reading) : Reading :=
  if r.label.isEmpty then r
  else
    { start := r.start + r.length
      length := 0
      label := []
      runs := r.runs.push (r.start, String.ofList r.label.reverse) }

/-- Reads one character of a table. -/
def Reading.step (r : Reading) (c : Char) : Reading :=
  if c.isDigit then
    let r := r.close
    { r with length := 10 * r.length + (c.toNat - '0'.toNat) }
  else { r with label := c :: r.label }

/-- The runs of a text, each with its first code point and its label. -/
def decode (text : String) : Array (Nat × String) :=
  (text.toList.foldl Reading.step ⟨0, 0, [], #[]⟩).close.runs

/-- Halves the interval `[low, high)` of runs, the first of which starts at or before `n`, until one
run is left. -/
def search (runs : Array (Nat × String)) (n : Nat) : Nat → Nat → Nat → Nat
  | 0, low, _ => low
  | fuel + 1, low, high =>
    if high ≤ low + 1 then low
    else
      let middle := (low + high) / 2
      match runs[middle]? with
      | some (start, _) =>
        if start ≤ n then search runs n fuel middle high else search runs n fuel low middle
      | none => low

/-- The label of the run that holds a code point. -/
def find (runs : Array (Nat × String)) (n : Nat) : String :=
  match runs[search runs n (runs.size.log2 + 1) 0 runs.size]? with
  | some (_, label) => label
  | none => ""

/-- Whether a code point lies in one of the ranges, bounds included. -/
def inRanges (ranges : List (Nat × Nat)) (n : Nat) : Bool :=
  ranges.any fun r => r.1 ≤ n && n ≤ r.2

end DocQuery.Unicode.Runs
