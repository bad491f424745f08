import DocQuery.Value.Text

/-!
# Traces

Calls on queries and on stores emit lines, which captures collect while at least one of them is
open. All captures share one buffer, which is emptied when the last one closes.

## Main definitions

* `TraceEvent`: what can be emitted, and `TraceEvent.line`, its text
* `Trace`: the number of open captures and the buffer
* `Trace.open`, `Trace.close`, `Trace.emit`, `Trace.take`: what changes a trace
-/

namespace DocQuery

/-- What can be emitted. -/
inductive TraceEvent where
  | text (line : String)
  /-- A query is about to run its stages. -/
  | aggregate (collection : String) (stages : List Document)
  | update (collection : String) (filter mutation : Document)
  | delete (collection : String) (filter : Document)
  /-- A store has run a pipeline. -/
  | aggregated (collection : String) (stages rows : Nat)
  | updated (collection : String) (matched modified : Nat)
  | deleted (collection : String) (count : Nat)

namespace TraceEvent

/-- Text between quotes. -/
def quoted (s : String) : String := "\"" ++ s ++ "\""

/-- A record of named entries. -/
def record (entries : List (String × String)) : String :=
  "\x7b" ++ ",".intercalate (entries.map fun (key, content) => quoted key ++ ":" ++ content) ++ "\x7d"

/-- The text of an event. The line for a pipeline that has run leaves out the entry `duration_us` at
its end, which says how long that took. -/
def line : TraceEvent → String
  | text content => content
  | aggregate collection stages =>
    "aggregate collection=" ++ collection ++ " stages=" ++
      Value.text (.array (stages.map .document))
  | update collection filter mutation =>
    "update collection=" ++ collection ++ " filter=" ++ Document.text filter ++ " update=" ++
      Document.text mutation
  | delete collection filter =>
    "delete collection=" ++ collection ++ " filter=" ++ Document.text filter
  | aggregated collection stages rows =>
    record [("op", quoted "aggregate"), ("collection", quoted collection),
      ("stages", toString stages), ("rows", toString rows)]
  | updated collection matched modified =>
    record [("op", quoted "update_many"), ("collection", quoted collection),
      ("matched", toString matched), ("modified", toString modified)]
  | deleted collection count =>
    record [("op", quoted "delete_many"), ("collection", quoted collection),
      ("deleted", toString count)]

end TraceEvent

/-- The number of open captures and the lines that they have collected. -/
structure Trace where
  openCaptures : Nat
  lines : List String
  deriving DecidableEq

namespace Trace

/-- No capture is open. -/
def empty : Trace := ⟨0, []⟩

/-- Opens a capture. -/
def «open» (t : Trace) : Trace := { t with openCaptures := t.openCaptures + 1 }

/-- Closes a capture; the last one to close empties the buffer. -/
def close (t : Trace) : Trace :=
  let left := t.openCaptures - 1
  ⟨left, if left = 0 then [] else t.lines⟩

/-- Emits a line, which is kept if a capture is open. -/
def emit (t : Trace) (line : String) : Trace :=
  if 0 < t.openCaptures then { t with lines := t.lines ++ [line] } else t

/-- Emits the lines of events one after another. -/
def emitAll (t : Trace) (events : List TraceEvent) : Trace :=
  events.foldl (fun t event => t.emit event.line) t

/-- The lines in the buffer, and the trace without them. -/
def take (t : Trace) : List String × Trace := (t.lines, { t with lines := [] })

end Trace

end DocQuery
