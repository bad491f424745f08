import DocQuery.Filter.Raw
import DocQuery.Function
import DocQuery.Regex.Engine

/-!
# Filters

A filter is the list of conditions that a query has collected, each with the connective of the call
that recorded it.

## Main definitions

* `Filters`: the conditions, in the order of the calls
* `Filters.normalized`: the query document of all conditions
* `Filters.comparison`: the query document of one comparison
* `Filters.resolveValue`: the operator and the operand of a comparison that names no operator
* `TextMatch.pattern`: the pattern of a search for literal text
-/

namespace DocQuery

/-- A condition and the connective of the call that recorded it. -/
structure FilterEntry where
  connective : Connective
  filter : Document

/-- The conditions of a query, in the order of the calls. -/
structure Filters where
  entries : List FilterEntry
  deriving Inhabited

namespace Filters

/-- No condition. -/
def empty : Filters := ⟨[]⟩

/-- Whether there is no condition. -/
def isEmpty (f : Filters) : Bool := f.entries.isEmpty

/-- The number of conditions. -/
def size (f : Filters) : Nat := f.entries.length

/-- Adds a condition at the end. -/
def push (f : Filters) (connective : Connective) (filter : Document) : Filters :=
  ⟨f.entries ++ [⟨connective, filter⟩]⟩

/-- The conditions of one filter and then those of another. -/
def append (f g : Filters) : Filters := ⟨f.entries ++ g.entries⟩

/-- The query document of one comparison, under a conjunction of its own. -/
def comparison (field op : String) (value : Value) : Document :=
  [(Connective.and.key, .array [.document [(field, .document [(op, value)])]])]

/-- Adds a comparison at the end. -/
def pushComparison (f : Filters) (connective : Connective) (field op : String) (value : Value) :
    Filters :=
  f.push connective (comparison field op value)

/-- The connective of all conditions together: the one that they share, or else disjunction. -/
def connective (first : FilterEntry) (rest : List FilterEntry) : Connective :=
  if rest.all fun e => e.connective == first.connective then first.connective else .or

/-- The query document of all conditions. Without conditions it is empty; conditions recorded under
different connectives become one disjunction of all of them, in order. -/
def normalized (f : Filters) : Document :=
  match f.entries with
  | [] => []
  | first :: rest =>
    [((connective first rest).key, .array ((first :: rest).map fun e => .document e.filter))]

/-- The operator and the operand of a comparison that names no operator: a comparator token in the
place of the value compares with null, and any other value is one to equal. -/
def resolveValue (value : Value) : String × Value :=
  match value with
  | .string s =>
    match Operator.ofToken? s with
    | some op => (op, .null)
    | none => ("$eq", value)
  | _ => ("$eq", value)

end Filters

/-- A ready-made condition. -/
inductive Predicate where
  | raw (r : RawFilter)
  | contains (f : ArrayContains)

/-- The query document of a ready-made condition. -/
def Predicate.document : Predicate → Document
  | raw r => r.document
  | contains f => f.document

/-- Where literal text is searched for. -/
inductive TextMatch where
  | anywhere
  | atStart
  | atEnd
  deriving DecidableEq

/-- The pattern of a search for literal text. -/
def TextMatch.pattern [Regex.Engine] (kind : TextMatch) (text : String) (caseSensitive : Bool) :
    String :=
  let quoted := Regex.Engine.escape text
  let quoted := if caseSensitive then quoted else "(?i)" ++ quoted
  match kind with
  | anywhere => ".*" ++ quoted ++ ".*"
  | atStart => "^" ++ quoted ++ ".*"
  | atEnd => ".*" ++ quoted ++ "$"

end DocQuery
