import DocQuery.QueryError

/-!
# Operators of conditions

Conditions are written with comparator tokens, which stand for the operators of the store, and are
joined by connectives.

## Main definitions

* `Operator.ofToken?`: the operator that a comparator token stands for
* `Operator.translate`: the same, with an error for every other token
* `Connective`: how a condition is joined to the others
* `SortOrder`: ascending or descending
-/

namespace DocQuery

namespace Operator

/-- The comparator tokens and the operators that they stand for. -/
def tokens : List (String × String) :=
  [("=", "$eq"), ("!=", "$ne"), ("<>", "$ne"), (">", "$gt"), (">=", "$gte"), ("<", "$lt"),
   ("<=", "$lte"), ("in", "$in"), ("notIn", "$nin"), ("regx", "$regex")]

/-- The operator that a comparator token stands for. -/
def ofToken? (token : String) : Option String := tokens.lookup token

/-- Whether a text is a comparator token. -/
def isToken (token : String) : Bool := (ofToken? token).isSome

/-- The operator that a comparator token stands for; any other text is refused. -/
def translate (token : String) : Except QueryError String :=
  match ofToken? token with
  | some op => .ok op
  | none => .error (.invalidOperator token)

end Operator

/-- How a condition is joined to the others. -/
inductive Connective where
  | and
  | or
  deriving DecidableEq, Inhabited

/-- The operator of a connective. -/
def Connective.key : Connective → String
  | and => "$and"
  | or => "$or"

/-- The direction of a sort. -/
inductive SortOrder where
  | ascending
  | descending
  deriving DecidableEq

namespace SortOrder

/-- The number that stands for a direction in a sort document. -/
def sign : SortOrder → Int32
  | ascending => 1
  | descending => -1

/-- The direction of a label: `DESC` alone is descending. -/
def ofLabel (label : String) : SortOrder := if label = "DESC" then descending else ascending

/-- The direction of a number: negative numbers are descending. -/
def ofInt (n : Int) : SortOrder := if n < 0 then descending else ascending

end SortOrder

end DocQuery
