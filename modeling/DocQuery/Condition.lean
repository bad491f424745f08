import DocQuery.Expression
import DocQuery.Regex.Engine

/-!
# Conditions on documents

A query document is a list of conditions, all of which must hold: conditions on fields, given by
operators or by a value to equal, and combinations of whole query documents. Conditions are checked
from the left, and checking stops at the first that does not hold or that fails.

## Main definitions

* `Condition.fieldMatches`: whether a value, or its absence, satisfies a document of operators
* `Condition.docMatches`: whether a document satisfies a query document

## Design notes

The recursion is structural in the query, so that each operator has one equation.
-/

namespace DocQuery.Condition

/-- Whether a document is an operator document: it has keys, and each names an operator. -/
def isOperatorDoc (d : Document) : Bool :=
  !d.isEmpty && d.all fun field => Expression.isOperatorKey field.1

/-- Whether a value is an array. -/
def isArray : Value → Bool
  | .array _ => true
  | _ => false

/-- Whether a field equals a value. A missing field equals null alone, and an array equals a value
that is no array if one of its items does. -/
def eqMatches (value? : Option Value) (target : Value) : Bool :=
  match value? with
  | none => target.same .null
  | some (.array items) =>
    if isArray target then Value.equals (.array items) target
    else items.any (·.equals target)
  | some v => v.equals target

/-- Whether a field equals one of the values of a list. -/
def inMatches (value? : Option Value) (list : Value) : Except StoreError Bool :=
  match list with
  | .array candidates => .ok (candidates.any (eqMatches value?))
  | _ => .error (.invalidOperand .membership)

/-- Whether a field, or one of the items of an array, compares with a value in an accepted way. -/
def rangeMatches (value? : Option Value) (target : Value) (accepts : Ordering → Bool) : Bool :=
  let check (v : Value) := v.isComparable target && accepts (v.compare target)
  match value? with
  | none => false
  | some (.array items) => items.any check
  | some v => check v

/-- Whether a value is a string that a check accepts. -/
def textMatches (isMatch : String → Bool) : Value → Bool
  | .string s => isMatch s
  | _ => false

variable [Regex.Engine]

/-- Whether a field, or one of the items of an array, is a string that the pattern of an operator
document matches. Of the options only `i` and `m` count. The pattern is read whatever the field
holds. -/
def regexMatches (value? : Option Value) (ops : Document) : Except StoreError Bool :=
  match Document.string? ops "$regex" with
  | none => .error (.invalidOperand (.notString "$regex"))
  | some pattern =>
    let options := ((Document.string? ops "$options").getD "").toList
    match Regex.Engine.compile pattern (options.contains 'i') (options.contains 'm') with
    | .error _ => .error .invalidRegex
    | .ok isMatch =>
      match value? with
      | none => .ok false
      | some (.array items) => .ok (items.any (textMatches isMatch))
      | some v => .ok (textMatches isMatch v)

/-- Whether a field is an array whose number of items is the given number, up to the precision of
doubles next to one. -/
def sizeMatches (value? : Option Value) (operand : Value) : Bool :=
  match value?, operand.toDouble? with
  | some (.array items), some n => n.isNear items.length
  | _, _ => false

/-- What the range operators accept. -/
def range? : String → Option (Ordering → Bool)
  | "$gt" => some (·.isGT)
  | "$gte" => some (·.isGE)
  | "$lt" => some (·.isLT)
  | "$lte" => some (·.isLE)
  | _ => none

/-- Whether a field satisfies an operator that contains no further query. `ops` is the operator
document around it. -/
def plainMatches (value? : Option Value) (ops : Document) (op : String) (operand : Value) :
    Except StoreError Bool :=
  match op with
  | "$eq" => .ok (eqMatches value? operand)
  | "$ne" => .ok (!eqMatches value? operand)
  | "$in" => inMatches value? operand
  | "$nin" => return !(← inMatches value? operand)
  | "$regex" => regexMatches value? ops
  | "$options" => .ok true
  | "$exists" => .ok (value?.isSome == operand.isTruthy)
  | "$size" => .ok (sizeMatches value? operand)
  | _ =>
    match range? op with
    | some accepts => .ok (rangeMatches value? operand accepts)
    | none => .error (.unsupportedOperator op)

/-- Whether some item satisfies a check, from the left, up to the first that does or that fails. -/
def anyItem (check : Value → Except StoreError Bool) : List Value → Except StoreError Bool
  | [] => .ok false
  | item :: rest => do
    if ← check item then return true
    anyItem check rest

/-- The error of a list of query documents that holds something else, if it does. -/
def checkDocuments (op : String) : List Value → Except StoreError Unit
  | [] => .ok ()
  | .document _ :: rest => checkDocuments op rest
  | _ :: _ => .error (.invalidOperand (.notDocuments op))

mutual

/-- Whether a field, given by its value or its absence, satisfies every operator of a list, which
is part of the operator document `ops`. -/
def operatorsMatch (value? : Option Value) (vars ops : Document)
    (conditions : List (String × Value)) : Except StoreError Bool :=
  match conditions with
  | [] => .ok true
  | (op, operand) :: rest => do
    if ← operatorMatches value? vars ops op operand then
      operatorsMatch value? vars ops rest
    else return false
termination_by structural conditions

/-- Whether a field satisfies one operator. -/
def operatorMatches (value? : Option Value) (vars ops : Document) (op : String) (operand : Value) :
    Except StoreError Bool :=
  if op = "$not" then
    match operand with
    | .document inner => return !(← operatorsMatch value? vars inner inner)
    | _ => .error (.invalidOperand (.notDocument op))
  else if op = "$elemMatch" then
    match operand with
    | .document cond =>
      match value? with
      | some (.array items) =>
        anyItem (fun item =>
          if isOperatorDoc cond then operatorsMatch (some item) vars cond cond
          else
            match item with
            | .document doc => conditionsMatch doc vars cond
            | _ => .ok false) items
      | _ => .ok false
    | _ => .error (.invalidOperand (.notDocument op))
  else plainMatches value? ops op operand
termination_by structural operand

/-- Whether a document satisfies every condition of a list. -/
def conditionsMatch (doc vars : Document) (conditions : List (String × Value)) :
    Except StoreError Bool :=
  match conditions with
  | [] => .ok true
  | (key, cond) :: rest => do
    if ← conditionMatches doc vars key cond then conditionsMatch doc vars rest
    else return false
termination_by structural conditions

/-- Whether a document satisfies one condition. -/
def conditionMatches (doc vars : Document) (key : String) (cond : Value) :
    Except StoreError Bool :=
  if key = "$and" then
    match cond with
    | .array queries => do checkDocuments key queries; allMatch doc vars queries
    | _ => .error (.invalidOperand (.notArray key))
  else if key = "$or" then
    match cond with
    | .array queries => do checkDocuments key queries; anyMatches doc vars queries
    | _ => .error (.invalidOperand (.notArray key))
  else if key = "$nor" then
    match cond with
    | .array queries => do checkDocuments key queries; return !(← anyMatches doc vars queries)
    | _ => .error (.invalidOperand (.notArray key))
  else if key = "$expr" then return (← Expression.eval doc vars cond).isTruthy
  else if Expression.isOperatorKey key then .error (.unsupportedOperator key)
  else
    match cond with
    | .document ops =>
      if isOperatorDoc ops then operatorsMatch (Document.atPath? doc key) vars ops ops
      else .ok (eqMatches (Document.atPath? doc key) (.document ops))
    | literal => .ok (eqMatches (Document.atPath? doc key) literal)
termination_by structural cond

/-- Whether a document satisfies every query document of a list, from the left, up to the first
that it does not satisfy. -/
def allMatch (doc vars : Document) (queries : List Value) : Except StoreError Bool :=
  match queries with
  | [] => .ok true
  | .document query :: rest => do
    if ← conditionsMatch doc vars query then allMatch doc vars rest else return false
  | _ :: rest => allMatch doc vars rest
termination_by structural queries

/-- Whether a document satisfies some query document of a list, from the left, up to the first that
it satisfies. -/
def anyMatches (doc vars : Document) (queries : List Value) : Except StoreError Bool :=
  match queries with
  | [] => .ok false
  | .document query :: rest => do
    if ← conditionsMatch doc vars query then return true else anyMatches doc vars rest
  | _ :: rest => anyMatches doc vars rest
termination_by structural queries

end

/-- Whether a field, given by its value or its absence, satisfies a document of operators. -/
def fieldMatches (value? : Option Value) (ops vars : Document) : Except StoreError Bool :=
  operatorsMatch value? vars ops ops

/-- Whether a document satisfies a query document, with variables for its expressions. -/
def docMatches (doc query vars : Document) : Except StoreError Bool :=
  conditionsMatch doc vars query

end DocQuery.Condition
