import DocQuery.Path
import DocQuery.Value.Order

/-!
# Expressions

An expression is a value that is read against a document: a string with a `$` in front is a path of
the document, one with `$$` a variable, and a document with one operator key is a call. Arrays and
other documents are evaluated item by item, and every other value stands for itself.

## Main definitions

* `Expression.resolve`: what a string stands for
* `Expression.applyOperator`: the value of a call whose operands are evaluated
* `Expression.eval`: the value of an expression
-/

namespace DocQuery.Expression

/-- Whether a key names an operator. -/
def isOperatorKey (key : String) : Bool := key.toList.head? == some '$'

/-- The name of a variable and the path behind it, which the first dot separates. -/
def splitVariable (reference : List Char) : String × Option String :=
  let name := reference.takeWhile (· != '.')
  let rest := reference.drop name.length
  (String.ofList name, if rest.isEmpty then none else some (String.ofList (rest.drop 1)))

/-- The value that a string stands for; what is missing is null. -/
def resolve (doc vars : Document) (s : String) : Value :=
  match s.toList with
  | '$' :: '$' :: reference =>
    match splitVariable reference with
    | (name, none) => (Document.get? vars name).getD .null
    | (name, some path) =>
      match Document.get? vars name with
      | some (.document bound) => (Document.atPath? bound path).getD .null
      | _ => .null
  | '$' :: path => (Document.atPath? doc (String.ofList path)).getD .null
  | _ => .string s

/-- What a comparison operator accepts. -/
def comparison? : String → Option (Ordering → Bool)
  | "$eq" => some (·.isEq)
  | "$ne" => some (·.isNe)
  | "$gt" => some (·.isGT)
  | "$gte" => some (·.isGE)
  | "$lt" => some (·.isLT)
  | "$lte" => some (·.isLE)
  | _ => none

/-- The two operands of a call that takes two. -/
def two (op : String) : List Value → Except StoreError (Value × Value)
  | [a, b] => .ok (a, b)
  | _ => .error (.invalidOperand (.notTwo op))

/-- The number of items of an array, as far as thirty-two bits hold it. -/
def sizeValue (items : List Value) : Value :=
  .int32 (Int32.ofInt (min items.length (2 ^ 31 - 1)))

/-- The operands of a call, from its operand as written and as evaluated: the evaluated items of an
array that is written out, or else the evaluated operand as the only one. -/
def operandList : Value → Value → List Value
  | .array _, .array values => values
  | _, value => [value]

/-- The value of a call whose operands are evaluated. -/
def applyOperator (op : String) (operands : List Value) : Except StoreError Value :=
  match op with
  | "$and" => .ok (.boolean (operands.all Value.isTruthy))
  | "$or" => .ok (.boolean (operands.any Value.isTruthy))
  | "$not" => .ok (.boolean (!(operands.head?.any Value.isTruthy)))
  | "$in" => do
    match ← two op operands with
    | (needle, .array items) => .ok (.boolean (items.any (·.equals needle)))
    | _ => .error (.invalidOperand (.notArray op))
  | _ =>
    match comparison? op with
    | some accepts => do
      let (a, b) ← two op operands
      return .boolean (accepts (a.compare b))
    | none => .error (.unsupportedOperator op)

/-- The operators whose operands are evaluated before the call. -/
def isStrictOperator (op : String) : Bool :=
  op == "$and" || op == "$or" || op == "$not" || op == "$in" || (comparison? op).isSome

/-- The number of items of an evaluated array. -/
def sizeOf : Value → Except StoreError Value
  | .array items => .ok (sizeValue items)
  | _ => .error (.invalidOperand (.notArray "$size"))

mutual

/-- The value of an expression for a document, with variables bound by a second document. -/
def eval (doc vars : Document) (expr : Value) : Except StoreError Value :=
  match expr with
  | .string s => .ok (resolve doc vars s)
  | .array items => return .array (← evalItems doc vars items)
  | .document [(op, operand)] =>
    if isOperatorKey op = false then do return .document [(op, ← eval doc vars operand)]
    else if op = "$literal" then .ok operand
    else if op = "$size" then do sizeOf (← eval doc vars operand)
    else if isStrictOperator op then do
      applyOperator op (operandList operand (← eval doc vars operand))
    else .error (.unsupportedOperator op)
  | .document fields => return .document (← evalFields doc vars fields)
  | literal => .ok literal
termination_by structural expr

/-- The values of a list of expressions, up to the first that fails. -/
def evalItems (doc vars : Document) (items : List Value) : Except StoreError (List Value) :=
  match items with
  | [] => .ok []
  | item :: rest => return (← eval doc vars item) :: (← evalItems doc vars rest)
termination_by structural items

/-- The values of the fields of a document, up to the first that fails. -/
def evalFields (doc vars : Document) (fields : List (String × Value)) :
    Except StoreError Document :=
  match fields with
  | [] => .ok []
  | (key, value) :: rest => return (key, ← eval doc vars value) :: (← evalFields doc vars rest)
termination_by structural fields

end

end DocQuery.Expression
