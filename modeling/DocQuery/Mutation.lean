import DocQuery.Condition

/-!
# Mutations

A mutation document lists operators, each with the paths it changes. The changes are made one after
another, and a mutation that fails keeps the changes before the failing one.

## Main definitions

* `Mutation.set`, `Mutation.unset`, `Mutation.increment`, `Mutation.push`, `Mutation.pull`: the
  changes that single operators make
* `Mutation.applyUpdate`: the document that a mutation leaves, and whether it changed anything

## Design notes

A single change that fails leaves its document as it was, so it returns a new document only when it
succeeds. `applyUpdate` returns a document in every case.
-/

namespace DocQuery.Mutation

/-- What a single change makes: the new document, and whether it differs in a way that counts. -/
abbrev Change := Except StoreError (Document × Bool)

/-- Writes a value, unless the same value is there. -/
def set (doc : Document) (path : String) (value : Value) : Change :=
  match Document.atPath? doc path with
  | some found =>
    if found.same value then .ok (doc, false)
    else return (← Document.setPath doc path value, true)
  | none => return (← Document.setPath doc path value, true)

/-- Removes the value at a path. -/
def unset (doc : Document) (path : String) : Change :=
  match Document.removePath? doc path with
  | some (_, left) => .ok (left, true)
  | none => .ok (doc, false)

/-- The least and the greatest integer of sixty-four bits. -/
def int64Bounds : Int × Int := (-(2 ^ 63), 2 ^ 63 - 1)

/-- An integer, moved into the range of sixty-four bits. -/
def saturated (n : Int) : Value :=
  .int64 (Int64.ofInt (max int64Bounds.1 (min n int64Bounds.2)))

/-- The sum of two numbers, if both are numbers. Two integers of thirty-two bits have a sum of
thirty-two bits where it fits; other integers have one of sixty-four bits, at most the greatest and
at least the least of these. -/
def add? (a b : Value) : Option Value :=
  match a, b with
  | .int32 x, .int32 y =>
    let n := x.toInt + y.toInt
    if -(2 ^ 31) ≤ n ∧ n < 2 ^ 31 then some (.int32 (Int32.ofInt n))
    else some (.int64 (Int64.ofInt n))
  | .int32 x, .int64 y => some (saturated (x.toInt + y.toInt))
  | .int64 x, .int32 y => some (saturated (x.toInt + y.toInt))
  | .int64 x, .int64 y => some (saturated (x.toInt + y.toInt))
  | a, b =>
    match a.toDouble?, b.toDouble? with
    | some x, some y => some (.double (x.add y))
    | _, _ => none

/-- Adds an amount to the number at a path; a missing number counts as zero. -/
def increment (doc : Document) (path : String) (amount : Value) : Change :=
  let current := (Document.atPath? doc path).getD (.int32 0)
  match add? current amount with
  | some next => return (← Document.setPath doc path next, !next.same current)
  | none => .error (.typeMismatch (.notNumber path))

/-- The values that a push appends: those of its list, if it gives one, or else its operand. -/
def pushedItems (operand : Value) : Except StoreError (List Value) :=
  match operand with
  | .document d =>
    match Document.get? d "$each" with
    | some (.array items) => .ok items
    | some _ => .error (.invalidOperand (.notArray "$each"))
    | none => .ok [operand]
  | _ => .ok [operand]

/-- Appends values to the array at a path; a missing array and a null count as empty. -/
def push (doc : Document) (path : String) (operand : Value) : Change := do
  let items ← pushedItems operand
  let array ← match Document.atPath? doc path with
    | some (.array a) => pure a
    | none | some .null => pure []
    | some _ => .error (.typeMismatch (.notArray path))
  if items.isEmpty then return (doc, false)
  return (← Document.setPath doc path (.array (array ++ items)), true)

variable [Regex.Engine]

/-- Whether a pull removes an item: the item satisfies the operators, or the query document, or
equals the value. -/
def isPulled (cond item : Value) : Except StoreError Bool :=
  match cond with
  | .document c =>
    if Condition.isOperatorDoc c then Condition.fieldMatches (some item) c []
    else
      match item with
      | .document sub => Condition.docMatches sub c []
      | _ => .ok false
  | _ => .ok (item.equals cond)

/-- The items that a pull keeps. -/
def keptItems (cond : Value) : List Value → Except StoreError (List Value)
  | [] => .ok []
  | item :: rest => do
    let pulled ← isPulled cond item
    let kept ← keptItems cond rest
    return if pulled then kept else item :: kept

/-- Removes the items of the array at a path that satisfy a condition. -/
def pull (doc : Document) (path : String) (cond : Value) : Change :=
  match Document.atPath? doc path with
  | some (.array items) => do
    let kept ← keptItems cond items
    if kept.length = items.length then return (doc, false)
    return (← Document.setPath doc path (.array kept), true)
  | _ => .ok (doc, false)

/-- The change that an operator makes at one path. -/
def applyField (op : String) (doc : Document) (path : String) (operand : Value) : Change :=
  match op with
  | "$set" => set doc path operand
  | "$unset" => unset doc path
  | "$inc" => increment doc path operand
  | "$push" => push doc path operand
  | "$pull" => pull doc path operand
  | _ => .error (.unsupportedOperator op)

/-- What a mutation leaves: a document, and either whether anything changed or an error. -/
structure Outcome where
  doc : Document
  result : Except StoreError Bool

/-- An outcome that also counts the changes before it. -/
def Outcome.after (o : Outcome) (changed : Bool) : Outcome :=
  { o with result := o.result.map (changed || ·) }

/-- Makes the changes of one operator. -/
def applyFields (op : String) : List (String × Value) → Document → Outcome
  | [], doc => ⟨doc, .ok false⟩
  | (path, operand) :: rest, doc =>
    match applyField op doc path operand with
    | .error e => ⟨doc, .error e⟩
    | .ok (next, changed) => (applyFields op rest next).after changed

/-- Makes the changes of every operator of a mutation document. -/
def applyUpdate : List (String × Value) → Document → Outcome
  | [], doc => ⟨doc, .ok false⟩
  | (op, .document fields) :: rest, doc =>
    let first := applyFields op fields doc
    match first.result with
    | .error _ => first
    | .ok changed => (applyUpdate rest first.doc).after changed
  | (op, _) :: _, doc => ⟨doc, .error (.invalidOperand (.notDocument op))⟩

end DocQuery.Mutation
