import DocQuery.Value.Text

/-!
# Errors of the store

Each error names its cause; the wording is in one function.

## Main definitions

* `StageFault`, `OperandFault`, `TypeFault`: what is wrong with a stage, an operand or a stored value
* `StoreError`: everything that can end a call on a store
* `StoreError.message`: the wording
-/

namespace DocQuery

/-- What is wrong with a stage of a pipeline. -/
inductive StageFault where
  /-- The stage has no key, or more than one. -/
  | notOneKey (stage : Document)
  | notDocument (name : String)
  | notCount (name : String)
  | countField
  | accumulatorNotDocument (name : String)
  | accumulatorNotOneKey (name : String)
  /-- A lookup lacks a setting, which is named as the message quotes it. -/
  | lookupLacks (setting : String)
  | lookupStage
  | unwindLacksPath
  | unwindNotPath
  | unwindSigil

/-- What is wrong with the operand of an operator. -/
inductive OperandFault where
  | notArray (op : String)
  | notDocuments (op : String)
  | notDocument (op : String)
  | notString (op : String)
  | notTwo (op : String)
  /-- The list of a membership test is no array. -/
  | membership

/-- What is wrong with the value at a path. -/
inductive TypeFault where
  | notDocument (key : String)
  | notArray (path : String)
  | notNumber (path : String)

/-- Everything that can end a call on a store. -/
inductive StoreError where
  | unsupportedStage (name : String)
  | unsupportedOperator (op : String)
  | invalidStage (fault : StageFault)
  | invalidOperand (fault : OperandFault)
  | invalidRegex
  | typeMismatch (fault : TypeFault)

namespace StageFault

/-- The wording of a fault. -/
def message : StageFault → String
  | notOneKey stage => "stage must have one key: " ++ Document.text stage
  | notDocument name => name ++ " expects a document"
  | notCount name => name ++ " expects a non-negative number"
  | countField => "$count expects a field name"
  | accumulatorNotDocument name => "accumulator '" ++ name ++ "' must be a document"
  | accumulatorNotOneKey name => "accumulator '" ++ name ++ "' needs one operator"
  | lookupLacks setting => "$lookup needs " ++ setting
  | lookupStage => "$lookup pipeline stages must be documents"
  | unwindLacksPath => "$unwind needs 'path'"
  | unwindNotPath => "$unwind expects a path"
  | unwindSigil => "$unwind path must start with '$'"

end StageFault

namespace OperandFault

/-- The wording of a fault. -/
def message : OperandFault → String
  | notArray op => op ++ " expects an array"
  | notDocuments op => op ++ " expects documents"
  | notDocument op => op ++ " expects a document"
  | notString op => op ++ " expects a string"
  | notTwo op => op ++ " expects two arguments"
  | membership => "$in/$nin expect an array"

end OperandFault

namespace TypeFault

/-- The wording of a fault. -/
def message : TypeFault → String
  | notDocument key => "'" ++ key ++ "' is not a document"
  | notArray path => "'" ++ path ++ "' is not an array"
  | notNumber path => "cannot increment '" ++ path ++ "'"

end TypeFault

namespace StoreError

/-- The wording of an error. The wording for a pattern that cannot be read gives no reason. -/
def message : StoreError → String
  | unsupportedStage name => "Unsupported stage: " ++ name
  | unsupportedOperator op => "Unsupported operator: " ++ op
  | invalidStage fault => "Invalid stage: " ++ fault.message
  | invalidOperand fault => "Invalid operand: " ++ fault.message
  | invalidRegex => "Invalid regex"
  | typeMismatch fault => "Type mismatch: " ++ fault.message

end StoreError

end DocQuery
