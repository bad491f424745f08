import DocQuery.StoreError

/-!
# Errors of queries

Each error names its cause; the wording is in one function.

## Main definitions

* `QueryError`: everything that can end a call on a query
* `QueryError.message`: the wording
-/

namespace DocQuery

/-- The calls that are refused without a condition. -/
inductive FilteredAction where
  | update
  | delete
  deriving DecidableEq

/-- The name of a call. -/
def FilteredAction.name : FilteredAction → String
  | update => "update"
  | delete => "delete"

/-- Everything that can end a call on a query. -/
inductive QueryError where
  | invalidOperator (token : String)
  /-- A collection is set by name, and there is no connection to resolve the name. -/
  | missingConnection
  | noCollection
  | missingFilter (action : FilteredAction)
  | emptyInsert
  | mixedInsertTypes (expected found : String)
  | unselectedIndexKey (field : String)
  | indexOnSingleResult
  /-- A value that should become a document is no object. -/
  | notObject
  /-- A value does not fit the type that it should become. -/
  | unfit
  | malformedJson
  | malformedSettings
  | unreadableFile
  | backend (e : StoreError)

namespace QueryError

/-- The wording of an error. Where a text cannot be read the wording gives no reason. -/
def message : QueryError → String
  | invalidOperator token => "Invalid operator: " ++ token
  | missingConnection => "Collections can only be set by name when a connection is configured"
  | noCollection => "A collection must be set before running a query"
  | missingFilter action =>
    "A filter (where clause) is required to " ++ action.name ++ " records"
  | emptyInsert => "Insert: expecting at least one document"
  | mixedInsertTypes expected found =>
    "Insert: all documents must share one type (expected " ++ expected ++ ", found " ++ found ++ ")"
  | unselectedIndexKey field => "Property '" ++ field ++ "' not selected"
  | indexOnSingleResult => "Indexing is only available for multi-document results"
  | notObject => "Serialization error: expected JSON object"
  | unfit => "Serialization error"
  | malformedJson => "Malformed JSON"
  | malformedSettings => "Configuration error"
  | unreadableFile => "I/O error"
  | backend e => e.message

end QueryError

end DocQuery
