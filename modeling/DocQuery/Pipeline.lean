import DocQuery.Collections
import DocQuery.Condition
import DocQuery.Stage.Group
import DocQuery.Stage.Project
import DocQuery.Stage.Sort
import DocQuery.Stage.Unwind

/-!
# Pipelines

A pipeline is a list of stages, each a document with one key that names the stage; the rows that one
stage makes are the input of the next. A lookup stage runs a pipeline of its own over another
collection, once for each row.

## Main definitions

* `Pipeline.runStage`: the rows that one stage makes
* `Pipeline.runStages`, `Pipeline.run`: the rows that a pipeline makes

## Design notes

The recursion is structural in the stages. A lookup stage finds its own pipeline among its settings
by recursion over them, so `pipelineSetting?` returns what running that pipeline does, and not the
pipeline.
-/

namespace DocQuery.Pipeline

/-- What running a pipeline does, given variables and rows. -/
abbrev Runner := Document → List Document → Except StoreError (List Document)

/-- The body of a stage that has to be a document. -/
def bodyDocument (name : String) : Value → Except StoreError Document
  | .document d => .ok d
  | _ => .error (.invalidStage (.notDocument name))

/-- The body of a stage that has to be a number of rows. -/
def bodyCount (name : String) (body : Value) : Except StoreError Nat :=
  match body.toDouble? with
  | some x => if x.isAtLeastZero then .ok x.toCount else .error (.invalidStage (.notCount name))
  | none => .error (.invalidStage (.notCount name))

variable [Regex.Engine]

/-- The rows that satisfy a query document. -/
def filterDocs (query vars : Document) : List Document → Except StoreError (List Document)
  | [] => .ok []
  | doc :: rest => do
    let keep ← Condition.docMatches doc query vars
    let kept ← filterDocs query vars rest
    return if keep then doc :: kept else kept

/-- The rows that a function makes of each row, up to the first that fails. -/
def mapDocs (f : Document → Except StoreError Document) :
    List Document → Except StoreError (List Document)
  | [] => .ok []
  | doc :: rest => return (← f doc) :: (← mapDocs f rest)

/-- The number of rows, as far as thirty-two bits hold it. -/
def countValue (count : Nat) : Value :=
  if count < 2 ^ 31 then .int32 (Int32.ofInt count) else .int64 (Int64.ofInt (2 ^ 63 - 1))

/-- One row with the number of rows, or none if there are none. -/
def countRows (body : Value) (docs : List Document) : Except StoreError (List Document) :=
  match body with
  | .string field => .ok (if docs.isEmpty then [] else [[(field, countValue docs.length)]])
  | _ => .error (.invalidStage .countField)

/-- The stages that run no other pipeline. -/
def runPlain (name : String) (body : Value) (vars : Document) (docs : List Document) :
    Except StoreError (List Document) :=
  match name with
  | "$match" => do filterDocs (← bodyDocument name body) vars docs
  | "$sort" => return Sort.run (← bodyDocument name body) docs
  | "$skip" => return docs.drop (← bodyCount name body)
  | "$limit" => return docs.take (← bodyCount name body)
  | "$count" => countRows body docs
  | "$project" => do
    let projection ← bodyDocument name body
    mapDocs (fun doc => Project.doc doc projection vars) docs
  | "$addFields" | "$set" => do
    let fields ← bodyDocument name body
    mapDocs (Project.addFields vars fields) docs
  | "$group" => do Group.run vars (← bodyDocument name body) docs
  | "$unwind" => Unwind.run body docs
  | _ => .error (.unsupportedStage name)

/-- A setting of a lookup stage that has to be a string. -/
def lookupSetting (fields : Document) (key quoted : String) : Except StoreError String :=
  match Document.string? fields key with
  | some s => .ok s
  | none => .error (.invalidStage (.lookupLacks quoted))

/-- The documents of another collection whose field equals the field of a row; what is missing is
null. -/
def equalDocs (foreign : List Document) (fields doc : Document) :
    Except StoreError (List Document) := do
  let localPath ← lookupSetting fields "localField" "'localField' or 'pipeline'"
  let foreignPath ← lookupSetting fields "foreignField" "'foreignField'"
  let key := (Document.atPath? doc localPath).getD .null
  return foreign.filter fun f => ((Document.atPath? f foreignPath).getD .null).equals key

/-- The documents that a lookup joins to one row. -/
def joinedDocs (runner? : Option Runner) (foreign : List Document) (fields doc : Document) :
    Except StoreError (List Document) :=
  match runner? with
  | some runner => do
    let bindings ← Expression.evalFields doc [] ((Document.document? fields "let").getD [])
    runner bindings foreign
  | none => equalDocs foreign fields doc

/-- Each row with the documents that a lookup joins to it. -/
def lookup (collections : Collections) (runner? : Option Runner) (fields : Document)
    (docs : List Document) : Except StoreError (List Document) := do
  let source ← lookupSetting fields "from" "'from'"
  let target ← lookupSetting fields "as" "'as'"
  let foreign := Collections.documents collections source
  mapDocs (fun doc => do
    let joined ← joinedDocs runner? foreign fields doc
    return Document.insert doc target (.array (joined.map .document))) docs

/-- Whether every stage of a list is a document. -/
def areDocuments : List Value → Bool
  | [] => true
  | .document _ :: rest => areDocuments rest
  | _ :: _ => false

mutual

/-- The rows that a stage makes. -/
def runStage (collections : Collections) (vars : Document) (stage : Value) (docs : List Document) :
    Except StoreError (List Document) :=
  match stage with
  | .document [(name, body)] =>
    if name = "$lookup" then
      match body with
      | .document fields => lookup collections (pipelineSetting? collections fields) fields docs
      | _ => .error (.invalidStage (.notDocument name))
    else runPlain name body vars docs
  | .document d => .error (.invalidStage (.notOneKey d))
  | _ => .error (.invalidStage .lookupStage)
termination_by structural stage

/-- The rows that a list of stages makes. -/
def runStages (collections : Collections) (vars : Document) (stages : List Value)
    (docs : List Document) : Except StoreError (List Document) :=
  match stages with
  | [] => .ok docs
  | stage :: rest => do runStages collections vars rest (← runStage collections vars stage docs)
termination_by structural stages

/-- What running the pipeline among the settings of a lookup stage does, if there is one. -/
def pipelineSetting? (collections : Collections) (fields : List (String × Value)) :
    Option Runner :=
  match fields with
  | [] => none
  | (key, setting) :: rest =>
    if key = "pipeline" then
      match setting with
      | .array stages => some fun vars docs =>
        if areDocuments stages then runStages collections vars stages docs
        else .error (.invalidStage .lookupStage)
      | _ => none
    else pipelineSetting? collections rest
termination_by structural fields

end

/-- The rows that a pipeline makes of the given rows. -/
def run (collections : Collections) (docs : List Document) (pipeline : List Document)
    (vars : Document) : Except StoreError (List Document) :=
  runStages collections vars (pipeline.map .document) docs

end DocQuery.Pipeline
