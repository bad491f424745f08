import DocQuery.Settings

/-!
# Log files

Where log lines go: all of them to one file, and the lines of pipelines on request to another.

## Main definitions

* `LogLevel`: the levels, and `LogLevel.ofName?`, the level of a name
* `LogPlan`: the files, the outputs and the rules of a configuration
* `LogPlan.ofSettings`: the plan for a level
-/

namespace DocQuery

/-- How much is logged. -/
inductive LogLevel where
  | error
  | warn
  | info
  | debug
  | trace
  deriving DecidableEq

namespace LogLevel

/-- The level of a name in any case; every other name, and none, stands for information. -/
def ofName? (name? : Option String) : LogLevel :=
  match Settings.lowered (name?.getD "info") with
  | "error" => error
  | "warn" => warn
  | "debug" => debug
  | "trace" => trace
  | _ => info

/-- The name of a level in messages. -/
def name : LogLevel → String
  | error => "ERROR"
  | warn => "WARN"
  | info => "INFO"
  | debug => "DEBUG"
  | trace => "TRACE"

end LogLevel

/-- A rule for the lines of one source. -/
structure LogRule where
  source : String
  level : LogLevel
  /-- Whether the lines also go where all other lines go. -/
  additive : Bool
  outputs : List String
  deriving DecidableEq

/-- The files, the outputs and the rules of a configuration. -/
structure LogPlan where
  /-- The names of the files, in order. -/
  files : List String
  outputs : List String
  rules : List LogRule
  rootLevel : LogLevel
  rootOutputs : List String
  deriving DecidableEq

namespace LogPlan

/-- The source of the lines of pipelines. -/
def pipelineSource : String := "sequeldoc::pipeline"

/-- The plan for a level, with or without a file for the lines of pipelines. -/
def ofSettings (level : LogLevel) (tracePipelines : Bool) : LogPlan :=
  { files := (if tracePipelines then ["pipeline.log"] else []) ++ ["sequeldoc.log"]
    outputs := "app" :: (if tracePipelines then ["pipeline"] else [])
    rules := if tracePipelines then [⟨pipelineSource, .trace, false, ["pipeline"]⟩] else []
    rootLevel := level
    rootOutputs := ["app"] }

end LogPlan

end DocQuery
