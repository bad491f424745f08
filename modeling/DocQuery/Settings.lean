import DocQuery.QueryError
import DocQuery.Query.Basic
import DocQuery.Toml.Reader

/-!
# Settings

Settings are read from TOML and can be overlaid by variables of the environment. A configuration
holds settings and a connection for the queries that it makes.

## Main definitions

* `Settings`: the settings, and `Settings.default`
* `Settings.ofToml`: the settings that a text writes
* `Settings.overlay`: settings under variables of the environment
* `QueryConfig`: settings and a connection
-/

namespace DocQuery

/-- The settings. -/
structure Settings where
  /-- Whether records of one insertion must share a type. -/
  strictInsertTypes : Bool
  logLevel? : Option String
  logDir? : Option String
  /-- Whether assembled pipelines go to a log of their own. -/
  tracePipelines : Bool
  deriving DecidableEq

namespace Settings

/-- Strict insertions, and nothing about logs. -/
def default : Settings := ⟨true, none, none, false⟩

/-- A truth value of a table, or a default if it is missing. -/
def booleanEntry (entries : Toml.Entries) (name : String) (default : Bool) :
    Except QueryError Bool :=
  match Toml.find? entries name with
  | none => .ok default
  | some (.boolean b) => .ok b
  | some _ => .error .malformedSettings

/-- A string of a table, if it is there. -/
def stringEntry (entries : Toml.Entries) (name : String) : Except QueryError (Option String) :=
  match Toml.find? entries name with
  | none => .ok none
  | some (.string s) => .ok (some s)
  | some _ => .error .malformedSettings

/-- The settings that a text writes. What it does not mention has its default, and entries of other
names are ignored. -/
def ofToml (text : String) : Except QueryError Settings :=
  match Toml.readDocument? text with
  | none => .error .malformedSettings
  | some entries => do
    return {
      strictInsertTypes :=
        ← booleanEntry entries "strict_insert_types" default.strictInsertTypes
      logLevel? := ← stringEntry entries "log_level"
      logDir? := ← stringEntry entries "log_dir"
      tracePipelines := ← booleanEntry entries "trace_pipelines" default.tracePipelines }

/-- The settings that the content of a file writes, if the file could be read. -/
def ofFile (content? : Option String) : Except QueryError Settings :=
  match content? with
  | some text => ofToml text
  | none => .error .unreadableFile

/-- A text with its ASCII letters in lower case. -/
def lowered (s : String) : String := String.ofList (s.toList.map Char.toLower)

/-- Whether the value of a variable switches something on. -/
def isSwitchedOn (value : String) : Bool := ["1", "true", "yes"].contains (lowered value)

/-- The settings under variables of the environment. -/
def overlay (s : Settings) (lookup? : String → Option String) : Settings :=
  { s with
    strictInsertTypes :=
      ((lookup? "SEQUELDOC_STRICT_INSERTS").map isSwitchedOn).getD s.strictInsertTypes
    logLevel? := lookup? "SEQUELDOC_LOG_LEVEL" <|> s.logLevel?
    logDir? := lookup? "SEQUELDOC_LOG_DIR" <|> s.logDir? }

end Settings

/-- Settings and a connection for the queries made from them. -/
structure QueryConfig (κ : Type) where
  settings : Settings
  connection? : Option κ

/-- A new query with the connection and the insertion rule of a configuration. -/
def QueryConfig.query {κ : Type} (c : QueryConfig κ) : Query κ :=
  { Query.empty with
    connection? := c.connection?
    strictInserts := c.settings.strictInsertTypes }

end DocQuery
