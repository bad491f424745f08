/-!
# TOML documents

A TOML document is a table of named values. Tables are defined once: by a header, by the dotted keys
of one place, or inline; a header may complete a table that only an inner header has mentioned.

## Main definitions

* `Toml`: the values
* `Toml.put?`: a table with one more value below a dotted key
* `Toml.openTable?`, `Toml.openArray?`: a table with one more header
* `Toml.modifyAt?`: a table with a change below the path of a header
-/

namespace DocQuery

/-- How a table came about. -/
inductive TableOrigin where
  /-- By a header of its own. -/
  | header
  /-- By the header of an inner table. -/
  | mentioned
  /-- By dotted keys. -/
  | dotted
  /-- In the place of a value. -/
  | inline
  deriving DecidableEq

/-- The values of a document. -/
inductive Toml where
  | string (s : String)
  | boolean (b : Bool)
  /-- A number or a date. -/
  | scalar
  | array (items : List Toml)
  /-- Tables that share a header, the last one first. -/
  | tables (newest : List (String × Toml)) (older : List Toml)
  | table (origin : TableOrigin) (entries : List (String × Toml))

namespace Toml

/-- The values of a table, in the order of their definition. -/
abbrev Entries := List (String × Toml)

/-- The value of the given name. -/
def find? (entries : Entries) (name : String) : Option Toml := entries.lookup name

/-- A table with one value replaced, or added at the end. -/
def set (entries : Entries) (name : String) (value : Toml) : Entries :=
  match entries with
  | [] => [(name, value)]
  | (n, v) :: rest => if n = name then (n, value) :: rest else (n, v) :: set rest name value

/-- A table with one more value below a dotted key. No value is defined twice, and dotted keys
enter only tables that no header and no value defines. -/
def put? (entries : Entries) (keys : List String) (value : Toml) : Option Entries :=
  match keys with
  | [] => none
  | [name] => if (find? entries name).isSome then none else some (set entries name value)
  | name :: rest =>
    match find? entries name with
    | none => (put? [] rest value).map fun inner => set entries name (.table .dotted inner)
    | some (.table .dotted inner) =>
      (put? inner rest value).map fun inner => set entries name (.table .dotted inner)
    | some (.table .mentioned inner) =>
      (put? inner rest value).map fun inner => set entries name (.table .mentioned inner)
    | some _ => none

/-- A table with a change below the path of a header. Tables that are missing on the way are made,
and of tables that share a header the last one is meant. -/
def modifyAt? (entries : Entries) (path : List String) (change : Entries → Option Entries) :
    Option Entries :=
  match path with
  | [] => change entries
  | name :: rest =>
    match find? entries name with
    | none =>
      (modifyAt? [] rest change).map fun inner => set entries name (.table .mentioned inner)
    | some (.table .inline _) => none
    | some (.table origin inner) =>
      (modifyAt? inner rest change).map fun inner => set entries name (.table origin inner)
    | some (.tables newest older) =>
      (modifyAt? newest rest change).map fun newest => set entries name (.tables newest older)
    | some _ => none

/-- A table with one more table under a header of its own. -/
def addTable? (name : String) (entries : Entries) : Option Entries :=
  match find? entries name with
  | none => some (set entries name (.table .header []))
  | some (.table .mentioned inner) => some (set entries name (.table .header inner))
  | some _ => none

/-- A table with one more table under a header that several tables share. -/
def addToTables? (name : String) (entries : Entries) : Option Entries :=
  match find? entries name with
  | none => some (set entries name (.tables [] []))
  | some (.tables newest older) =>
    some (set entries name (.tables [] (.table .header newest :: older)))
  | some _ => none

/-- A table with one more change at the last name of a path. -/
def atLast? (entries : Entries) (path : List String) (change : String → Entries → Option Entries) :
    Option Entries := do
  let name ← path.getLast?
  modifyAt? entries path.dropLast (change name)

/-- A table with one more header. -/
def openTable? (entries : Entries) (path : List String) : Option Entries :=
  atLast? entries path addTable?

/-- A table with one more header that several tables share. -/
def openArray? (entries : Entries) (path : List String) : Option Entries :=
  atLast? entries path addToTables?

end Toml

end DocQuery
