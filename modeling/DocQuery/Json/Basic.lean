import DocQuery.Double.Text
import DocQuery.Text.Hex

/-!
# JSON

JSON values and their compact text. Numbers are integers or doubles; the two are told apart by how
they are written.

## Main definitions

* `Json`: the values
* `Json.sorted`: a value with the members of every object in the order of their names
* `Json.text`: the compact text of a value
-/

namespace DocQuery

/-- JSON values. -/
inductive Json where
  | null
  | bool (b : Bool)
  | int (n : Int)
  | double (x : Double)
  | string (s : String)
  | array (items : List Json)
  | object (members : List (String × Json))
  deriving Inhabited

namespace Json

/-! ## Order of members -/

/-- Puts a member into a list in the order of names. A member of the same name is replaced. -/
def insertMember (name : String) (value : Json) : List (String × Json) → List (String × Json)
  | [] => [(name, value)]
  | (n, v) :: rest =>
    if name = n then (name, value) :: rest
    else if name < n then (name, value) :: (n, v) :: rest
    else (n, v) :: insertMember name value rest

/-- The object of the given members: in the order of names, and of several members of one name the
last one. -/
def ofMembers (members : List (String × Json)) : Json :=
  .object (members.foldl (fun acc m => insertMember m.1 m.2 acc) [])

mutual

/-- A value with the members of every object in the order of their names. -/
def sorted (v : Json) : Json :=
  match v with
  | .array items => .array (sortedItems items)
  | .object members => ofMembers (sortedMembers members)
  | v => v
termination_by structural v

/-- The items of an array, each sorted. -/
def sortedItems (items : List Json) : List Json :=
  match items with
  | [] => []
  | item :: rest => item.sorted :: sortedItems rest
termination_by structural items

/-- The members of an object, each sorted, in their old order. -/
def sortedMembers (members : List (String × Json)) : List (String × Json) :=
  match members with
  | [] => []
  | (name, value) :: rest => (name, value.sorted) :: sortedMembers rest
termination_by structural members

end

/-! ## Text -/

/-- The text of one character in a string: quotes, backslashes and controls are escaped. -/
def escapeChar (c : Char) : List Char :=
  match c with
  | '"' => ['\\', '"']
  | '\\' => ['\\', '\\']
  | '\n' => ['\\', 'n']
  | '\r' => ['\\', 'r']
  | '\t' => ['\\', 't']
  | '\x08' => ['\\', 'b']
  | '\x0c' => ['\\', 'f']
  | c => if c.toNat < 32 then '\\' :: 'u' :: Hex.ofNat 4 c.toNat else [c]

/-- A string in quotes. -/
def quote (s : String) : String := "\"" ++ String.ofList (s.toList.flatMap escapeChar) ++ "\""

mutual

/-- The compact text of a value. -/
def text (v : Json) : String :=
  match v with
  | .null => "null"
  | .bool b => if b then "true" else "false"
  | .int n => toString n
  | .double x => x.jsonText?.getD "null"
  | .string s => quote s
  | .array items => "[" ++ ",".intercalate (itemTexts items) ++ "]"
  | .object members => "\x7b" ++ ",".intercalate (memberTexts members) ++ "\x7d"
termination_by structural v

/-- The texts of the items of an array. -/
def itemTexts (items : List Json) : List String :=
  match items with
  | [] => []
  | item :: rest => item.text :: itemTexts rest
termination_by structural items

/-- The texts of the members of an object. -/
def memberTexts (members : List (String × Json)) : List String :=
  match members with
  | [] => []
  | (name, value) :: rest => (quote name ++ ":" ++ value.text) :: memberTexts rest
termination_by structural members

end

end Json

end DocQuery
