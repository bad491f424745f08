import DocQuery.Double.Basic

/-!
# Values and documents

A document is a list of fields in the order in which they were first written; a value is anything
that a field can hold, documents and arrays included.

## Main definitions

* `ObjectId`, `Decimal128`: identifiers and decimal numbers, as the words that store them
* `Value`: the values of the data model
* `Document`: fields in order
* `Document.get?`, `Document.insert`, `Document.erase`: reading, writing and removing one field
* `Document.extend`, `Document.ofList`: writing many fields, from the left
* `Document.HasUniqueKeys`: no key stands twice

## Design notes

`Document` is a list of pairs, because the order of the fields is visible in every answer. Writing a
field that is there keeps its place, so that every operation keeps the keys unique.
-/

namespace DocQuery

/-- An identifier of twelve bytes, the first byte most significant. -/
structure ObjectId where
  bits : BitVec 96
  deriving DecidableEq, Inhabited

/-- A decimal floating-point number in 128 bits, as the word that stores it. -/
structure Decimal128 where
  bits : BitVec 128
  deriving DecidableEq, Inhabited

/-- The values of the data model. -/
inductive Value where
  /-- Stands below every other value. -/
  | minKey
  | undefined
  | null
  | boolean (b : Bool)
  | int32 (n : Int32)
  | int64 (n : Int64)
  | double (x : Double)
  | decimal128 (x : Decimal128)
  | string (s : String)
  | symbol (s : String)
  | document (fields : List (String × Value))
  | array (items : List Value)
  | binary (subtype : UInt8) (bytes : List UInt8)
  | objectId (id : ObjectId)
  /-- Milliseconds since the start of 1970, in UTC. -/
  | dateTime (millis : Int64)
  | timestamp (time increment : UInt32)
  | regularExpression (pattern options : String)
  | dbPointer (collection : String) (id : ObjectId)
  | javaScript (code : String)
  | javaScriptWithScope (code : String) (scope : List (String × Value))
  /-- Stands above every other value. -/
  | maxKey
  deriving Inhabited

/-- Fields in the order in which they were first written. -/
abbrev Document := List (String × Value)

namespace Document

/-- The value of the field with the given key. -/
def get? : Document → String → Option Value
  | [], _ => none
  | (k, v) :: rest, key => if k = key then some v else get? rest key

/-- Whether there is a field with the given key. -/
def contains (d : Document) (key : String) : Bool := (get? d key).isSome

/-- Writes one field: in its place if the key is there, else at the end. -/
def insert : Document → String → Value → Document
  | [], key, value => [(key, value)]
  | (k, v) :: rest, key, value =>
    if k = key then (k, value) :: rest else (k, v) :: insert rest key value

/-- Removes one field and keeps the order of the others. -/
def erase : Document → String → Document
  | [], _ => []
  | (k, v) :: rest, key => if k = key then rest else (k, v) :: erase rest key

/-- The keys, in order. -/
def keys (d : Document) : List String := d.map Prod.fst

/-- Writes the fields of a second document one after another. -/
def extend (d extra : Document) : Document :=
  extra.foldl (fun acc field => insert acc field.1 field.2) d

/-- The document that writing the given fields one after another makes. -/
def ofList (fields : List (String × Value)) : Document := extend [] fields

/-- No key stands twice. -/
def HasUniqueKeys (d : Document) : Prop := (keys d).Nodup

/-- The text of a field that holds a string. -/
def string? (d : Document) (key : String) : Option String :=
  match get? d key with
  | some (.string s) => some s
  | _ => none

/-- The truth value of a field that holds one. -/
def boolean? (d : Document) (key : String) : Option Bool :=
  match get? d key with
  | some (.boolean b) => some b
  | _ => none

/-- The fields of a field that holds a document. -/
def document? (d : Document) (key : String) : Option Document :=
  match get? d key with
  | some (.document inner) => some inner
  | _ => none

/-! ## One field written, another read -/

@[simp]
theorem get?_insert_self (d : Document) (key : String) (value : Value) :
    get? (insert d key value) key = some value := by
  induction d with
  | nil => simp [insert, get?]
  | cons field rest ih =>
    obtain ⟨k, v⟩ := field
    by_cases h : k = key <;> simp [insert, get?, h, ih]

theorem get?_insert_of_ne (d : Document) {key other : String} (value : Value)
    (h : other ≠ key) : get? (insert d key value) other = get? d other := by
  induction d with
  | nil => simp [insert, get?, Ne.symm h]
  | cons field rest ih =>
    obtain ⟨k, v⟩ := field
    by_cases hk : k = key
    · subst hk; simp [insert, get?, Ne.symm h]
    · simp [insert, get?, hk, ih]

/-- Writing a field leaves the keys alone if the key is there, and adds it at the end if not. -/
theorem keys_insert (d : Document) (key : String) (value : Value) :
    keys (insert d key value) = if key ∈ keys d then keys d else keys d ++ [key] := by
  induction d with
  | nil => simp [insert, keys]
  | cons field rest ih =>
    obtain ⟨k, v⟩ := field
    by_cases h : k = key
    · simp [insert, keys, h]
    · have h' : ¬ key = k := fun e => h e.symm
      simp only [insert, h, if_false, keys, List.map_cons, List.mem_cons, h', false_or] at ih ⊢
      rw [ih]
      split <;> simp_all

theorem contains_iff_mem_keys (d : Document) (key : String) :
    contains d key = true ↔ key ∈ keys d := by
  induction d with
  | nil => simp [contains, get?, keys]
  | cons field rest ih =>
    obtain ⟨k, v⟩ := field
    by_cases h : k = key
    · simp [contains, get?, keys, h]
    · have h' : ¬ key = k := fun e => h e.symm
      simp only [contains, get?, h, if_false, keys, List.map_cons, List.mem_cons, h', false_or]
      exact ih

/-- Writing a field keeps the keys unique. -/
theorem HasUniqueKeys.insert {d : Document} (h : HasUniqueKeys d) (key : String) (value : Value) :
    HasUniqueKeys (Document.insert d key value) := by
  unfold HasUniqueKeys at *
  rw [keys_insert]
  split
  · exact h
  · rename_i hk
    exact List.nodup_append.2 ⟨h, by simp, by
      intro a ha b hb
      simp only [List.mem_singleton] at hb
      subst hb
      exact fun e => hk (e ▸ ha)⟩

end Document

end DocQuery
