import DocQuery.StoreError
import DocQuery.Text.Integer

/-!
# Dotted paths

A path names a place inside a document: segments between dots, each the key of a document or, for
reading, the position of an item of an array.

## Main definitions

* `Path.segments`: the segments of a path
* `Document.atPath?`: the value at a path
* `Document.setPath`: a document with the value at a path written
* `Document.removePath?`: the value at a path and the document without it

## Design notes

Reading gives up on paths of more than 1024 bytes and on more than 33 segments; writing has no such
limits, makes the documents that are missing on the way and does not enter arrays. A write that
fails leaves the document as it was, so `setPath` returns the new document alone.
-/

namespace DocQuery

namespace Path

/-- The pieces of a text between its dots. -/
def splitDots : List Char → List (List Char)
  | [] => [[]]
  | c :: rest =>
    if c = '.' then [] :: splitDots rest
    else
      match splitDots rest with
      | [] => [[c]]
      | piece :: more => (c :: piece) :: more

/-- The segments of a path. -/
def segments (path : String) : List String := (splitDots path.toList).map String.ofList

/-- The longest path that can be read, in bytes. -/
def maxBytes : Nat := 1024

/-- The greatest number of segments that can follow the first one when reading. -/
def maxDepth : Nat := 32

/-- The position that a segment stands for. -/
def index? (segment : String) : Option Nat := Integer.readUnsigned? segment.toList

theorem splitDots_ne_nil (chars : List Char) : splitDots chars ≠ [] := by
  cases chars with
  | nil => simp [splitDots]
  | cons c rest =>
    simp only [splitDots]
    split
    · simp
    · split <;> simp

/-- A text without a dot is one segment. -/
theorem splitDots_of_not_mem {chars : List Char} (h : '.' ∉ chars) : splitDots chars = [chars] := by
  induction chars with
  | nil => rfl
  | cons c rest ih =>
    simp only [List.mem_cons, not_or] at h
    have hc : c ≠ '.' := fun e => h.1 e.symm
    simp [splitDots, hc, ih h.2]

end Path

/-- The value one segment below a value. -/
def Value.step? (v : Value) (segment : String) : Option Value :=
  match v with
  | .document fields => Document.get? fields segment
  | .array items => (Path.index? segment).bind (items[·]?)
  | _ => none

/-- The value that a list of segments leads to. -/
def Value.follow? : Value → List String → Option Value
  | v, [] => some v
  | v, segment :: rest =>
    match v.step? segment with
    | some inner => inner.follow? rest
    | none => none

namespace Document

/-- The value that a list of segments leads to, starting at a key of the document. -/
def follow? (d : Document) : List String → Option Value
  | [] => none
  | key :: rest =>
    match get? d key with
    | some v => v.follow? rest
    | none => none

/-- The value at a path, for a path that is neither empty nor too long. -/
def atPath? (d : Document) (path : String) : Option Value :=
  if path = "" ∨ Path.maxBytes < path.utf8ByteSize then none
  else
    let segments := Path.segments path
    if Path.maxDepth + 1 < segments.length then none else follow? d segments

/-- Writes a value below a list of segments, making the documents that are missing on the way. -/
def setSegments (d : Document) (segments : List String) (value : Value) :
    Except StoreError Document :=
  match segments with
  | [] => .ok d
  | [key] => .ok (insert d key value)
  | key :: rest =>
    match get? d key with
    | none => return insert d key (.document (← setSegments [] rest value))
    | some (.document inner) => return insert d key (.document (← setSegments inner rest value))
    | some _ => .error (.typeMismatch (.notDocument key))

/-- Writes a value at a path. Fails if something on the way is neither missing nor a document. -/
def setPath (d : Document) (path : String) (value : Value) : Except StoreError Document :=
  setSegments d (Path.segments path) value

/-- The value below a list of segments, reached through documents alone, and the document without
it. -/
def removeSegments? (d : Document) (segments : List String) : Option (Value × Document) :=
  match segments with
  | [] => none
  | [key] => (get? d key).map fun found => (found, erase d key)
  | key :: rest =>
    match get? d key with
    | some (.document inner) =>
      (removeSegments? inner rest).map fun (found, left) => (found, insert d key (.document left))
    | _ => none

/-- The value at a path, reached through documents alone, and the document without it. -/
def removePath? (d : Document) (path : String) : Option (Value × Document) :=
  removeSegments? d (Path.segments path)

end Document

end DocQuery
