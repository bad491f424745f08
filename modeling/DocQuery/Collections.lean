import DocQuery.Value.Basic

/-!
# Collections

The documents of a store, by the name of their collection.

## Main definitions

* `Collections.find?`: the documents of a collection that exists
* `Collections.documents`: the documents of a collection, none if it does not exist
* `Collections.set`: the collections with the documents of one replaced
* `Collections.names`: the names, in order
-/

namespace DocQuery

/-- The documents of a store, by the name of their collection. -/
abbrev Collections := List (String × List Document)

namespace Collections

/-- The documents of a collection that exists. -/
def find? : Collections → String → Option (List Document)
  | [], _ => none
  | (n, docs) :: rest, name => if n = name then some docs else find? rest name

/-- The documents of a collection; one that does not exist has none. -/
def documents (c : Collections) (name : String) : List Document := (find? c name).getD []

/-- The collections with the documents of one replaced, which is made if it does not exist. -/
def set : Collections → String → List Document → Collections
  | [], name, docs => [(name, docs)]
  | (n, old) :: rest, name, docs =>
    if n = name then (n, docs) :: rest else (n, old) :: set rest name docs

/-- Puts a name into a list of names that is in order. -/
def insertName (name : String) : List String → List String
  | [] => [name]
  | n :: rest => if name < n then name :: n :: rest else n :: insertName name rest

/-- The names of the collections, in order. -/
def names (c : Collections) : List String := (c.map Prod.fst).foldr insertName []

@[simp]
theorem find?_set_self (c : Collections) (name : String) (docs : List Document) :
    find? (set c name docs) name = some docs := by
  induction c with
  | nil => simp [set, find?]
  | cons entry rest ih =>
    obtain ⟨n, old⟩ := entry
    by_cases h : n = name <;> simp [set, find?, h, ih]

theorem find?_set_of_ne (c : Collections) {name other : String} (docs : List Document)
    (h : other ≠ name) : find? (set c name docs) other = find? c other := by
  induction c with
  | nil => simp [set, find?, Ne.symm h]
  | cons entry rest ih =>
    obtain ⟨n, old⟩ := entry
    by_cases hn : n = name
    · subst hn; simp [set, find?, Ne.symm h]
    · simp [set, find?, hn, ih]

theorem set_of_find? {c : Collections} {name : String} {docs : List Document}
    (h : find? c name = some docs) : set c name docs = c := by
  induction c with
  | nil => cases h
  | cons entry rest ih =>
    obtain ⟨n, old⟩ := entry
    rw [find?] at h
    rw [set]
    split at h
    · next hn =>
      cases h
      rw [if_pos hn]
    · next hn => rw [if_neg hn, ih h]

end Collections

end DocQuery
