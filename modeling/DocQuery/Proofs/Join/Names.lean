import DocQuery.Proofs.Join.NestedLoop
import DocQuery.Proofs.Path.ReadBack
import DocQuery.Regex.Basic

/-!
# Generated names of a join

By default a join binds its local field to the name of the foreign field with an ending, and puts
what it joins under the name of the collection with an ending. Both are written as plain keys. A
variable is looked up under the part of its name in front of the first dot, and the array is looked
up as a path, so a name with a dot is not found again: the variable is null in every row, and the
unwind stage reads whatever the row already had at the path.

## Main definitions

* `Join.IsNamedBy`: a join under default names, of names from which references can be made
* `Join.boundValue`: what the variable of a join stands for
* `Join.unwoundValue?`: what the unwind stage of a join reads

## Main results

* `Expression.resolve_variable_of_mem`: a variable whose name has a dot is null
* `Join.runStage_lookupStage_eq_ok`: a lookup stage adds an array to every row
* `Join.names_of_isNamedBy`: which names of a join are found again
-/

namespace DocQuery

namespace Expression

/-- The part of a name behind its first dot is split off. -/
theorem splitVariable_of_mem {name : String} (h : '.' ∈ name.toList) :
    ∃ rest, splitVariable name.toList =
      (String.ofList (name.toList.takeWhile (· != '.')), some rest) := by
  have hrest : name.toList.drop (name.toList.takeWhile (· != '.')).length ≠ [] := by
    intro hnil
    have htake := List.prefix_iff_eq_take.1 (List.takeWhile_prefix (l := name.toList) (· != '.'))
    rw [List.take_of_length_le (List.drop_eq_nil_iff.1 hnil)] at htake
    rw [← htake] at h
    simpa using List.mem_takeWhile_imp h
  unfold splitVariable
  simp [hrest]

/-- A variable whose name has a dot is null where all names have one: what is looked up is the part
in front of the dot. -/
theorem resolve_variable_of_mem (doc : Document) {vars : Document} {name : String}
    (hdot : '.' ∈ name.toList) (hvars : ∀ key ∈ Document.keys vars, '.' ∈ key.toList) :
    resolve doc vars ("$" ++ fieldReference name) = .null := by
  obtain ⟨rest, hsplit⟩ := splitVariable_of_mem hdot
  have hmissing :
      Document.get? vars (String.ofList (name.toList.takeWhile (· != '.'))) = none := by
    refine Document.get?_eq_none_of_not_mem fun hkey => ?_
    have hdot' := hvars _ hkey
    rw [String.toList_ofList] at hdot'
    simpa using List.mem_takeWhile_imp hdot'
  unfold resolve
  rw [toList_variableReference]
  simp only [hsplit, hmissing]

end Expression

namespace Join

variable {j : Join} {collection localField token foreignField : String}

/-- A join under default names by an accepted comparator, of a collection and of fields that have
names, no sign in front of them and no more bytes than a path can have. -/
structure IsNamedBy (j : Join) (collection localField token foreignField : String) : Prop where
  onOperator_eq : onOperator collection localField token foreignField = .ok j
  collection_ne : collection ≠ ""
  localField_ne : localField ≠ ""
  foreignField_ne : foreignField ≠ ""
  localField_sign : Expression.isOperatorKey localField = false
  foreignField_sign : Expression.isOperatorKey foreignField = false
  localField_size : localField.utf8ByteSize ≤ Path.maxBytes
  boundName_size : j.boundName.utf8ByteSize ≤ Path.maxBytes
  alias_size : j.alias.utf8ByteSize ≤ Path.maxBytes

theorem IsNamedBy.eq (hj : j.IsNamedBy collection localField token foreignField) :
    j = { on collection localField foreignField with op := j.op } := by
  obtain ⟨op, -, heq⟩ := Except.bind_eq_ok_iff.1 hj.onOperator_eq
  cases heq
  rfl

/-- What the variable of a join stands for in the lookup of a row, next to a document of the other
collection. -/
def boundValue (j : Join) (row other : Document) : Except StoreError Value := do
  let bindings ← Expression.evalFields row []
    ((Document.document? j.lookupSettings "let").getD [])
  Expression.eval other bindings (.string ("$" ++ fieldReference j.boundName))

/-- What is at the path that the unwind stage of a join names. -/
def unwoundValue? (j : Join) (row : Document) : Option Value :=
  match j.unwindStage with
  | [(_, body)] =>
    match Unwind.Spec.ofValue? body with
    | .ok spec => Document.atPath? row spec.path
    | .error _ => none
  | _ => none

theorem boundValue_eq (hlocal : Expression.isOperatorKey j.localField = false)
    (row other : Document) :
    j.boundValue row other = .ok
      (if '.' ∈ j.boundName.toList then .null else row.atPathOrNull j.localField) := by
  rw [boundValue, evalFields_lookupSettings hlocal]
  change Except.ok (Expression.resolve other _ _) = _
  split
  · next hdot => rw [Expression.resolve_variable_of_mem other hdot (by simpa [Document.keys])]
  · next hdot => rw [Expression.resolve_variable _ _ hdot, Document.get?, if_pos rfl]; rfl

theorem unwoundValue?_eq (j : Join) (row : Document) :
    j.unwoundValue? row = Document.atPath? row j.alias := by
  simp only [unwoundValue?, unwindStage, Unwind.Spec.ofValue?_fieldReference]

/-- A lookup stage that succeeds adds an array to every row, under the alias as it stands. -/
theorem runStage_lookupStage_eq_ok [Regex.Engine] {collections : Collections} {vars : Document}
    {docs rows : List Document}
    (h : Pipeline.runStage collections vars (.document j.lookupStage) docs = .ok rows) :
    List.Forall₂ (fun doc row => ∃ joined, row = Document.insert doc j.alias (.array joined))
      docs rows := by
  rw [lookupStage_eq, Pipeline.runStage_lookup] at h
  refine (Pipeline.mapDocs_eq_ok_iff.1 h).imp fun doc row hrow => ?_
  obtain ⟨joined, -, heq⟩ := Except.bind_eq_ok_iff.1 hrow
  cases heq
  exact ⟨_, rfl⟩

/-- The variable of a join stands for the local field, unless the name of the foreign field has a
dot; then it stands for null. The unwind stage reads the array that the lookup stage stored, unless
the name of the collection has a dot; then it reads what was at the path before. -/
theorem names_of_isNamedBy [Regex.Engine]
    (hj : j.IsNamedBy collection localField token foreignField) :
    (∀ row other, j.boundValue row other =
      .ok (if '.' ∈ foreignField.toList then .null else row.atPathOrNull localField)) ∧
    ∀ (collections : Collections) (vars : Document) (docs rows : List Document),
      Pipeline.runStage collections vars (.document j.lookupStage) docs = .ok rows →
        List.Forall₂ (fun doc row => ∃ joined, row = Document.insert doc j.alias (.array joined) ∧
          Document.get? row j.alias = some (.array joined) ∧
          j.unwoundValue? row =
            if '.' ∈ collection.toList then Document.atPath? doc j.alias
            else some (.array joined)) docs rows := by
  have hbound : j.boundName = foreignField ++ boundNameEnd := by rw [hj.eq]; rfl
  have halias : j.alias = collection ++ aliasEnd := by rw [hj.eq]; rfl
  have hlocal : j.localField = localField := by rw [hj.eq]; rfl
  have hboundEnd : '.' ∉ boundNameEnd.toList := by decide
  have haliasEnd : '.' ∉ aliasEnd.toList := by decide
  have hboundDot : '.' ∈ j.boundName.toList ↔ '.' ∈ foreignField.toList := by
    simp [hbound, hboundEnd]
  have haliasDot : '.' ∈ j.alias.toList ↔ '.' ∈ collection.toList := by
    simp [halias, haliasEnd]
  refine ⟨fun row other => ?_, fun collections vars docs rows hrun => ?_⟩
  · rw [boundValue_eq (hlocal ▸ hj.localField_sign), hlocal]
    simp only [hboundDot]
  · refine (runStage_lookupStage_eq_ok hrun).imp fun doc row => ?_
    rintro ⟨joined, rfl⟩
    have hget := Document.get?_insert_self doc j.alias (.array joined)
    refine ⟨joined, rfl, hget, ?_⟩
    rw [unwoundValue?_eq]
    split
    · next hdot => exact Document.atPath?_insert_of_mem (haliasDot.2 hdot) _
    · next hdot =>
      have hne : j.alias ≠ "" := by simp [halias, hj.collection_ne]
      rw [Document.atPath?_of_not_mem _ hne hj.alias_size (mt haliasDot.1 hdot), hget]

/-- The buyer of an order, at a path with a dot, joined with the users. -/
theorem names_of_isNamedBy_orders :
    let j := on "users" "buyer.id" "id"
    let doc : Document := [("buyer", .document [("id", .string "al")])]
    let row : Document := [("buyer", .document [("id", .string "al")]),
      ("users#joined", .array [.document [("id", .string "al")]])]
    j.IsNamedBy "users" "buyer.id" "=" "id" ∧
      (∀ other, j.boundValue doc other = .ok (.string "al")) ∧
      Pipeline.runStage [("users", [[("id", .string "al")], [("id", .string "bo")]])] []
          (.document j.lookupStage) [doc] = .ok [row] ∧
      j.unwoundValue? row = some (.array [.document [("id", .string "al")]]) := by
  intro j doc row
  have hj : j.IsNamedBy "users" "buyer.id" "=" "id" :=
    ⟨rfl, by decide, by decide, by decide, by decide, by decide, by decide, by decide, by decide⟩
  have hrun : Pipeline.runStage [("users", [[("id", .string "al")], [("id", .string "bo")]])] []
      (.document j.lookupStage) [doc] = .ok [row] := by
    simp only [j, doc, row]
    rfl
  obtain ⟨hbound, hlookup⟩ := names_of_isNamedBy hj
  obtain ⟨⟨joined, -, hget, hunwound⟩, -⟩ := List.forall₂_cons.1 (hlookup _ _ _ _ hrun)
  cases hget
  exact ⟨hj, fun other => hbound doc other, hrun, hunwound⟩

/-- A variable named for a path with a dot is null next to an order of user 7, and an array stored
under a name with a dot is not read. -/
theorem not_forall_names_found :
    (¬ ∀ (j : Join) (collection localField token foreignField : String),
      j.IsNamedBy collection localField token foreignField → ∀ row other,
        j.boundValue row other = .ok (row.atPathOrNull localField)) ∧
    ¬ ∀ (j : Join) (collection localField token foreignField : String),
      j.IsNamedBy collection localField token foreignField →
        ∀ (collections : Collections) (vars doc row : Document),
          Pipeline.runStage collections vars (.document j.lookupStage) [doc] = .ok [row] →
            j.unwoundValue? row = Document.get? row j.alias := by
  constructor
  · intro h
    have hj : (on "users" "user" "key.id").IsNamedBy "users" "user" "=" "key.id" :=
      ⟨rfl, by decide, by decide, by decide, by decide, by decide, by decide, by decide, by decide⟩
    have hbound : Except.ok Value.null = .ok (.int32 7) := h _ _ _ _ _ hj [("user", .int32 7)] []
    cases hbound
  · intro h
    have hj : (on "eu.users" "user" "id").IsNamedBy "eu.users" "user" "=" "id" :=
      ⟨rfl, by decide, by decide, by decide, by decide, by decide, by decide, by decide, by decide⟩
    have hunwound : none = some (Value.array []) :=
      h _ _ _ _ _ hj [] [] [] [("eu.users#joined", .array [])] rfl
    cases hunwound

end Join

end DocQuery
