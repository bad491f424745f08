import DocQuery.Proofs.Pipeline.Rows
import DocQuery.Proofs.Value.Equivalence

/-!
# Keys of evaluated expressions

An expression takes its value from the document, from the variables and from what is written in it.
If no document in these repeats a key, none in the value does: arrays and documents are evaluated in
place, and calls give truth values and numbers.

## Main results

* `Document.hasUniqueKeys_of_atPath?`: what is read from a document without repeated keys
* `Expression.evalFields_eq_ok_iff`: the fields of a document are evaluated one by one
* `Expression.eval_hasUniqueKeys`: the value of an expression repeats no key
-/

namespace DocQuery

variable {doc vars : Document}

/-! ## Reading -/

theorem Value.HasUniqueKeys.of_step? {v found : Value} {segment : String} (hv : v.HasUniqueKeys)
    (h : v.step? segment = some found) : found.HasUniqueKeys := by
  cases v with
  | document fields => exact hv.of_get? h
  | array items =>
    obtain ⟨position, -, hitem⟩ := Option.bind_eq_some_iff.1 h
    exact hasUniqueKeys_array.1 hv found (List.mem_of_getElem? hitem)
  | _ => cases h

theorem Value.HasUniqueKeys.of_follow? {v found : Value} {segments : List String}
    (hv : v.HasUniqueKeys) (h : v.follow? segments = some found) : found.HasUniqueKeys := by
  induction segments generalizing v with
  | nil =>
    cases h
    exact hv
  | cons segment rest ih =>
    rw [follow?] at h
    split at h
    · next inner hstep => exact ih (hv.of_step? hstep) h
    · cases h

/-- What is read from a document without repeated keys repeats none. -/
theorem Document.hasUniqueKeys_of_atPath? {path : String} {found : Value}
    (hdoc : (Value.document doc).HasUniqueKeys) (h : atPath? doc path = some found) :
    found.HasUniqueKeys := by
  unfold atPath? at h
  split at h
  · cases h
  · dsimp only at h
    split at h
    · cases h
    · cases hsegments : Path.segments path with
      | nil =>
        rw [hsegments] at h
        cases h
      | cons key rest =>
        -- Entering a document is one more segment below the document as a value.
        have hfollow : (Value.document doc).follow? (key :: rest) = some found := by
          rw [hsegments] at h
          exact h
        exact hdoc.of_follow? hfollow

theorem Value.HasUniqueKeys.getD_null {found : Option Value}
    (h : ∀ v, found = some v → v.HasUniqueKeys) : (found.getD .null).HasUniqueKeys := by
  cases found with
  | none => rfl
  | some v => exact h v rfl

namespace Expression

theorem resolve_hasUniqueKeys (hdoc : (Value.document doc).HasUniqueKeys)
    (hvars : (Value.document vars).HasUniqueKeys) (s : String) :
    (resolve doc vars s).HasUniqueKeys := by
  have hvariable : ∀ name v, Document.get? vars name = some v → v.HasUniqueKeys :=
    fun name v h => hvars.of_get? h
  unfold resolve
  split
  · split
    · exact .getD_null (hvariable _)
    · split
      · next bound hbound =>
        exact .getD_null fun v => Document.hasUniqueKeys_of_atPath? (hvariable _ _ hbound)
      · rfl
  · exact .getD_null fun v => Document.hasUniqueKeys_of_atPath? hdoc
  · rfl

/-! ## Calls and parts -/

/-- A call of an operator that takes values is a truth value. -/
theorem exists_boolean_of_applyOperator {op : String} {operands : List Value} {v : Value}
    (h : applyOperator op operands = .ok v) : ∃ b, v = .boolean b := by
  unfold applyOperator at h
  split at h
  · exact ⟨_, (Except.ok.inj h).symm⟩
  · exact ⟨_, (Except.ok.inj h).symm⟩
  · exact ⟨_, (Except.ok.inj h).symm⟩
  · obtain ⟨pair, -, h⟩ := Except.bind_eq_ok_iff.1 h
    split at h
    · exact ⟨_, (Except.ok.inj h).symm⟩
    · cases h
  · split at h
    · obtain ⟨pair, -, h⟩ := Except.bind_eq_ok_iff.1 h
      exact ⟨_, (Except.ok.inj h).symm⟩
    · cases h

theorem exists_int32_of_sizeOf {v size : Value} (h : sizeOf v = .ok size) :
    ∃ n, size = .int32 n := by
  unfold sizeOf at h
  split at h
  · exact ⟨_, (Except.ok.inj h).symm⟩
  · cases h

/-- The items of an array are evaluated one by one. -/
theorem evalItems_eq_ok_iff {items values : List Value} :
    evalItems doc vars items = .ok values ↔
      List.Forall₂ (fun item v => eval doc vars item = .ok v) items values := by
  induction items generalizing values with
  | nil =>
    rw [evalItems, List.forall₂_nil_left_iff, Except.ok.injEq]
    exact eq_comm
  | cons item rest ih =>
    rw [evalItems, List.forall₂_cons_left_iff]
    constructor
    · intro h
      obtain ⟨v, hv, hrest⟩ := Except.bind_eq_ok_iff.1 h
      obtain ⟨more, hmore, heq⟩ := Except.bind_eq_ok_iff.1 hrest
      cases heq
      exact ⟨v, more, hv, ih.1 hmore, rfl⟩
    · rintro ⟨v, more, hv, hmore, rfl⟩
      rw [hv, ih.2 hmore]
      rfl

/-- The fields of a document are evaluated one by one and keep their keys. -/
theorem evalFields_eq_ok_iff {fields values : Document} :
    evalFields doc vars fields = .ok values ↔
      List.Forall₂ (fun field value => value.1 = field.1 ∧ eval doc vars field.2 = .ok value.2)
        fields values := by
  induction fields generalizing values with
  | nil =>
    rw [evalFields, List.forall₂_nil_left_iff, Except.ok.injEq]
    exact eq_comm
  | cons field rest ih =>
    obtain ⟨key, expr⟩ := field
    rw [evalFields, List.forall₂_cons_left_iff]
    constructor
    · intro h
      obtain ⟨v, hv, hrest⟩ := Except.bind_eq_ok_iff.1 h
      obtain ⟨more, hmore, heq⟩ := Except.bind_eq_ok_iff.1 hrest
      cases heq
      exact ⟨(key, v), more, ⟨rfl, hv⟩, ih.1 hmore, rfl⟩
    · rintro ⟨⟨_, v⟩, more, ⟨rfl, hv⟩, hmore, rfl⟩
      simp only [hv, ih.2 hmore]
      rfl

theorem keys_of_evalFields {fields values : Document}
    (h : evalFields doc vars fields = .ok values) : Document.keys values = Document.keys fields := by
  have hfields := evalFields_eq_ok_iff.1 h
  clear h
  induction hfields with
  | nil => rfl
  | cons hfirst _ ih =>
    simp only [Document.keys, List.map_cons] at ih ⊢
    rw [hfirst.1, ih]

/-- A document with one operator key is a call, which gives a truth value, a number or what it
quotes. -/
theorem eval_call_hasUniqueKeys {op : String} {operand v : Value} (hop : isOperatorKey op = true)
    (hoperand : operand.HasUniqueKeys) (h : eval doc vars (.document [(op, operand)]) = .ok v) :
    v.HasUniqueKeys := by
  rw [eval, if_neg (by simp [hop])] at h
  split at h
  · cases h
    exact hoperand
  · split at h
    · obtain ⟨inner, -, hsize⟩ := Except.bind_eq_ok_iff.1 h
      obtain ⟨n, rfl⟩ := exists_int32_of_sizeOf hsize
      rfl
    · split at h
      · obtain ⟨inner, -, happly⟩ := Except.bind_eq_ok_iff.1 h
        obtain ⟨b, rfl⟩ := exists_boolean_of_applyOperator happly
        rfl
      · cases h

/-- A document that is not a call is evaluated field by field. -/
theorem eval_document {fields : Document}
    (h : ∀ op operand, fields = [(op, operand)] → isOperatorKey op = false) :
    eval doc vars (.document fields) = (evalFields doc vars fields).map .document := by
  match fields with
  | [] => rfl
  | [(op, operand)] =>
    rw [eval, if_pos (h op operand rfl), evalFields, evalFields]
    cases eval doc vars operand <;> rfl
  | first :: second :: rest =>
    rw [eval.eq_4 _ _ _ (by rintro _ _ ⟨⟩)]
    cases evalFields doc vars (first :: second :: rest) <;> rfl

/-- The value of an expression repeats no key if the document, the variables and the expression
repeat none. -/
theorem eval_hasUniqueKeys {expr v : Value} (hdoc : (Value.document doc).HasUniqueKeys)
    (hvars : (Value.document vars).HasUniqueKeys) (hexpr : expr.HasUniqueKeys)
    (h : eval doc vars expr = .ok v) : v.HasUniqueKeys := by
  induction expr using Value.nestedInduction generalizing v with
  | document fields ih =>
    obtain ⟨hkeys, hinside⟩ := Value.hasUniqueKeys_document.1 hexpr
    by_cases hcall : ∃ op operand, fields = [(op, operand)] ∧ isOperatorKey op = true
    · obtain ⟨op, operand, rfl, hop⟩ := hcall
      exact eval_call_hasUniqueKeys hop (hinside _ List.mem_cons_self) h
    · have hplain : ∀ op operand, fields = [(op, operand)] → isOperatorKey op = false :=
        fun op operand heq => Bool.eq_false_iff.2 fun hop => hcall ⟨op, operand, heq, hop⟩
      rw [eval_document hplain] at h
      obtain ⟨values, hvalues, rfl⟩ := Except.map_eq_ok_iff.1 h
      refine Value.hasUniqueKeys_document.2 ⟨?_, fun value hvalue => ?_⟩
      · unfold Document.HasUniqueKeys
        rwa [keys_of_evalFields hvalues]
      · obtain ⟨field, hfield, -, heval⟩ :=
          exists_mem_of_forall₂ (evalFields_eq_ok_iff.1 hvalues) hvalue
        exact ih field hfield (hinside field hfield) heval
  | array items ih =>
    rw [eval] at h
    obtain ⟨values, hvalues, heq⟩ := Except.bind_eq_ok_iff.1 h
    cases heq
    refine Value.hasUniqueKeys_array.2 fun value hvalue => ?_
    obtain ⟨item, hitem, heval⟩ := exists_mem_of_forall₂ (evalItems_eq_ok_iff.1 hvalues) hvalue
    exact ih item hitem (Value.hasUniqueKeys_array.1 hexpr item hitem) heval
  | scope code fields =>
    cases h
    exact hexpr
  | flat expr hflat =>
    cases expr with
    | string s =>
      cases h
      exact resolve_hasUniqueKeys hdoc hvars s
    | document fields | array items => cases hflat
    | _ =>
      cases h
      exact hexpr

end Expression

end DocQuery
