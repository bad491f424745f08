import DocQuery.Mutation
import DocQuery.Proofs.Path.Lens

/-!
# Steps of a mutation

A step is one operator with one path and one operand. What it writes is decided by the value at its
path alone, so a run of steps at diverging paths can be planned on the document it starts from, and
neither its success nor the document it leaves depends on the order of the steps.

## Main definitions

* `Mutation.Writer`, `Mutation.Step`: the operators that write, and their steps
* `Mutation.runSteps`: a run of steps
* `Mutation.Step.decide`: what a step writes, by the value at its path
* `Mutation.plan`, `Mutation.writeAll`: the writes of a run, decided beforehand, and their execution

## Main results

* `Mutation.runSteps_eq_ok_iff`: a run at diverging paths executes its plan
* `Mutation.runSteps_perm`: runs of the same steps at diverging paths agree in every order
-/

namespace DocQuery

namespace Path

/-- Any two of the paths diverge. -/
def PairwiseDiverge (paths : List String) : Prop :=
  paths.Pairwise fun p q => Diverge (segments p) (segments q)

theorem PairwiseDiverge.perm {paths others : List String} (h : PairwiseDiverge paths)
    (hperm : paths.Perm others) : PairwiseDiverge others :=
  hperm.pairwise h fun hdiverge => hdiverge.symm

theorem PairwiseDiverge.sublist {paths others : List String} (h : PairwiseDiverge paths)
    (hsub : others.Sublist paths) : PairwiseDiverge others :=
  List.Pairwise.sublist hsub h

theorem PairwiseDiverge.nodup {paths : List String} (h : PairwiseDiverge paths) :
    paths.Nodup := by
  refine h.imp fun {p q} hdiverge => ?_
  rintro rfl
  exact hdiverge.1 List.prefix_rfl

end Path

namespace Mutation

/-- The operators that write a value at a path. -/
inductive Writer where
  | set
  | increment
  | push
  | pull
  deriving DecidableEq

/-- The name of an operator in a mutation document. -/
def Writer.key : Writer → String
  | set => "$set"
  | increment => "$inc"
  | push => "$push"
  | pull => "$pull"

/-- One operator with one path and one operand. -/
structure Step where
  op : Writer
  path : String
  operand : Value

variable [Regex.Engine]

/-- The change that a step makes. -/
def Step.apply (s : Step) (doc : Document) : Change :=
  applyField s.op.key doc s.path s.operand

/-- A run of steps, up to the first that fails. -/
def runSteps : List Step → Document → Outcome
  | [], doc => ⟨doc, .ok false⟩
  | s :: rest, doc =>
    match s.apply doc with
    | .error e => ⟨doc, .error e⟩
    | .ok (next, changed) => (runSteps rest next).after changed

/-! ## Decisions -/

/-- What a step writes, if it writes at all, and whether that counts as a change, by the value at
its path. -/
def Step.decide (s : Step) (found? : Option Value) : Except StoreError (Option Value × Bool) :=
  match s.op with
  | .set =>
    match found? with
    | some found => .ok (if found.same s.operand then (none, false) else (some s.operand, true))
    | none => .ok (some s.operand, true)
  | .increment =>
    let current := found?.getD (.int32 0)
    match add? current s.operand with
    | some next => .ok (some next, !next.same current)
    | none => .error (.typeMismatch (.notNumber s.path))
  | .push => do
    let items ← pushedItems s.operand
    let array ← match found? with
      | some (.array a) => pure a
      | none | some .null => pure []
      | some _ => .error (.typeMismatch (.notArray s.path))
    return if items.isEmpty then (none, false) else (some (.array (array ++ items)), true)
  | .pull =>
    match found? with
    | some (.array items) => do
      let kept ← keptItems s.operand items
      return if kept.length = items.length then (none, false) else (some (.array kept), true)
    | _ => .ok (none, false)

/-- Writes a value at a path, if there is one to write. -/
def writeIfAny (doc : Document) (path : String) : Option Value → Except StoreError Document
  | some value => Document.setPath doc path value
  | none => .ok doc

/-- A step reads the value at its path, decides, and writes. -/
theorem Step.apply_eq (s : Step) (doc : Document) :
    s.apply doc = do
      let (value?, changed) ← s.decide (Document.atPath? doc s.path)
      return (← writeIfAny doc s.path value?, changed) := by
  obtain ⟨op, path, operand⟩ := s
  -- Each operator branches on the value at the path alone, in the order of its decision.
  cases op with
  | set =>
    change Mutation.set doc path operand = _
    unfold Mutation.set Step.decide
    cases Document.atPath? doc path with
    | none => rfl
    | some found =>
      simp only
      split <;> rfl
  | increment =>
    change Mutation.increment doc path operand = _
    unfold Mutation.increment Step.decide
    simp only
    cases add? ((Document.atPath? doc path).getD (.int32 0)) operand <;> rfl
  | push =>
    change Mutation.push doc path operand = _
    unfold Mutation.push Step.decide
    cases pushedItems operand with
    | error e => rfl
    | ok items =>
      simp only [bind, Except.bind]
      cases Document.atPath? doc path with
      | none =>
        simp only [pure, Except.pure]
        split <;> rfl
      | some found =>
        cases found with
        | array | null =>
          simp only [pure, Except.pure]
          split <;> rfl
        | _ => rfl
  | pull =>
    change Mutation.pull doc path operand = _
    unfold Mutation.pull Step.decide
    cases Document.atPath? doc path with
    | none => rfl
    | some found =>
      cases found with
      | array items =>
        simp only [bind, Except.bind]
        cases keptItems operand items with
        | error e => rfl
        | ok kept =>
          simp only [pure, Except.pure]
          split <;> rfl
      | _ => rfl

/-- A step succeeds if its decision does and the write that it decides on. -/
theorem Step.apply_eq_ok_iff {s : Step} {doc next : Document} {changed : Bool} :
    s.apply doc = .ok (next, changed) ↔
      ∃ value?, s.decide (Document.atPath? doc s.path) = .ok (value?, changed) ∧
        writeIfAny doc s.path value? = .ok next := by
  rw [Step.apply_eq, Except.bind_eq_ok_iff]
  constructor
  · rintro ⟨⟨value?, c⟩, hdecide, h⟩
    obtain ⟨left, hwrite, heq⟩ := Except.bind_eq_ok_iff.1 h
    cases heq
    exact ⟨value?, hdecide, hwrite⟩
  · rintro ⟨value?, hdecide, hwrite⟩
    exact ⟨_, hdecide, Except.bind_eq_ok_iff.2 ⟨next, hwrite, rfl⟩⟩

/-! ## Runs -/

theorem runSteps_cons_eq_ok_iff {s : Step} {rest : List Step} {doc last : Document}
    {changed : Bool} :
    runSteps (s :: rest) doc = ⟨last, .ok changed⟩ ↔
      ∃ next c c', s.apply doc = .ok (next, c) ∧ runSteps rest next = ⟨last, .ok c'⟩ ∧
        changed = (c || c') := by
  rw [runSteps]
  constructor
  · intro h
    split at h
    · cases h
    · next next c happly =>
      cases hrun : runSteps rest next with
      | mk left result =>
        rw [hrun] at h
        cases result with
        | error e => cases h
        | ok c' =>
          cases h
          exact ⟨next, c, c', happly, hrun, rfl⟩
  · rintro ⟨next, c, c', happly, hrun, rfl⟩
    rw [happly]
    simp only [hrun]
    rfl

/-- What a run writes, decided on the document it starts from, and whether anything changes. -/
def plan (doc : Document) : List Step → Except StoreError (List (String × Value) × Bool)
  | [] => .ok ([], false)
  | s :: rest => do
    let (value?, changed) ← s.decide (Document.atPath? doc s.path)
    let (writes, changed') ← plan doc rest
    return (value?.toList.map (s.path, ·) ++ writes, changed || changed')

/-- Writes values at paths, one after another. -/
def writeAll : List (String × Value) → Document → Except StoreError Document
  | [], doc => .ok doc
  | (path, value) :: rest, doc => do writeAll rest (← Document.setPath doc path value)

theorem plan_cons_eq_ok_iff {s : Step} {rest : List Step} {doc : Document}
    {writes : List (String × Value)} {changed : Bool} :
    plan doc (s :: rest) = .ok (writes, changed) ↔
      ∃ value? c writes' c', s.decide (Document.atPath? doc s.path) = .ok (value?, c) ∧
        plan doc rest = .ok (writes', c') ∧
        writes = value?.toList.map (s.path, ·) ++ writes' ∧ changed = (c || c') := by
  rw [plan, Except.bind_eq_ok_iff]
  constructor
  · rintro ⟨⟨value?, c⟩, hdecide, h⟩
    obtain ⟨⟨writes', c'⟩, hplan, heq⟩ := Except.bind_eq_ok_iff.1 h
    cases heq
    exact ⟨value?, c, writes', c', hdecide, hplan, rfl, rfl⟩
  · rintro ⟨value?, c, writes', c', hdecide, hplan, rfl, rfl⟩
    exact ⟨_, hdecide, Except.bind_eq_ok_iff.2 ⟨_, hplan, rfl⟩⟩

/-- A plan reads the paths of its steps alone. -/
theorem plan_congr {steps : List Step} {doc other : Document}
    (h : ∀ s ∈ steps, Document.atPath? doc s.path = Document.atPath? other s.path) :
    plan doc steps = plan other steps := by
  induction steps with
  | nil => rfl
  | cons s rest ih =>
    rw [plan, plan, h s List.mem_cons_self, ih fun s hs => h s (List.mem_cons_of_mem _ hs)]

/-- A plan writes at paths of its steps, in their order. -/
theorem sublist_of_plan_eq_ok {steps : List Step} {doc : Document}
    {writes : List (String × Value)} {changed : Bool} (h : plan doc steps = .ok (writes, changed)) :
    (writes.map Prod.fst).Sublist (steps.map Step.path) := by
  induction steps generalizing writes changed with
  | nil =>
    cases h
    exact .refl _
  | cons s rest ih =>
    obtain ⟨value?, c, writes', c', -, hplan, rfl, -⟩ := plan_cons_eq_ok_iff.1 h
    cases value? with
    | none => exact (ih hplan).cons s.path
    | some value => exact (ih hplan).cons_cons s.path

omit [Regex.Engine] in
theorem writeAll_optional (value? : Option Value) (path : String)
    (writes : List (String × Value)) (doc : Document) :
    writeAll (value?.toList.map (path, ·) ++ writes) doc =
      writeIfAny doc path value? >>= writeAll writes := by
  cases value? <;> rfl

omit [Regex.Engine] in
theorem atPath?_writeIfAny {doc next : Document} {path other : String} {value? : Option Value}
    (h : Path.Diverge (Path.segments path) (Path.segments other))
    (hwrite : writeIfAny doc path value? = .ok next) :
    Document.atPath? next other = Document.atPath? doc other := by
  cases value? with
  | none =>
    cases hwrite
    rfl
  | some value => exact Document.atPath?_setPath h hwrite

/-- A run at diverging paths executes its plan. -/
theorem runSteps_eq_ok_iff {steps : List Step}
    (h : Path.PairwiseDiverge (steps.map Step.path)) {doc last : Document} {changed : Bool} :
    runSteps steps doc = ⟨last, .ok changed⟩ ↔
      ∃ writes, plan doc steps = .ok (writes, changed) ∧ writeAll writes doc = .ok last := by
  induction steps generalizing doc changed with
  | nil =>
    constructor
    · intro hrun
      cases hrun
      exact ⟨[], rfl, rfl⟩
    · rintro ⟨writes, hplan, hwrite⟩
      cases hplan
      cases hwrite
      rfl
  | cons s rest ih =>
    obtain ⟨hhead, htail⟩ := List.pairwise_cons.1 h
    -- The write of the first step is invisible to the decisions of the others.
    have hframe : ∀ {next : Document} {value? : Option Value},
        writeIfAny doc s.path value? = .ok next → plan next rest = plan doc rest := by
      intro next value? hwrite
      refine plan_congr fun s' hs' => ?_
      exact atPath?_writeIfAny (hhead s'.path (List.mem_map_of_mem hs')) hwrite
    rw [runSteps_cons_eq_ok_iff]
    constructor
    · rintro ⟨next, c, c', happly, hrun, rfl⟩
      obtain ⟨value?, hdecide, hwrite⟩ := Step.apply_eq_ok_iff.1 happly
      obtain ⟨writes, hplan, hwrites⟩ := (ih htail).1 hrun
      rw [hframe hwrite] at hplan
      refine ⟨_, plan_cons_eq_ok_iff.2 ⟨value?, c, writes, c', hdecide, hplan, rfl, rfl⟩, ?_⟩
      rw [writeAll_optional, hwrite]
      exact hwrites
    · rintro ⟨writes, hplan, hwrites⟩
      obtain ⟨value?, c, writes', c', hdecide, hplan', rfl, rfl⟩ := plan_cons_eq_ok_iff.1 hplan
      rw [writeAll_optional] at hwrites
      obtain ⟨next, hwrite, hwrites'⟩ := Except.bind_eq_ok_iff.1 hwrites
      rw [← hframe hwrite] at hplan'
      exact ⟨next, c, c', Step.apply_eq_ok_iff.2 ⟨value?, hdecide, hwrite⟩,
        (ih htail).2 ⟨writes', hplan', hwrites'⟩, rfl⟩

/-! ## The order of a run -/

/-- Plans of the same steps write the same values. -/
theorem plan_perm {steps others : List Step} (hperm : steps.Perm others) {doc : Document}
    {writes : List (String × Value)} {changed : Bool}
    (h : plan doc steps = .ok (writes, changed)) :
    ∃ writes', plan doc others = .ok (writes', changed) ∧ writes.Perm writes' := by
  induction hperm generalizing writes changed with
  | nil => exact ⟨writes, h, .refl _⟩
  | cons s _ ih =>
    obtain ⟨value?, c, writes₁, c₁, hdecide, hplan, rfl, rfl⟩ := plan_cons_eq_ok_iff.1 h
    obtain ⟨writes₂, hplan₂, hperm₂⟩ := ih hplan
    exact ⟨_, plan_cons_eq_ok_iff.2 ⟨value?, c, writes₂, c₁, hdecide, hplan₂, rfl, rfl⟩,
      hperm₂.append_left _⟩
  | swap s t rest =>
    obtain ⟨value?, c, writes₁, c₁, hdecide, hplan, rfl, rfl⟩ := plan_cons_eq_ok_iff.1 h
    obtain ⟨value?', c', writes₂, c₂, hdecide', hplan', rfl, rfl⟩ := plan_cons_eq_ok_iff.1 hplan
    refine ⟨_, plan_cons_eq_ok_iff.2 ⟨value?', c', _, c || c₂, hdecide',
      plan_cons_eq_ok_iff.2 ⟨value?, c, writes₂, c₂, hdecide, hplan', rfl, rfl⟩, rfl, ?_⟩, ?_⟩
    · exact Bool.or_left_comm c c' c₂
    · exact List.perm_append_comm_assoc _ _ _
  | trans _ _ ih₁ ih₂ =>
    obtain ⟨writes₁, hplan₁, hperm₁⟩ := ih₁ h
    obtain ⟨writes₂, hplan₂, hperm₂⟩ := ih₂ hplan₁
    exact ⟨writes₂, hplan₂, hperm₁.trans hperm₂⟩

omit [Regex.Engine] in
/-- Writes to reorderings leave reorderings. -/
theorem writeAll_reorders {writes : List (String × Value)} {doc other last : Document}
    (h : doc.Reorders other) (hwrite : writeAll writes doc = .ok last) :
    ∃ last', writeAll writes other = .ok last' ∧ last.Reorders last' := by
  induction writes generalizing doc other with
  | nil =>
    cases hwrite
    exact ⟨other, rfl, h⟩
  | cons write rest ih =>
    obtain ⟨path, value⟩ := write
    obtain ⟨next, hnext, hrest⟩ := Except.bind_eq_ok_iff.1 hwrite
    obtain ⟨next', hnext', hreorders⟩ := h.setSegments hnext
    obtain ⟨last', hlast', hreorders'⟩ := ih hreorders hrest
    exact ⟨last', Except.bind_eq_ok_iff.2 ⟨next', hnext', hlast'⟩, hreorders'⟩

omit [Regex.Engine] in
/-- Writes at diverging paths leave reorderings of one document in every order. -/
theorem writeAll_perm {writes others : List (String × Value)} (hperm : writes.Perm others)
    (h : Path.PairwiseDiverge (writes.map Prod.fst)) {doc last : Document}
    (hwrite : writeAll writes doc = .ok last) :
    ∃ last', writeAll others doc = .ok last' ∧ last.Reorders last' := by
  induction hperm generalizing doc last with
  | nil => exact ⟨last, hwrite, .refl last⟩
  | cons write _ ih =>
    obtain ⟨next, hnext, hrest⟩ := Except.bind_eq_ok_iff.1 hwrite
    obtain ⟨last', hlast', hreorders⟩ := ih (List.pairwise_cons.1 h).2 hrest
    exact ⟨last', Except.bind_eq_ok_iff.2 ⟨next, hnext, hlast'⟩, hreorders⟩
  | swap first second rest =>
    -- The two writes commute up to the order of fields, and the others run on the reordering.
    have hdiverge := (List.pairwise_cons.1 h).1 first.1 List.mem_cons_self
    obtain ⟨d₁, hd₁, hwrite₁⟩ := Except.bind_eq_ok_iff.1 hwrite
    obtain ⟨d₂, hd₂, hwrite₂⟩ := Except.bind_eq_ok_iff.1 hwrite₁
    obtain ⟨e₁, e₂, he₁, he₂, hreorders⟩ := Document.setSegments_comm hdiverge hd₁ hd₂
    obtain ⟨last', hlast', hreorders'⟩ := writeAll_reorders hreorders hwrite₂
    exact ⟨last', Except.bind_eq_ok_iff.2 ⟨e₁, he₁, Except.bind_eq_ok_iff.2 ⟨e₂, he₂, hlast'⟩⟩,
      hreorders'⟩
  | trans hperm₁ _ ih₁ ih₂ =>
    obtain ⟨last₁, hlast₁, hreorders₁⟩ := ih₁ h hwrite
    obtain ⟨last₂, hlast₂, hreorders₂⟩ := ih₂ (h.perm (hperm₁.map _)) hlast₁
    exact ⟨last₂, hlast₂, hreorders₁.trans hreorders₂⟩

/-- Runs of the same steps at diverging paths agree in every order: if one succeeds, so does the
other, with the same answer and with the same document up to the order of its fields. -/
theorem runSteps_perm {steps others : List Step} (hperm : steps.Perm others)
    (h : Path.PairwiseDiverge (steps.map Step.path)) {doc last : Document} {changed : Bool}
    (hrun : runSteps steps doc = ⟨last, .ok changed⟩) :
    ∃ last', runSteps others doc = ⟨last', .ok changed⟩ ∧ last.Reorders last' := by
  obtain ⟨writes, hplan, hwrite⟩ := (runSteps_eq_ok_iff h).1 hrun
  obtain ⟨writes', hplan', hwrites⟩ := plan_perm hperm hplan
  obtain ⟨last', hlast', hreorders⟩ :=
    writeAll_perm hwrites (h.sublist (sublist_of_plan_eq_ok hplan)) hwrite
  exact ⟨last', (runSteps_eq_ok_iff (h.perm (hperm.map _))).2 ⟨writes', hplan', hlast'⟩, hreorders⟩

end Mutation

end DocQuery
