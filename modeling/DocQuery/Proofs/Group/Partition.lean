import DocQuery.Proofs.Expression.Keys
import DocQuery.Regex.Basic

/-!
# Groups as a partition

A row goes to the first bucket whose key is the same, or to a new one at the end. As long as the keys
hold no NaN, sameness of keys is an equivalence, so that the buckets are its classes: each holds the
rows whose key is its own, in order, and the buckets stand in the order of their first rows.

## Main definitions

* `Value.IsKey`: a value whose sameness with other such values is an equivalence
* `Group.InFirstOrder`: values in the order in which they occur first in a list
* `Group.IsPartition`: the buckets of a list of rows

## Main results

* `Group.IsPartition.place`: placing a row in its bucket
* `Group.exists_collect_eq_ok`: placing all rows
* `Group.runStage_push`: the rows of a stage that collects one value of each row
-/

namespace DocQuery

/-! ## Keys -/

/-- There is no NaN in a value, and no document in it repeats a key. -/
structure Value.IsKey (v : Value) : Prop where
  nanFree : v.IsNaNFree
  hasUniqueKeys : v.HasUniqueKeys

namespace Value.IsKey

variable {a b c : Value}

theorem same_self (ha : a.IsKey) : a.same a = true := Value.same_self a ha.nanFree ha.hasUniqueKeys

theorem same_comm (ha : a.IsKey) (hb : b.IsKey) : a.same b = b.same a :=
  Bool.eq_iff_iff.2 ⟨Value.same_symm ha.hasUniqueKeys hb.hasUniqueKeys,
    Value.same_symm hb.hasUniqueKeys ha.hasUniqueKeys⟩

/-- Keys that are the same are the same as the same keys. -/
theorem same_congr (ha : a.IsKey) (hb : b.IsKey) (hab : a.same b = true) : a.same c = b.same c := by
  have hba : b.same a = true := ha.same_comm hb ▸ hab
  exact Bool.eq_iff_iff.2 ⟨Value.same_trans hba, Value.same_trans hab⟩

end Value.IsKey

namespace Group

/-! ## First occurrences -/

/-- The first value of a list that is the same as a given one is that value itself, at the given
position. -/
def IsFirstAt (keys : List Value) (id : Value) (position : Nat) : Prop :=
  keys[position]? = some id ∧
    ∀ earlier < position, ∀ key, keys[earlier]? = some key → key.same id = false

/-- Values are listed in the order in which they occur first in a list of keys. -/
def InFirstOrder (keys ids : List Value) : Prop :=
  ∃ positions : List Nat, positions.Pairwise (· < ·) ∧ List.Forall₂ (IsFirstAt keys) ids positions

variable {keys ids : List Value} {id k : Value}

theorem IsFirstAt.lt_length {position : Nat} (h : IsFirstAt keys id position) :
    position < keys.length := (List.getElem?_eq_some_iff.1 h.1).1

theorem IsFirstAt.append {position : Nat} (h : IsFirstAt keys id position) (more : List Value) :
    IsFirstAt (keys ++ more) id position := by
  have hlt := h.lt_length
  refine ⟨(List.getElem?_append_left hlt).trans h.1, fun earlier hearlier key hkey => ?_⟩
  rw [List.getElem?_append_left (Nat.lt_trans hearlier hlt)] at hkey
  exact h.2 earlier hearlier key hkey

/-- More keys at the end move no first occurrence. -/
theorem InFirstOrder.append (h : InFirstOrder keys ids) (more : List Value) :
    InFirstOrder (keys ++ more) ids := by
  obtain ⟨positions, hsorted, hfirst⟩ := h
  exact ⟨positions, hsorted, hfirst.imp fun _ _ hid => hid.append more⟩

/-- A key that is not the same as an earlier one occurs first at the end. -/
theorem InFirstOrder.concat (h : InFirstOrder keys ids) (hnew : ∀ key ∈ keys, key.same k = false) :
    InFirstOrder (keys ++ [k]) (ids ++ [k]) := by
  obtain ⟨positions, hsorted, hfirst⟩ := h
  have hbelow : ∀ position ∈ positions, position < keys.length := by
    intro position hposition
    obtain ⟨_, -, hid⟩ := exists_mem_of_forall₂ hfirst hposition
    exact hid.lt_length
  have hlast : IsFirstAt (keys ++ [k]) k keys.length := by
    refine ⟨List.getElem?_concat_length, fun earlier hearlier key hkey => ?_⟩
    rw [List.getElem?_append_left hearlier] at hkey
    exact hnew key (List.mem_of_getElem? hkey)
  refine ⟨positions ++ [keys.length], ?_, ?_⟩
  · refine List.pairwise_append.2 ⟨hsorted, List.pairwise_singleton _ _, fun position hposition => ?_⟩
    exact List.forall_mem_singleton.2 (hbelow position hposition)
  · exact List.rel_append (hfirst.imp fun _ _ hid => hid.append [k]) (.cons hlast .nil)

/-! ## Placing one row -/

/-- A row is added to the first bucket with the same key, or to a new one at the end. -/
theorem place_cases (k : Value) (doc : Document) (buckets : List Bucket) :
    (∃ before b after, buckets = before ++ b :: after ∧ b.key.same k = true ∧
        place k doc buckets = before ++ ⟨b.key, b.members ++ [doc]⟩ :: after) ∨
      ((∀ b ∈ buckets, b.key.same k = false) ∧ place k doc buckets = buckets ++ [⟨k, [doc]⟩]) := by
  induction buckets with
  | nil => exact .inr ⟨nofun, rfl⟩
  | cons first rest ih =>
    rw [place]
    by_cases hfirst : first.key.same k = true
    · rw [if_pos hfirst]
      exact .inl ⟨[], first, rest, rfl, hfirst, rfl⟩
    · rw [if_neg hfirst]
      obtain ⟨before, b, after, rfl, hsame, hplace⟩ | ⟨hnone, hplace⟩ := ih
      · exact .inl ⟨first :: before, b, after, rfl, hsame, congrArg (first :: ·) hplace⟩
      · refine .inr ⟨List.forall_mem_cons.2 ⟨Bool.eq_false_iff.2 hfirst, hnone⟩, ?_⟩
        exact congrArg (first :: ·) hplace

/-! ## The buckets of a list of rows -/

/-- The buckets of a list of rows: their keys are pairwise not the same and stand in the order of
their first occurrences, the members of each are the rows with its key, in order, and every row is a
member once. -/
structure IsPartition (key : Document → Value) (docs : List Document) (buckets : List Bucket) :
    Prop where
  distinct : (buckets.map Bucket.key).Pairwise fun id other => id.same other = false
  members : ∀ b ∈ buckets, b.members = docs.filter fun d => (key d).same b.key
  ordered : InFirstOrder (docs.map key) (buckets.map Bucket.key)
  perm : (buckets.flatMap Bucket.members).Perm docs

variable {key : Document → Value} {docs : List Document} {doc : Document} {buckets : List Bucket}

theorem isPartition_nil (key : Document → Value) : IsPartition key [] [] :=
  ⟨.nil, nofun, ⟨[], .nil, .nil⟩, .refl _⟩

namespace IsPartition

variable (h : IsPartition key docs buckets)
include h

theorem exists_bucket (hdoc : doc ∈ docs) :
    ∃ b ∈ buckets, (key doc).same b.key = true := by
  obtain ⟨b, hb, hmember⟩ := List.mem_flatMap.1 (h.perm.symm.subset hdoc)
  rw [h.members b hb] at hmember
  exact ⟨b, hb, (List.mem_filter.1 hmember).2⟩

/-- The key of a bucket is the key of a row. -/
theorem exists_doc {b : Bucket} (hb : b ∈ buckets) : ∃ d ∈ docs, key d = b.key := by
  obtain ⟨positions, -, hfirst⟩ := h.ordered
  obtain ⟨position, -, hid⟩ := exists_mem_of_forall₂ hfirst.flip (List.mem_map_of_mem hb)
  exact List.mem_map.1 (List.mem_of_getElem? hid.1)

theorem isKey {b : Bucket} (hkeys : ∀ d ∈ docs, (key d).IsKey) (hb : b ∈ buckets) :
    b.key.IsKey := by
  obtain ⟨d, hd, heq⟩ := h.exists_doc hb
  exact heq ▸ hkeys d hd

end IsPartition

/-- The key of a bucket is not the same as those of the others. -/
theorem IsPartition.same_eq_false {before after : List Bucket} {b c : Bucket}
    (h : IsPartition key docs (before ++ b :: after)) (hkeys : ∀ d ∈ docs, (key d).IsKey)
    (hc : c ∈ before ∨ c ∈ after) : b.key.same c.key = false := by
  have hdistinct := h.distinct
  rw [List.pairwise_map, List.pairwise_append, List.pairwise_cons] at hdistinct
  obtain ⟨-, ⟨hafter, -⟩, hbefore⟩ := hdistinct
  have hb : b ∈ before ++ b :: after := List.mem_append_right _ List.mem_cons_self
  obtain hc | hc := hc
  · have hc' : c ∈ before ++ b :: after := List.mem_append_left _ hc
    rw [(h.isKey hkeys hb).same_comm (h.isKey hkeys hc')]
    exact hbefore c hc b List.mem_cons_self
  · exact hafter c hc

theorem filter_append_of_same {id : Value} (h : (key doc).same id = true) :
    (docs ++ [doc]).filter (fun d => (key d).same id) =
      docs.filter (fun d => (key d).same id) ++ [doc] := by
  have hlast : [doc].filter (fun d => (key d).same id) = [doc] := List.filter_cons_of_pos h
  rw [List.filter_append, hlast]

theorem filter_append_of_not_same {id : Value} (h : (key doc).same id = false) :
    (docs ++ [doc]).filter (fun d => (key d).same id) =
      docs.filter fun d => (key d).same id := by
  have hlast : [doc].filter (fun d => (key d).same id) = [] :=
    List.filter_cons_of_neg (Bool.eq_false_iff.1 h)
  rw [List.filter_append, hlast, List.append_nil]

/-- A row goes to the bucket with its key. -/
theorem IsPartition.join {before after : List Bucket} {b : Bucket}
    (h : IsPartition key docs (before ++ b :: after)) (hkeys : ∀ d ∈ docs, (key d).IsKey)
    (hdoc : (key doc).IsKey) (hsame : b.key.same (key doc) = true) :
    IsPartition key (docs ++ [doc]) (before ++ ⟨b.key, b.members ++ [doc]⟩ :: after) := by
  have hb : b ∈ before ++ b :: after := List.mem_append_right _ List.mem_cons_self
  have hbkey := h.isKey hkeys hb
  have hdocb : (key doc).same b.key = true := hdoc.same_comm hbkey ▸ hsame
  have hids : (before ++ ⟨b.key, b.members ++ [doc]⟩ :: after).map Bucket.key =
      (before ++ b :: after).map Bucket.key := by
    simp only [List.map_append, List.map_cons]
  -- The row has no key of another bucket.
  have hothers : ∀ c, c ∈ before ∨ c ∈ after →
      c.members = (docs ++ [doc]).filter fun d => (key d).same c.key := by
    intro c hc
    have hfalse : (key doc).same c.key = false := by
      rw [hdoc.same_congr hbkey hdocb]
      exact h.same_eq_false hkeys hc
    rw [filter_append_of_not_same hfalse]
    exact h.members c (by simp only [List.mem_append, List.mem_cons]; tauto)
  refine ⟨hids ▸ h.distinct, ?_, ?_, ?_⟩
  · intro c hc
    obtain hc | hc := List.mem_append.1 hc
    · exact hothers c (.inl hc)
    · obtain rfl | hc := List.mem_cons.1 hc
      · exact (filter_append_of_same hdocb).trans (congrArg (· ++ [doc]) (h.members b hb).symm) |>.symm
      · exact hothers c (.inr hc)
  · rw [hids, List.map_append]
    exact h.ordered.append _
  · refine .trans ?_ (h.perm.append_right [doc])
    simp only [List.flatMap_append, List.flatMap_cons, List.append_assoc]
    exact (List.perm_append_comm.append_left _).append_left _

/-- A row without a bucket starts one. -/
theorem IsPartition.concat (h : IsPartition key docs buckets) (hkeys : ∀ d ∈ docs, (key d).IsKey)
    (hdoc : (key doc).IsKey) (hnone : ∀ b ∈ buckets, b.key.same (key doc) = false) :
    IsPartition key (docs ++ [doc]) (buckets ++ [⟨key doc, [doc]⟩]) := by
  -- An earlier row with this key would have put a bucket there.
  have hnew : ∀ d ∈ docs, (key d).same (key doc) = false := by
    intro d hd
    obtain ⟨b, hb, hsame⟩ := h.exists_bucket hd
    rw [(hkeys d hd).same_congr (h.isKey hkeys hb) hsame]
    exact hnone b hb
  have hfilter : docs.filter (fun d => (key d).same (key doc)) = [] :=
    List.filter_eq_nil_iff.2 fun d hd => by
      rw [hnew d hd]
      nofun
  refine ⟨?_, ?_, ?_, ?_⟩
  · rw [List.map_append, List.pairwise_append]
    refine ⟨h.distinct, List.pairwise_singleton _ _, fun id hid other hother => ?_⟩
    obtain ⟨b, hb, rfl⟩ := List.mem_map.1 hid
    obtain rfl := List.mem_singleton.1 hother
    exact hnone b hb
  · intro b hb
    obtain hb | hb := List.mem_append.1 hb
    · have hfalse : (key doc).same b.key = false :=
        hdoc.same_comm (h.isKey hkeys hb) ▸ hnone b hb
      rw [filter_append_of_not_same hfalse]
      exact h.members b hb
    · obtain rfl := List.mem_singleton.1 hb
      rw [filter_append_of_same hdoc.same_self, hfilter, List.nil_append]
  · rw [List.map_append, List.map_append]
    exact h.ordered.concat (List.forall_mem_map.2 hnew)
  · rw [List.flatMap_append]
    exact h.perm.append_right [doc]

/-- Placing a row in its bucket. -/
theorem IsPartition.place (h : IsPartition key docs buckets) (hkeys : ∀ d ∈ docs, (key d).IsKey)
    (hdoc : (key doc).IsKey) :
    IsPartition key (docs ++ [doc]) (Group.place (key doc) doc buckets) := by
  obtain ⟨before, b, after, rfl, hsame, hplace⟩ | ⟨hnone, hplace⟩ :=
    place_cases (key doc) doc buckets
  · exact hplace ▸ h.join hkeys hdoc hsame
  · exact hplace ▸ h.concat hkeys hdoc hnone

/-- Placing all rows in their buckets. -/
theorem exists_collect_eq_ok {vars : Document} {keyExpr : Value} {done rest : List Document}
    (heval : ∀ d ∈ rest, Expression.eval d vars keyExpr = .ok (key d))
    (hkeys : ∀ d ∈ done ++ rest, (key d).IsKey) (h : IsPartition key done buckets) :
    ∃ all, collect vars keyExpr rest buckets = .ok all ∧ IsPartition key (done ++ rest) all := by
  induction rest generalizing done buckets with
  | nil => exact ⟨buckets, rfl, (List.append_nil done).symm ▸ h⟩
  | cons doc rest ih =>
    obtain ⟨hdoc, hrest⟩ := List.forall_mem_cons.1 heval
    have hplaced := h.place (fun d hd => hkeys d (List.mem_append_left _ hd))
      (hkeys doc (List.mem_append_right _ List.mem_cons_self))
    rw [List.append_cons] at hkeys ⊢
    obtain ⟨all, hall, hpartition⟩ := ih hrest hkeys hplaced
    refine ⟨all, ?_, hpartition⟩
    rw [collect, hdoc]
    exact hall

/-! ## Collected values -/

variable {vars : Document} {name : String} {keyExpr expr : Value} {value : Document → Value}

theorem evalAll_eq_ok (h : ∀ d ∈ docs, Expression.eval d vars expr = .ok (value d)) :
    evalAll vars expr docs = .ok (docs.map value) := by
  induction docs with
  | nil => rfl
  | cons doc rest ih =>
    obtain ⟨hdoc, hrest⟩ := List.forall_mem_cons.1 h
    rw [evalAll, hdoc, ih hrest]
    rfl

/-- The body of a stage that groups by one expression and collects the values of another. -/
def pushBody (keyExpr : Value) (name : String) (expr : Value) : Document :=
  [("_id", keyExpr), (name, .document [("$push", expr)])]

/-- The expression of the keys is no accumulator. -/
theorem accumulateAll_id (members : List Document) (accumulators row : Document) :
    accumulateAll vars members (("_id", keyExpr) :: accumulators) row =
      accumulateAll vars members accumulators row := by
  conv_lhs => unfold accumulateAll
  rw [if_pos rfl]

/-- A bucket becomes a row with its key and the values of its members. -/
theorem rows_pushBody (hname : name ≠ "_id")
    (h : ∀ b ∈ buckets, ∀ d ∈ b.members, Expression.eval d vars expr = .ok (value d)) :
    rows vars (pushBody keyExpr name expr) buckets =
      .ok (buckets.map fun b => [("_id", b.key), (name, .array (b.members.map value))]) := by
  have hrow : ∀ b ∈ buckets, accumulateAll vars b.members (pushBody keyExpr name expr)
      [("_id", b.key)] = .ok [("_id", b.key), (name, .array (b.members.map value))] := by
    intro b hb
    rw [pushBody, accumulateAll_id, accumulateAll, if_neg hname, evalAll_eq_ok (h b hb)]
    simp only [bind, Except.bind, accumulate, accumulateAll, Document.insert, hname.symm, if_false]
  induction buckets with
  | nil => rfl
  | cons b rest ih =>
    obtain ⟨hb, hrest⟩ := List.forall_mem_cons.1 hrow
    rw [rows, hb, ih (List.forall_mem_cons.1 h).2 hrest]
    rfl

/-- A stage that groups by one expression and collects the values of another partitions the rows.
If no key has a NaN in it, the keys of its rows are pairwise not the same and stand in the order in
which they occur first; with each stand the values of the rows that have it, in order, so that every
row is in one group and its value in one array. -/
theorem runStage_push [Regex.Engine] (collections : Collections) {key : Document → Value}
    (hname : name ≠ "_id") (hvars : (Value.document vars).HasUniqueKeys)
    (hkeyExpr : keyExpr.HasUniqueKeys) (hdocs : ∀ d ∈ docs, (Value.document d).HasUniqueKeys)
    (hkeys : ∀ d ∈ docs, Expression.eval d vars keyExpr = .ok (key d) ∧ (key d).IsNaNFree)
    (hvalues : ∀ d ∈ docs, Expression.eval d vars expr = .ok (value d)) :
    ∃ ids, Pipeline.runStage collections vars
        (.document [("$group", .document (pushBody keyExpr name expr))]) docs =
          .ok (ids.map fun id =>
            [("_id", id), (name, .array ((docs.filter fun d => (key d).same id).map value))]) ∧
      ids.Pairwise (fun id other => id.same other = false ∧ other.same id = false) ∧
      InFirstOrder (docs.map key) ids ∧
      (ids.flatMap fun id => docs.filter fun d => (key d).same id).Perm docs ∧
      (ids.flatMap fun id => (docs.filter fun d => (key d).same id).map value).Perm
        (docs.map value) := by
  have hiskey : ∀ d ∈ docs, (key d).IsKey := fun d hd =>
    ⟨(hkeys d hd).2,
      Expression.eval_hasUniqueKeys (hdocs d hd) hvars hkeyExpr (hkeys d hd).1⟩
  obtain ⟨buckets, hbuckets, h⟩ := exists_collect_eq_ok (fun d hd => (hkeys d hd).1) hiskey
    (isPartition_nil key)
  rw [List.nil_append] at h
  have hmembers : ∀ b ∈ buckets, ∀ d ∈ b.members, Expression.eval d vars expr = .ok (value d) := by
    intro b hb d hd
    rw [h.members b hb] at hd
    exact hvalues d (List.mem_of_mem_filter hd)
  have hfilter : ((buckets.map Bucket.key).flatMap fun id =>
      docs.filter fun d => (key d).same id) = buckets.flatMap Bucket.members := by
    rw [List.flatMap_map]
    exact List.flatMap_congr fun b hb => (h.members b hb).symm
  have hperm : ((buckets.map Bucket.key).flatMap fun id =>
      docs.filter fun d => (key d).same id).Perm docs := hfilter ▸ h.perm
  refine ⟨buckets.map Bucket.key, ?_, ?_, h.ordered, hperm, ?_⟩
  · rw [Pipeline.runStage_of_ne _ _ _ (by decide), List.map_map]
    have hrows : (buckets.map fun b => [("_id", b.key), (name, .array (b.members.map value))]) =
        buckets.map ((fun id => [("_id", id),
          (name, Value.array ((docs.filter fun d => (key d).same id).map value))]) ∘ Bucket.key) :=
      List.map_congr_left fun b hb => by rw [h.members b hb]; rfl
    have hrun : run vars (pushBody keyExpr name expr) docs = _ :=
      Except.bind_eq_ok_iff.2 ⟨buckets, hbuckets, rows_pushBody hname hmembers⟩
    rw [hrows] at hrun
    exact hrun
  · refine h.distinct.imp_of_mem fun {id other} hid hother hfalse => ⟨hfalse, ?_⟩
    obtain ⟨b, hb, rfl⟩ := List.mem_map.1 hid
    obtain ⟨c, hc, rfl⟩ := List.mem_map.1 hother
    rw [(h.isKey hiskey hc).same_comm (h.isKey hiskey hb)]
    exact hfalse
  · have hvalue := hperm.map value
    rwa [List.map_flatMap] at hvalue

/-- Keys with their fields in another order are one key, and so are the two zeros. -/
theorem runStage_push_samples :
    let docs : List Document :=
      [[("k", .document [("x", .int32 1), ("y", .null)]), ("v", .int32 1)],
        [("k", .double ⟨0x8000000000000000⟩), ("v", .int32 2)],
        [("k", .document [("y", .null), ("x", .int32 1)]), ("v", .int32 3)],
        [("k", .double ⟨0⟩)]]
    let key : Document → Value := fun d => Expression.resolve d [] "$k"
    let value : Document → Value := fun d => Expression.resolve d [] "$v"
    let stage : Value :=
      .document [("$group", .document (pushBody (.string "$k") "all" (.string "$v")))]
    (∀ d ∈ docs, (Value.document d).HasUniqueKeys) ∧ (∀ d ∈ docs, (key d).IsNaNFree) ∧
      Pipeline.runStage [] [] stage docs =
        .ok [[("_id", .document [("x", .int32 1), ("y", .null)]),
            ("all", .array [.int32 1, .int32 3])],
          [("_id", .double ⟨0x8000000000000000⟩), ("all", .array [.int32 2, .null])]] ∧
      ∃ ids, Pipeline.runStage [] [] stage docs = .ok (ids.map fun id =>
          [("_id", id), ("all", .array ((docs.filter fun d => (key d).same id).map value))]) ∧
        ids.Pairwise (fun id other => id.same other = false ∧ other.same id = false) ∧
        InFirstOrder (docs.map key) ids ∧
        (ids.flatMap fun id => docs.filter fun d => (key d).same id).Perm docs ∧
        (ids.flatMap fun id => (docs.filter fun d => (key d).same id).map value).Perm
          (docs.map value) := by
  intro docs key value stage
  have hdocs : ∀ d ∈ docs, (Value.document d).HasUniqueKeys := by decide
  have hkeys : ∀ d ∈ docs, (key d).IsNaNFree := by decide
  exact ⟨hdocs, hkeys, rfl,
    runStage_push [] (by decide) rfl rfl hdocs (fun d hd => ⟨rfl, hkeys d hd⟩) fun _ _ => rfl⟩

end Group

end DocQuery
