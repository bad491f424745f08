import DocQuery.Proofs.Path.ReadBack
import DocQuery.Proofs.Query.Deletion
import DocQuery.Proofs.Store.Updates
import DocQuery.Proofs.Update.Decomposition

/-!
# Runs of changes

Queries change a store by insertions, updates and deletions. Each change keeps to one collection and
to a rule of its kind, whether it succeeds or fails: an insertion appends, an update rewrites each
document in its place and moves no key, and a deletion leaves some of the documents in their order.
So in every store that changes make out of an empty one, every document has an identifier.

## Main definitions

* `Change`, `Query.change`: the changes, and the store that one leaves
* `Store.Appends`, `Store.Rewrites`, `Store.Thins`: the rules of the three kinds of changes
* `Query.Lawful`: a change of a store follows the rule of its kind
* `Store.HasIds`: every document has an identifier
* `Store.afterChanges`: the store that a list of changes leaves

## Main results

* `Query.lawful`: every change follows its rule
* `Query.Lawful.hasIds`: a change that follows its rule leaves every document with an identifier
* `Store.afterChanges_lawful`: both, along every run
-/

namespace DocQuery

open Mutation (applyUpdate runSteps Step writeIfAny)

/-! ## Mutations move no key -/

namespace Mutation

theorem keys_prefix_writeIfAny {doc next : Document} {path : String} {value? : Option Value}
    (h : writeIfAny doc path value? = .ok next) : Document.keys doc <+: Document.keys next := by
  cases value? with
  | none =>
    cases h
    exact List.prefix_rfl
  | some value => exact Document.keys_prefix_setSegments h

theorem Step.keys_prefix_apply [Regex.Engine] {s : Step} {doc next : Document} {changed : Bool}
    (h : s.apply doc = .ok (next, changed)) : Document.keys doc <+: Document.keys next := by
  obtain ⟨value?, -, hwrite⟩ := Step.apply_eq_ok_iff.1 h
  exact keys_prefix_writeIfAny hwrite

/-- A run of steps keeps the keys of its document at the front, also a run that fails. -/
theorem keys_prefix_runSteps [Regex.Engine] (steps : List Step) (doc : Document) :
    Document.keys doc <+: Document.keys (runSteps steps doc).doc := by
  induction steps generalizing doc with
  | nil => exact List.prefix_rfl
  | cons s rest ih =>
    rw [runSteps]
    cases happly : s.apply doc with
    | error e => exact List.prefix_rfl
    | ok change =>
      obtain ⟨next, changed⟩ := change
      exact (Step.keys_prefix_apply happly).trans (ih next)

end Mutation

/-! ## The rules -/

namespace Store

/-- Every collection but one is as it was. -/
def KeepsOthers (s left : Store) (collection? : Option String) : Prop :=
  ∀ other, collection? ≠ some other →
    Collections.find? left.collections other = Collections.find? s.collections other

/-- What is stored for a document: the document itself, or, if it has no identifier, the document
behind an identifier made for it. -/
inductive StoredAs : Document → Document → Prop
  | given {doc : Document} (h : Document.contains doc "_id" = true) : StoredAs doc doc
  | identified {doc : Document} (h : Document.contains doc "_id" = false) (id : ObjectId) :
    StoredAs doc (("_id", .objectId id) :: doc)

/-- What an update leaves in the place of a document: the document, or what the mutation makes of it,
with the old keys in their places. -/
def RewrittenAs [Regex.Engine] (u : Update) (old new : Document) : Prop :=
  (new = old ∨ new = (applyUpdate u.decompose old).doc) ∧ Document.keys old <+: Document.keys new

/-- The rule of insertions: the given documents, and only they, are stored behind the others, and
their identifiers are reported in order. -/
structure Appends (s : Store) (collection? : Option String)
    (given : Except QueryError (List Document)) (left : Effect QueryError (List Value)) :
    Prop where
  others : s.KeepsOthers left.store collection?
  appended : ∀ ids, left.result = .ok ids →
    ∃ name docs added, collection? = some name ∧ given = .ok docs ∧
      left.store.documents name = s.documents name ++ added ∧
      List.Forall₂ StoredAs docs added ∧
      added.map (Document.get? · "_id") = ids.map some
  refused : ∀ e, left.result = .error e → left.store = s

/-- The rule of updates: every document is rewritten in its place, whatever the outcome. -/
structure Rewrites [Regex.Engine] (s : Store) (collection? : Option String) (u : Update)
    (left : Effect QueryError UpdateReport) : Prop where
  others : s.KeepsOthers left.store collection?
  inPlace : ∀ name, collection? = some name →
    List.Forall₂ (RewrittenAs u) (s.documents name) (left.store.documents name)

/-- The rule of deletions: some of the documents are left, in their order. -/
structure Thins (s : Store) (collection? : Option String) (left : Effect QueryError Nat) :
    Prop where
  others : s.KeepsOthers left.store collection?
  sublist : ∀ name, collection? = some name →
    (left.store.documents name).Sublist (s.documents name)
  refused : ∀ e, left.result = .error e → left.store = s

/-- Every document has an identifier. -/
def HasIds (s : Store) : Prop :=
  ∀ name, ∀ doc ∈ s.documents name, Document.contains doc "_id" = true

theorem keepsOthers_refl (s : Store) (collection? : Option String) :
    s.KeepsOthers s collection? := fun _ _ => rfl

theorem KeepsOthers.documents_eq {s left : Store} {collection? : Option String}
    (h : s.KeepsOthers left collection?) {name : String} (hname : collection? ≠ some name) :
    left.documents name = s.documents name := by
  rw [documents, Collections.documents, h name hname]
  rfl

theorem keepsOthers_set (s : Store) (name : String) (docs : List Document) (made : Nat) :
    s.KeepsOthers ⟨Collections.set s.collections name docs, made⟩ (some name) := by
  intro other hother
  exact Collections.find?_set_of_ne _ _ fun h => hother (congrArg some h.symm)

theorem RewrittenAs.refl [Regex.Engine] (u : Update) (doc : Document) : RewrittenAs u doc doc :=
  ⟨.inl rfl, List.prefix_rfl⟩

theorem rewrittenAs_of_settled [Regex.Engine] {filter : Document} {u : Update} {old new : Document}
    (h : Settled filter u.decompose old new) : RewrittenAs u old new := by
  cases h with
  | unmatched | unchanged => exact .refl u old
  | changed =>
    refine ⟨.inr rfl, ?_⟩
    rw [Update.applyUpdate_decompose]
    exact Mutation.keys_prefix_runSteps u.steps old

/-! ## Calls on a store -/

theorem withId_spec [IdSource] (made : Nat) (doc : Document) :
    StoredAs doc (withId made doc).1 ∧
      Document.get? (withId made doc).1 "_id" = some (withId made doc).2.1 := by
  unfold withId
  cases hid : Document.get? doc "_id" with
  | some id => exact ⟨.given (by rw [Document.contains, hid]; rfl), hid⟩
  | none => exact ⟨.identified (by rw [Document.contains, hid]; rfl) _, rfl⟩

/-- Every document is stored with the identifier that is reported for it. -/
theorem withIds_spec [IdSource] (made : Nat) (docs : List Document) :
    List.Forall₂ StoredAs docs (withIds made docs).1 ∧
      (withIds made docs).1.map (Document.get? · "_id") = (withIds made docs).2.1.map some := by
  induction docs generalizing made with
  | nil => exact ⟨.nil, rfl⟩
  | cons doc rest ih =>
    obtain ⟨hstored, hid⟩ := withId_spec made doc
    obtain ⟨hrest, hids⟩ := ih (withId made doc).2.2
    exact ⟨.cons hstored hrest, congrArg₂ List.cons hid hids⟩

variable [Regex.Engine] (s : Store) (name : String)

theorem rewrites_updateMany (filter : Document) (u : Update) :
    s.KeepsOthers (s.updateMany name filter u.decompose).store (some name) ∧
      List.Forall₂ (RewrittenAs u) (s.documents name)
        ((s.updateMany name filter u.decompose).store.documents name) := by
  cases hdocs : Collections.find? s.collections name with
  | none =>
    have hsame : (s.updateMany name filter u.decompose).store = s := by rw [updateMany, hdocs]
    rw [hsame]
    exact ⟨s.keepsOthers_refl _, List.forall₂_same.2 fun doc _ => .refl u doc⟩
  | some docs =>
    rw [(updateMany_of_find? filter u.decompose hdocs).1, documents_seed, documents,
      Collections.documents, hdocs]
    refine ⟨s.keepsOthers_set name _ s.madeIds, ?_⟩
    obtain ⟨done, left, rest, hsplit, hsettled, hleft, -⟩ :=
      updateDocs_settles filter u.decompose docs ⟨0, 0⟩
    rw [hleft, Option.getD_some, hsplit]
    -- The documents that the run did not settle are as they were.
    have hdone := hsettled.imp fun _ _ h => rewrittenAs_of_settled h
    have hrest : List.Forall₂ (RewrittenAs u) rest rest :=
      List.forall₂_same.2 fun doc _ => .refl u doc
    exact List.rel_append hdone hrest

theorem thins_deleteMany (filter : Document) :
    s.KeepsOthers (s.deleteMany name filter).store (some name) ∧
      ((s.deleteMany name filter).store.documents name).Sublist (s.documents name) := by
  refine ⟨fun other hother => find?_deleteMany_of_ne s name filter
    fun h => hother (congrArg some h.symm), ?_⟩
  have hresult := result_deleteMany s name filter
  cases hrows : Pipeline.filterDocs filter [] (s.documents name) with
  | error e =>
    rw [hrows] at hresult
    rw [store_deleteMany_of_error s name filter hresult]
  | ok rows =>
    rw [documents_deleteMany s name filter hrows]
    exact List.filter_sublist

end Store

/-! ## Changes by queries -/

/-- The calls that change a store. -/
inductive Change where
  | insert (docs : List Document)
  | insertOne (doc : Document)
  | insertRecords (records : List Record)
  | update (u : Update)
  | delete

namespace Query

variable {κ : Type} (q : Query κ) (s : Store)

/-- The name of the collection of a query. -/
def collectionName? : Option String := q.collection?.map (·.name)

/-- The store that a change leaves. -/
def change [Regex.Engine] [IdSource] : Change → Store
  | .insert docs => (q.insert s docs).store
  | .insertOne doc => (q.insert s [doc]).store
  | .insertRecords records => (q.insertRecords s records).store
  | .update u => (q.update s u).store
  | .delete => (q.delete s).store

/-- A change follows the rule of its kind. -/
def Lawful [Regex.Engine] [IdSource] : Change → Prop
  | .insert docs => s.Appends q.collectionName? (.ok docs) (q.insert s docs)
  | .insertOne doc => s.Appends q.collectionName? (.ok [doc]) (q.insert s [doc])
  | .insertRecords records =>
    s.Appends q.collectionName? (recordDocuments records) (q.insertRecords s records)
  | .update u => s.Rewrites q.collectionName? u (q.update s u)
  | .delete => s.Thins q.collectionName? (q.delete s)

variable {q s}

theorem collectionName?_of_collection? {collection : Collection κ}
    (h : q.collection? = some collection) : q.collectionName? = some collection.name := by
  rw [collectionName?, h]
  rfl

theorem appends_failed (e : QueryError) (given : Except QueryError (List Document)) :
    s.Appends q.collectionName? given (failed s e) where
  others := s.keepsOthers_refl _
  appended := nofun
  refused _ _ := rfl

theorem appends_insert [IdSource] (docs : List Document) :
    s.Appends q.collectionName? (.ok docs) (q.insert s docs) := by
  unfold insert withCollection
  split
  · exact appends_failed _ _
  · cases hcollection : q.collection? with
    | none => exact appends_failed _ _
    | some collection =>
      have hname := collectionName?_of_collection? hcollection
      obtain ⟨hstored, hids⟩ := Store.withIds_spec s.madeIds docs
      refine ⟨?_, ?_, nofun⟩
      · rw [hname]
        exact s.keepsOthers_set collection.name _ _
      · rintro _ ⟨⟩
        refine ⟨collection.name, docs, _, hname, rfl, ?_, hstored, hids⟩
        exact congrArg (Option.getD · []) (Collections.find?_set_self _ _ _)

theorem appends_insertRecords [IdSource] (records : List Record) :
    s.Appends q.collectionName? (recordDocuments records) (q.insertRecords s records) := by
  have hall : s.Appends q.collectionName? (recordDocuments records)
      (insertRecords.insertAll q s records) := by
    unfold insertRecords.insertAll
    cases recordDocuments records with
    | error e => exact appends_failed _ _
    | ok docs => exact appends_insert docs
  unfold insertRecords
  split
  · exact appends_failed _ _
  · split
    · split
      · exact appends_failed _ _
      · exact hall
    · exact hall

theorem rewrites_update [Regex.Engine] (u : Update) :
    s.Rewrites q.collectionName? u (q.update s u) := by
  have hfailed : ∀ e, s.Rewrites q.collectionName? u (failed s e) := fun e =>
    ⟨s.keepsOthers_refl _, fun _ _ => List.forall₂_same.2 fun doc _ => .refl u doc⟩
  unfold update withCollection
  split
  · exact hfailed _
  · cases hcollection : q.collection? with
    | none => exact hfailed _
    | some collection =>
      have hname := collectionName?_of_collection? hcollection
      obtain ⟨hothers, hdocs⟩ := s.rewrites_updateMany collection.name q.filter u
      rw [hname]
      refine ⟨hothers, ?_⟩
      rintro _ ⟨⟩
      exact hdocs

theorem thins_delete [Regex.Engine] : s.Thins q.collectionName? (q.delete s) := by
  have hfailed : ∀ e, s.Thins q.collectionName? (failed s e) := fun e =>
    ⟨s.keepsOthers_refl _, fun _ _ => .refl _, fun _ _ => rfl⟩
  cases hfilters : q.state.filters.isEmpty with
  | true =>
    rw [delete, if_pos hfilters]
    exact hfailed _
  | false =>
    cases hcollection : q.collection? with
    | none =>
      rw [delete_of_no_collection hfilters hcollection]
      exact hfailed _
    | some collection =>
      have hname := collectionName?_of_collection? hcollection
      have herror : ∀ e, (q.delete s).result = .error e → (q.delete s).store = s :=
        fun _ => store_delete_of_error hfilters
      rw [delete_of_collection? hfilters hcollection] at herror ⊢
      obtain ⟨hothers, hdocs⟩ := s.thins_deleteMany collection.name q.filter
      rw [hname]
      refine ⟨hothers, ?_, herror⟩
      rintro _ ⟨⟩
      exact hdocs

/-- Every change follows the rule of its kind. -/
theorem lawful [Regex.Engine] [IdSource] (q : Query κ) (s : Store) (c : Change) : q.Lawful s c := by
  cases c with
  | insert docs => exact appends_insert docs
  | insertOne doc => exact appends_insert [doc]
  | insertRecords records => exact appends_insertRecords records
  | update u => exact rewrites_update u
  | delete => exact thins_delete

end Query

/-! ## Identifiers -/

namespace Store

variable {s : Store} {collection? : Option String}

theorem hasIds_empty : empty.HasIds := nofun

theorem StoredAs.contains {doc stored : Document} (h : StoredAs doc stored) :
    Document.contains stored "_id" = true := by
  cases h with
  | given h => exact h
  | identified h id => rfl

theorem RewrittenAs.contains [Regex.Engine] {u : Update} {old new : Document}
    (h : RewrittenAs u old new) (hold : Document.contains old "_id" = true) :
    Document.contains new "_id" = true := by
  rw [Document.contains_iff_mem_keys] at hold ⊢
  exact h.2.subset hold

/-- It is enough to look at the documents of one collection if the others are as they were. -/
theorem KeepsOthers.hasIds {left : Store} (h : s.KeepsOthers left collection?) (hs : s.HasIds)
    (hdocs : ∀ name, collection? = some name →
      ∀ doc ∈ left.documents name, Document.contains doc "_id" = true) : left.HasIds := by
  intro name
  by_cases hname : collection? = some name
  · exact hdocs name hname
  · rw [h.documents_eq hname]
    exact hs name

theorem Appends.hasIds {given : Except QueryError (List Document)}
    {left : Effect QueryError (List Value)} (h : s.Appends collection? given left)
    (hs : s.HasIds) : left.store.HasIds := by
  cases hresult : left.result with
  | error e =>
    rw [h.refused e hresult]
    exact hs
  | ok ids =>
    refine h.others.hasIds hs fun name hname => ?_
    obtain ⟨other, docs, added, hother, -, hleft, hstored, -⟩ := h.appended ids hresult
    obtain rfl : name = other := Option.some.inj (hname.symm.trans hother)
    intro doc hdoc
    rw [hleft] at hdoc
    obtain hdoc | hdoc := List.mem_append.1 hdoc
    · exact hs name doc hdoc
    · obtain ⟨given, -, hgiven⟩ := exists_mem_of_forall₂ hstored hdoc
      exact hgiven.contains

theorem Rewrites.hasIds [Regex.Engine] {u : Update} {left : Effect QueryError UpdateReport}
    (h : s.Rewrites collection? u left) (hs : s.HasIds) : left.store.HasIds := by
  refine h.others.hasIds hs fun name hname doc hdoc => ?_
  obtain ⟨old, hold, hnew⟩ := exists_mem_of_forall₂ (h.inPlace name hname) hdoc
  exact hnew.contains (hs name old hold)

theorem Thins.hasIds {left : Effect QueryError Nat} (h : s.Thins collection? left)
    (hs : s.HasIds) : left.store.HasIds :=
  h.others.hasIds hs fun name hname doc hdoc => hs name doc ((h.sublist name hname).subset hdoc)

end Store

namespace Query

variable {κ : Type} {q : Query κ} {s : Store}

/-- A change that follows its rule leaves every document with an identifier. -/
theorem Lawful.hasIds [Regex.Engine] [IdSource] {c : Change} (h : q.Lawful s c) (hs : s.HasIds) :
    (q.change s c).HasIds := by
  cases c with
  | insert docs => exact Store.Appends.hasIds h hs
  | insertOne doc => exact Store.Appends.hasIds h hs
  | insertRecords records => exact Store.Appends.hasIds h hs
  | update u => exact Store.Rewrites.hasIds h hs
  | delete => exact Store.Thins.hasIds h hs

end Query

/-! ## Runs -/

namespace Store

variable {κ : Type} [Regex.Engine] [IdSource]

/-- The store that changes leave, each by a query of its own. -/
def afterChanges (s : Store) (changes : List (Query κ × Change)) : Store :=
  changes.foldl (fun s c => c.1.change s c.2) s

theorem hasIds_afterChanges {s : Store} (hs : s.HasIds) (changes : List (Query κ × Change)) :
    (s.afterChanges changes).HasIds := by
  induction changes generalizing s with
  | nil => exact hs
  | cons c rest ih => exact ih ((Query.lawful c.1 s c.2).hasIds hs)

/-- After every run of changes from a store without collections, every document has an identifier,
and whatever change comes next follows the rule of its kind. -/
theorem afterChanges_lawful (changes : List (Query κ × Change)) :
    (empty.afterChanges changes).HasIds ∧
      ∀ (q : Query κ) (c : Change), q.Lawful (empty.afterChanges changes) c ∧
        empty.afterChanges (changes ++ [(q, c)]) = q.change (empty.afterChanges changes) c :=
  ⟨hasIds_afterChanges hasIds_empty changes, fun q c => ⟨q.lawful _ c, List.foldl_append⟩⟩

end Store

end DocQuery
