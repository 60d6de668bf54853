import RecordStore.Proofs.Collection
import RecordStore.Proofs.Except
import RecordStore.Repository
import RecordStore.Store
/-!
# Requests of a repository to a store

What the operations of a repository on single records do to a store in memory, in terms of the
search for the identity among the documents of the collection.

## Main definitions

* `Store.documents`, `Store.withDocuments`: the documents of a type of records.

## Main results

* `Store.outcome_request`: a request reaches one collection.
* `Repository.outcome_findById`, `Repository.outcome_deleteById`: a record by its identity.
* `Repository.outcome_updateOne`, `Repository.outcome_bulkWrite_singleton`: a record written over
  the one with its identity.
* `Repository.outcome_bulkWrite`: any number of records.
-/

namespace RecordStore

namespace Store

@[simp] theorem put_contents (s : Store) (name : String) : s.put name (s.contents name) = s := by
  obtain ⟨field, contents⟩ := s
  have hcontents : (fun other => if other = name then contents name else contents other) =
      contents := by
    funext other
    split
    · next h => rw [h]
    · rfl
  exact congrArg (Store.mk field) hcontents

/-- The documents of the collection of a type of records. -/
abbrev documents (ρ : Type) {ι : Type} [Record ρ ι] (s : Store) : List Document :=
  (s.contents (Record.collection ρ)).documents

theorem documents_collection (ρ : Type) {ι : Type} [Record ρ ι] (s : Store) :
    (s.collection (Record.collection ρ)).documents = documents ρ s := rfl

/-- The store with other documents in the collection of a type of records. -/
def withDocuments (ρ : Type) {ι : Type} [Record ρ ι] (s : Store) (ds : List Document) : Store :=
  s.put (Record.collection ρ) { s.contents (Record.collection ρ) with documents := ds }

@[simp] theorem documents_withDocuments (ρ : Type) {ι : Type} [Record ρ ι] (s : Store)
    (ds : List Document) : documents ρ (withDocuments ρ s ds) = ds := by
  rw [documents, withDocuments, contents_put_self]

theorem outcome_request {ρ ι : Type} [Record ρ ι] (s : Store) (r : Request) :
    (Repository.request ρ r : Action Store r.Reply).outcome s =
      (((Collection.perform r).outcome (s.collection (Record.collection ρ))).1,
        s.put (Record.collection ρ)
          ((Collection.perform r).outcome (s.collection (Record.collection ρ))).2.toContents) :=
  rfl

end Store

namespace Repository

open RecordStore.Action

variable {ρ ι : Type} [Record ρ ι] {id : ι} {v : Value}

theorem idFilter_of_encodeId (hid : Record.encodeId ρ id = .ok v) :
    idFilter ρ id = .ok [(Record.idField ρ, v)] := by
  rw [idFilter, hid]
  rfl

/-- An upsert is written if the identity and the document are. -/
theorem upsert_eq_ok_iff {r : ρ} {u : Upsert} :
    upsert r = .ok u ↔ ∃ v d, Record.encodeId ρ (Record.id r) = .ok v ∧ Record.encode r = .ok d ∧
      u = ⟨[(Record.idField ρ, v)], d⟩ := by
  constructor
  · intro h
    obtain ⟨filter, hfilter, h⟩ := Except.exists_of_bind h
    obtain ⟨v, hv, hfilter⟩ := Except.exists_of_bind hfilter
    obtain ⟨d, hd, h⟩ := Except.exists_of_bind h
    cases hfilter
    cases h
    exact ⟨v, d, hv, hd, rfl⟩
  · rintro ⟨v, d, hv, hd, rfl⟩
    rw [upsert, idFilter_of_encodeId hv, hd]
    rfl

theorem outcome_findById (hid : Record.encodeId ρ id = .ok v) (s : Store) :
    (findById ρ id : Action Store ρ).outcome s =
      (match Filter.first? [(Record.idField ρ, v)] (Store.documents ρ s) with
        | .error e => .error e
        | .ok none => .error .notFound
        | .ok (some p) => Record.decode p.document, s) := by
  have hrequest : (request ρ (.findOne [(Record.idField ρ, v)]) :
      Action Store (Option Document)).outcome s =
        ((Filter.first? [(Record.idField ρ, v)] (Store.documents ρ s)).map
          (Option.map Filter.Place.document), s) := by
    rw [Store.outcome_request, Collection.perform, Collection.outcome_findOne]
    exact congrArg _ (Store.put_contents s _)
  simp only [findById, idFilter_of_encodeId hid, outcome_bind, outcome_lift, hrequest]
  cases Filter.first? [(Record.idField ρ, v)] (Store.documents ρ s) with
  | error e => rfl
  | ok place => cases place <;> rfl

theorem outcome_deleteById (hid : Record.encodeId ρ id = .ok v) (s : Store) :
    (deleteById ρ id : Action Store Nat).outcome s =
      match Filter.first? [(Record.idField ρ, v)] (Store.documents ρ s) with
      | .error e => (.error e, s)
      | .ok none => (.ok 0, s)
      | .ok (some p) => (.ok 1, Store.withDocuments ρ s p.remove) := by
  simp only [deleteById, idFilter_of_encodeId hid, outcome_bind, outcome_lift]
  rw [Store.outcome_request, Collection.perform, Collection.outcome_deleteOne,
    Store.documents_collection]
  cases Filter.first? [(Record.idField ρ, v)] (Store.documents ρ s) with
  | error e => exact congrArg _ (Store.put_contents s _)
  | ok place =>
    cases place with
    | none => exact congrArg _ (Store.put_contents s _)
    | some p => rfl

theorem outcome_updateOne {r : ρ} {d : Document} (hid : Record.encodeId ρ (Record.id r) = .ok v)
    (hd : Record.encode r = .ok d) (s : Store) :
    (updateOne r : Action Store UpdateResult).outcome s =
      match Filter.first? [(Record.idField ρ, v)] (Store.documents ρ s) with
      | .error e => (.error e, s)
      | .ok none => (.ok {}, s)
      | .ok (some p) =>
        (.ok (Update.tally (Update.apply d p.document).2 {}),
          Store.withDocuments ρ s (p.replace (Update.apply d p.document).1)) := by
  have hchanges : Update.changes [("$set", .document d)] = .ok d := rfl
  simp only [updateOne, idFilter_of_encodeId hid, hd, outcome_bind, outcome_lift]
  rw [Store.outcome_request, Collection.perform, Collection.outcome_updateOne, hchanges,
    Store.documents_collection]
  cases Filter.first? [(Record.idField ρ, v)] (Store.documents ρ s) with
  | error e => exact congrArg _ (Store.put_contents s _)
  | ok place =>
    cases place with
    | none => exact congrArg _ (Store.put_contents s _)
    | some p => rfl

/-- A batch is performed on the collection of the records; for no records that does nothing. -/
theorem outcome_bulkWrite {records : List ρ} {us : List Upsert}
    (hus : records.mapM (m := Except StorageError) upsert = .ok us) (s : Store) :
    (bulkWrite records : Action Store UpsertSummary).outcome s =
      match (Collection.bulkUpsert us).outcome (s.collection (Record.collection ρ)) with
      | (answer, left) => (answer, s.put (Record.collection ρ) left.toContents) := by
  cases records with
  | nil =>
    cases hus
    exact congrArg _ (Store.put_contents s _).symm
  | cons r rest =>
    simp only [bulkWrite, List.isEmpty_cons, Bool.false_eq_true, if_false, hus, outcome_bind,
      outcome_lift]
    rfl

/-- A batch of one record whose identity is there replaces its document. -/
theorem outcome_bulkWrite_singleton {r : ρ} {d : Document} {p : Filter.Place}
    (hid : Record.encodeId ρ (Record.id r) = .ok v) (hd : Record.encode r = .ok d) {s : Store}
    (hp : Filter.first? [(Record.idField ρ, v)] (Store.documents ρ s) = .ok (some p)) :
    ((bulkWrite [r] : Action Store UpsertSummary).outcome s).2 =
      Store.withDocuments ρ s (p.replace d) := by
  have hupserts : [r].mapM (m := Except StorageError) upsert =
      .ok [⟨[(Record.idField ρ, v)], d⟩] := by
    rw [List.mapM_cons, upsert_eq_ok_iff.2 ⟨v, d, hid, hd, rfl⟩]
    rfl
  rw [outcome_bulkWrite hupserts, Collection.bulkUpsert, Collection.outcome_upsertAll_cons,
    Collection.outcome_upsertOne, Store.documents_collection, hp]
  rfl

end Repository

end RecordStore
