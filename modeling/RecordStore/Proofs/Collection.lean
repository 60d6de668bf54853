import RecordStore.Proofs.Filter
/-!
# What requests to a collection do

The answer of every request that can change documents and the collection it leaves, as an
equation on the filter's scans. None of them touches anything but the list of documents.

## Main definitions

* `Collection.withDocuments`: the same collection with other documents.

## Main results

* `Collection.outcome_insertOne`, `Collection.outcome_updateOne`, and so on: one equation for
  each request.
-/

namespace RecordStore

namespace Collection

open RecordStore.Action

/-- The same collection with other documents. -/
def withDocuments (c : Collection) (ds : List Document) : Collection :=
  { c with documents := ds }

@[simp] theorem documents_withDocuments (c : Collection) (ds : List Document) :
    (c.withDocuments ds).documents = ds := rfl

@[simp] theorem idField_withDocuments (c : Collection) (ds : List Document) :
    (c.withDocuments ds).idField = c.idField := rfl

@[simp] theorem name_withDocuments (c : Collection) (ds : List Document) :
    (c.withDocuments ds).name = c.name := rfl

@[simp] theorem withDocuments_withDocuments (c : Collection) (ds es : List Document) :
    (c.withDocuments ds).withDocuments es = c.withDocuments es := rfl

@[simp] theorem withDocuments_self (c : Collection) : c.withDocuments c.documents = c := rfl

/-! ### Reading -/

theorem outcome_findOne (c : Collection) (filter : Document) :
    (findOne filter).outcome c =
      ((Filter.first? filter c.documents).map (Option.map Filter.Place.document), c) := by
  simp only [findOne, outcome_bind, outcome_get, outcome_lift]
  cases Filter.first? filter c.documents <;> rfl

theorem outcome_find (c : Collection) (filter : Document) (options : FindOptions) :
    (find filter options).outcome c =
      ((do
        let selected ← Filter.select filter c.documents
        let sorted ← match options.sort with
          | some directions => sortDocuments directions selected
          | none => pure selected
        pure (cut options sorted)), c) := by
  simp only [find, outcome_bind, outcome_get, outcome_lift]
  cases Filter.select filter c.documents with
  | error e => rfl
  | ok selected =>
    cases options.sort with
    | none => rfl
    | some directions =>
      simp only [bind, Except.bind]
      cases sortDocuments directions selected <;> rfl

theorem outcome_count (c : Collection) (filter : Document) :
    (count filter).outcome c = ((Filter.select filter c.documents).map List.length, c) := by
  simp only [count, outcome_bind, outcome_get, outcome_lift]
  cases Filter.select filter c.documents <;> rfl

theorem outcome_aggregate (c : Collection) (pipeline : List Document) :
    (aggregate pipeline).outcome c =
      (Pipeline.run pipeline c.documents, { c with lastPipeline := some pipeline }) := by
  simp only [aggregate, outcome_bind, outcome_modify, outcome_get, outcome_lift]

/-! ### Inserting -/

theorem outcome_insertOne (c : Collection) (d : Document) :
    (insertOne d).outcome c =
      match c.checkNew d with
      | .error e => (.error e, c)
      | .ok _ => (.ok (), c.withDocuments (c.documents ++ [d])) := by
  simp only [insertOne, outcome_bind, outcome_get, outcome_lift, outcome_modify]
  cases c.checkNew d <;> rfl

@[simp] theorem outcome_insertMany_nil (c : Collection) :
    (insertMany []).outcome c = (.ok (), c) := rfl

theorem outcome_insertMany_cons (c : Collection) (d : Document) (rest : List Document) :
    (insertMany (d :: rest)).outcome c =
      match c.checkNew d with
      | .error e => (.error e, c)
      | .ok _ => (insertMany rest).outcome (c.withDocuments (c.documents ++ [d])) := by
  change (insertOne d >>= fun _ => insertMany rest).outcome c = _
  rw [outcome_bind, outcome_insertOne]
  cases c.checkNew d <;> rfl

/-! ### Changing -/

theorem outcome_updateOne (c : Collection) (filter update : Document) :
    (updateOne filter update).outcome c =
      match Update.changes update with
      | .error e => (.error e, c)
      | .ok fields =>
        match Filter.first? filter c.documents with
        | .error e => (.error e, c)
        | .ok none => (.ok {}, c)
        | .ok (some p) =>
          (.ok (Update.tally (Update.apply fields p.document).2 {}),
            c.withDocuments (p.replace (Update.apply fields p.document).1)) := by
  simp only [updateOne, outcome_bind, outcome_get, outcome_lift]
  cases Update.changes update with
  | error e => rfl
  | ok fields =>
    dsimp only
    cases Filter.first? filter c.documents with
    | error e => rfl
    | ok place => cases place <;> rfl

theorem outcome_updateMany (c : Collection) (filter update : Document) :
    (updateMany filter update).outcome c =
      match Update.changes update with
      | .error e => (.error e, c)
      | .ok fields =>
        match Filter.firstFault? filter c.documents with
        | some e => (.error e, c)
        | none =>
          (.ok (Update.countAll filter fields c.documents),
            c.withDocuments (c.documents.map (Update.updated filter fields))) := by
  simp only [updateMany, outcome_bind, outcome_get, outcome_lift]
  cases Update.changes update with
  | error e => rfl
  | ok fields =>
    simp only [Update.applyAll_eq, setDocuments, outcome_modify]
    cases Filter.firstFault? filter c.documents <;> rfl

/-! ### Removing -/

theorem outcome_deleteOne (c : Collection) (filter : Document) :
    (deleteOne filter).outcome c =
      match Filter.first? filter c.documents with
      | .error e => (.error e, c)
      | .ok none => (.ok 0, c)
      | .ok (some p) => (.ok 1, c.withDocuments p.remove) := by
  simp only [deleteOne, outcome_bind, outcome_get, outcome_lift]
  cases Filter.first? filter c.documents with
  | error e => rfl
  | ok place => cases place <;> rfl

theorem outcome_deleteMany (c : Collection) (filter : Document) :
    (deleteMany filter).outcome c =
      match Filter.firstFault? filter c.documents with
      | some e => (.error e, c.withDocuments [])
      | none =>
        (.ok (c.documents.countP (Filter.accepts filter)),
          c.withDocuments (c.documents.filter (!Filter.accepts filter ·))) := by
  simp only [deleteMany, setDocuments, outcome_bind, outcome_get, outcome_modify, outcome_lift,
    partition_eq]
  cases Filter.firstFault? filter c.documents with
  | some e => rfl
  | none => simp [List.countP_eq_length_filter]; rfl

/-! ### Replacing or adding -/

theorem outcome_upsertOne (c : Collection) (u : Upsert) (done : UpsertSummary) :
    (upsertOne u done).outcome c =
      match Filter.first? u.filter c.documents with
      | .error e => (.error e, c)
      | .ok (some p) =>
        (.ok { done with
            matched := done.matched + 1
            modified := done.modified + if p.document.same u.replacement then 0 else 1 },
          c.withDocuments (p.replace u.replacement))
      | .ok none =>
        match c.checkNew u.replacement with
        | .error e => (.error e, c)
        | .ok _ =>
          (.ok { done with upserted := done.upserted + 1 },
            c.withDocuments (c.documents ++ [u.replacement])) := by
  simp only [upsertOne, outcome_bind, outcome_get, outcome_lift]
  cases Filter.first? u.filter c.documents with
  | error e => rfl
  | ok place =>
    cases place with
    | some p => rfl
    | none =>
      simp only [outcome_bind, outcome_insertOne]
      cases c.checkNew u.replacement <;> rfl

@[simp] theorem outcome_upsertAll_nil (c : Collection) (done : UpsertSummary) :
    (upsertAll [] done).outcome c = (.ok done, c) := rfl

theorem outcome_upsertAll_cons (c : Collection) (u : Upsert) (rest : List Upsert)
    (done : UpsertSummary) :
    (upsertAll (u :: rest) done).outcome c =
      match (upsertOne u done).outcome c with
      | (.error e, left) => (.error e, left)
      | (.ok next, left) => (upsertAll rest next).outcome left := by
  rw [upsertAll, outcome_bind]
  obtain ⟨answer, left⟩ := (upsertOne u done).outcome c
  cases answer <;> rfl

end Collection

end RecordStore
