import RecordStore.Action
import RecordStore.Pipeline
import RecordStore.Update
import RecordStore.Value.Text
/-!
# Collections

A collection is a list of documents in the order of their insertion. One field holds the
identity of a document, and an identity that is present may not be inserted twice; documents
without one never clash. Whether an identity clashes is tested when a document is inserted, by
an insertion or by an upsert that finds nothing; a replacement or a change in place is not
tested.

Requests that carry several documents are performed in order and stop at the first error; what
was done before stays. A deletion of all matching documents is the exception: it takes the
documents out first, so an error of the filter leaves the collection empty.

## Main definitions

* `Contents`, `Collection`: documents, and documents with a name and an identity field.
* `Collection.checkNew`: the test for a clash.
* one action for each request; `Collection.perform` is the action of a request.
-/

namespace RecordStore

/-- What a collection holds. -/
structure Contents where
  /-- The documents in the order of insertion. -/
  documents : List Document := []
  /-- The indexes defined so far. -/
  indexes : List Index := []
  /-- The indexes for searching defined so far. -/
  searchIndexes : List SearchIndex := []
  /-- The layout for measurements, if there is one. -/
  timeSeries : Option TimeSeries := none
  /-- The pipeline that was run last. -/
  lastPipeline : Option (List Document) := none

/-- A list of documents with a name and an identity. -/
structure Collection extends Contents where
  /-- The name, which stands in messages. -/
  name : String
  /-- The field that holds the identity. -/
  idField : String

namespace Collection

/-! ### Identities -/

/-- Whether a document has the given identity. -/
def hasIdentity (c : Collection) (id : Value) (d : Document) : Bool :=
  d.has c.idField id

/-- Refuses a document whose identity is present. -/
def checkNew (c : Collection) (d : Document) : Except StorageError Unit :=
  match d.get? c.idField with
  | none => .ok ()
  | some id =>
    if c.documents.any (c.hasIdentity id) then
      .error (.duplicateKey (c.name ++ "." ++ c.idField ++ " = " ++ id.text))
    else .ok ()

/-! ### Reading -/

/-- The first document that matches. -/
def findOne (filter : Document) : Action Collection (Option Document) := do
  let place ← Filter.first? filter (← get).documents
  pure (place.map Filter.Place.document)

/-- The part of a list that the options ask for. A negative limit is none. -/
def cut (options : FindOptions) (ds : List Document) : List Document :=
  let rest := ds.drop ((options.skip.map UInt64.toNat).getD 0)
  match options.limit with
  | some limit => if limit < 0 then rest else rest.take limit.toInt.toNat
  | none => rest

/-- The documents that match, ordered and cut as the options ask. -/
def find (filter : Document) (options : FindOptions) : Action Collection (List Document) := do
  let selected ← Filter.select filter (← get).documents
  let sorted ← match options.sort with
    | some directions => sortDocuments directions selected
    | none => pure selected
  pure (cut options sorted)

/-- How many documents match. -/
def count (filter : Document) : Action Collection Nat := do
  let selected ← Filter.select filter (← get).documents
  pure selected.length

/-- The documents behind a pipeline, which is remembered as the last one. -/
def aggregate (pipeline : List Document) : Action Collection (List Document) := do
  modify fun c => { c with lastPipeline := some pipeline }
  Pipeline.run pipeline (← get).documents

/-! ### Writing -/

/-- Puts other documents into the collection. -/
def setDocuments (ds : List Document) : Action Collection Unit :=
  modify fun c => { c with documents := ds }

/-- Adds a document at the end, if its identity is new. -/
def insertOne (d : Document) : Action Collection Unit := do
  (← get).checkNew d
  modify fun c => { c with documents := c.documents ++ [d] }

/-- Adds documents one after the other. -/
def insertMany (ds : List Document) : Action Collection Unit :=
  ds.forM insertOne

/-- Changes the first document that matches. -/
def updateOne (filter update : Document) : Action Collection UpdateResult := do
  let fields ← Update.changes update
  match ← Filter.first? filter (← get).documents with
  | none => pure {}
  | some place => do
    let (updated, modified) := Update.apply fields place.document
    setDocuments (place.replace updated)
    pure (Update.tally modified {})

/-- Changes all documents that match. -/
def updateMany (filter update : Document) : Action Collection UpdateResult := do
  let fields ← Update.changes update
  let (result, ds) := Update.applyAll filter fields (← get).documents
  setDocuments ds
  result

/-- Removes the first document that matches. -/
def deleteOne (filter : Document) : Action Collection Nat := do
  match ← Filter.first? filter (← get).documents with
  | none => pure 0
  | some place => do
    setDocuments place.remove
    pure 1

/-- Separates the documents that match from those that do not, which come second. -/
def partition (filter : Document) :
    List Document → Except StorageError (List Document × List Document)
  | [] => .ok ([], [])
  | d :: rest => do
    let found ← Filter.test d filter
    let (matching, others) ← partition filter rest
    pure (if found then (d :: matching, others) else (matching, d :: others))

/-- Removes all documents that match. All documents are taken out before the filter is
tested, and those that do not match are put back after it. -/
def deleteMany (filter : Document) : Action Collection Nat := do
  let ds := (← get).documents
  setDocuments []
  let (matching, others) ← partition filter ds
  setDocuments others
  pure matching.length

/-- Replaces the first document that matches, or adds one at the end. -/
def upsertOne (u : Upsert) (done : UpsertSummary) : Action Collection UpsertSummary := do
  match ← Filter.first? u.filter (← get).documents with
  | some place => do
    setDocuments (place.replace u.replacement)
    pure { done with
      matched := done.matched + 1
      modified := done.modified + if place.document.same u.replacement then 0 else 1 }
  | none => do
    insertOne u.replacement
    pure { done with upserted := done.upserted + 1 }

/-- Performs upserts one after the other, counting on from `done`. -/
def upsertAll : List Upsert → UpsertSummary → Action Collection UpsertSummary
  | [], done => pure done
  | u :: rest, done => do
    let next ← upsertOne u done
    upsertAll rest next

/-- Performs upserts one after the other. -/
def bulkUpsert (upserts : List Upsert) : Action Collection UpsertSummary :=
  upsertAll upserts {}

/-! ### Definitions -/

/-- The name of an index: the one it is given, or its fields with their directions. -/
def indexName (index : Index) : String :=
  match index.name with
  | some name => name
  | none =>
    "_".intercalate (index.keys.map fun (field, direction) => field ++ "_" ++ direction.text)

/-- Defines indexes and answers with their names. -/
def createIndexes (indexes : List Index) : Action Collection (List String) := do
  modify fun c => { c with indexes := c.indexes ++ indexes }
  pure (indexes.map indexName)

/-- Defines indexes for searching and answers with their names. -/
def createSearchIndexes (indexes : List SearchIndex) : Action Collection (List String) := do
  modify fun c => { c with searchIndexes := c.searchIndexes ++ indexes }
  pure (indexes.map SearchIndex.name)

/-- Lays the collection out for measurements, which it may not be yet, nor hold documents. -/
def createTimeSeries (layout : TimeSeries) : Action Collection Unit := do
  let c ← get
  if c.timeSeries.isSome || !c.documents.isEmpty then
    throw (.store (.collectionExists c.name))
  set { c with timeSeries := some layout }

/-! ### Requests -/

/-- The action of a request. -/
def perform : (r : Request) → Action Collection r.Reply
  | .findOne filter => findOne filter
  | .find filter options => find filter options
  | .insertOne d => insertOne d
  | .insertMany ds => insertMany ds
  | .updateOne filter update => updateOne filter update
  | .updateMany filter update => updateMany filter update
  | .deleteOne filter => deleteOne filter
  | .deleteMany filter => deleteMany filter
  | .count filter => count filter
  | .bulkUpsert upserts => bulkUpsert upserts
  | .aggregate pipeline => aggregate pipeline
  | .createIndexes indexes => createIndexes indexes
  | .createSearchIndexes indexes => createSearchIndexes indexes
  | .createTimeSeries layout => createTimeSeries layout

end Collection

end RecordStore
