import RecordStore.Criteria.Pipeline
import RecordStore.Record
import RecordStore.Request
/-!
# Repositories

A repository gives access to the records of one type on any backend. Every operation writes
its records and identities first and only then makes its request, at most one; what
cannot be written therefore leaves the collection alone. Failures of the backend are passed on.

Records are addressed by the value that their identity is written as. A value that looks like a
document of operators acts as one.

## Main definitions

* `Repository.findById`, `Repository.find`, `Repository.search`, `Repository.count`: reading.
* `Repository.insertOne`, `Repository.updateOne`, `Repository.bulkWrite` and others: writing.
-/

namespace RecordStore

namespace Repository

/-- The filter for the record with an identity. -/
def idFilter (ρ : Type) {ι : Type} [Record ρ ι] (id : ι) : Except StorageError Document := do
  let value ← Record.encodeId ρ id
  pure [(Record.idField ρ, value)]

/-- The filter for the records with one of several identities. -/
def idsFilter (ρ : Type) {ι : Type} [Record ρ ι] (ids : List ι) :
    Except StorageError Document := do
  let values ← ids.mapM (Record.encodeId ρ)
  pure [(Record.idField ρ, .document [("$in", .array values)])]

/-- The upsert of a record by its identity. -/
def upsert {ρ ι : Type} [Record ρ ι] (record : ρ) : Except StorageError Upsert := do
  let filter ← idFilter ρ (Record.id record)
  let replacement ← Record.encode record
  pure ⟨filter, replacement⟩

variable {σ : Type} [Backend σ]

/-- A request to the collection of a type of records. -/
def request (ρ : Type) {ι : Type} [Record ρ ι] (r : Request) : Action σ r.Reply :=
  Backend.perform (Record.collection ρ) r

/-! ### Reading -/

/-- The record with an identity. -/
def findById (ρ : Type) {ι : Type} [Record ρ ι] (id : ι) : Action σ ρ := do
  let filter ← idFilter ρ id
  match ← request ρ (.findOne filter) with
  | some d => Record.decode d
  | none => throw .notFound

/-- The records that match a filter, ordered and cut as the options ask. -/
def find (ρ : Type) {ι : Type} [Record ρ ι] (filter : Document) (options : FindOptions) :
    Action σ (List ρ) := do
  let ds ← request ρ (.find filter options)
  ds.mapM (m := Except StorageError) Record.decode

/-- What a pipeline over the collection of a type of records yields, read by `decode`. -/
def aggregate (ρ : Type) {ι α : Type} [Record ρ ι] (decode : Document → Except StorageError α)
    (pipeline : List Document) : Action σ (List α) := do
  let ds ← request ρ (.aggregate pipeline)
  ds.mapM (m := Except StorageError) decode

/-- The records that a search yields. -/
def search (ρ : Type) {ι : Type} [Record ρ ι] (criteria : Criteria) : Action σ (List ρ) :=
  aggregate ρ Record.decode criteria.pipeline

/-- How many records there are. -/
def count (ρ : Type) {ι : Type} [Record ρ ι] : Action σ Nat :=
  request ρ (.count [])

/-! ### Writing -/

/-- Adds a record. -/
def insertOne {ρ ι : Type} [Record ρ ι] (record : ρ) : Action σ Unit := do
  let d ← Record.encode record
  request ρ (.insertOne d)

/-- Adds records one after the other. For no records no request is made. -/
def insertMany {ρ ι : Type} [Record ρ ι] (records : List ρ) : Action σ Unit := do
  if records.isEmpty then pure ()
  else
    let ds ← records.mapM (m := Except StorageError) Record.encode
    request ρ (.insertMany ds)

/-- Sets every field of a record on the document with its identity. -/
def updateOne {ρ ι : Type} [Record ρ ι] (record : ρ) : Action σ UpdateResult := do
  let filter ← idFilter ρ (Record.id record)
  let d ← Record.encode record
  request ρ (.updateOne filter [("$set", .document d)])

/-- Sets the same fields on the documents of several identities, of which there must be one. -/
def updateMany (ρ : Type) {ι : Type} [Record ρ ι] (ids : List ι) (fields : Document) :
    Action σ UpdateResult := do
  if ids.isEmpty then throw (.invalidRequest (.noIdentities (Record.collection ρ)))
  else
    let filter ← idsFilter ρ ids
    request ρ (.updateMany filter [("$set", .document fields)])

/-- Removes the record with an identity. -/
def deleteById (ρ : Type) {ι : Type} [Record ρ ι] (id : ι) : Action σ Nat := do
  let filter ← idFilter ρ id
  request ρ (.deleteOne filter)

/-- Removes the records with one of several identities; no identities mean all records. -/
def deleteMany (ρ : Type) {ι : Type} [Record ρ ι] (ids : List ι) : Action σ Nat := do
  let filter ← if ids.isEmpty then pure [] else idsFilter ρ ids
  request ρ (.deleteMany filter)

/-- Replaces or adds each record by its identity. For no records no request is made. -/
def bulkWrite {ρ ι : Type} [Record ρ ι] (records : List ρ) : Action σ UpsertSummary := do
  if records.isEmpty then pure {}
  else
    let upserts ← records.mapM (m := Except StorageError) upsert
    request ρ (.bulkUpsert upserts)

/-! ### Definitions -/

/-- Defines indexes. -/
def createIndexes (ρ : Type) {ι : Type} [Record ρ ι] (indexes : List Index) :
    Action σ (List String) :=
  request ρ (.createIndexes indexes)

/-- Defines indexes for searching. -/
def createSearchIndexes (ρ : Type) {ι : Type} [Record ρ ι] (indexes : List SearchIndex) :
    Action σ (List String) :=
  request ρ (.createSearchIndexes indexes)

/-- Lays the collection out for measurements; an empty name means that no field tells their
sources apart. -/
def createTimeSeries (ρ : Type) {ι : Type} [Record ρ ι] (timeField metaField : String)
    (span : Span) : Action σ Unit :=
  request ρ (.createTimeSeries
    { timeField
      metaField := if metaField.isEmpty then none else some metaField
      span := some span })

end Repository

end RecordStore
