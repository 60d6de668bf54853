import RecordStore.Action
import RecordStore.Value.Basic
/-!
# Requests to a backend

A `Request` is one call on a collection, with the documents it carries; its `Reply` is the type
of the answer. Filters, updates and stages of a pipeline are documents, which are interpreted
when the request is performed. A `Backend` is a state on whose collections requests can be
performed; repositories and migrations are written against this class alone.

## Main definitions

* `Request`, `Request.Reply`, `Request.method`.
* `FindOptions`, with builders that leave out what asks for nothing.
* `Backend`: requests to named collections, and a test of health.
-/

namespace RecordStore

/-- How the result of a scan is ordered and cut. -/
structure FindOptions where
  /-- Names with their directions. -/
  sort : Option Document := none
  /-- The greatest number of results. -/
  limit : Option Int64 := none
  /-- The number of results that are left out at the start. -/
  skip : Option UInt64 := none

namespace FindOptions

/-- Orders by the given names; no names ask for no order. -/
def withSort (o : FindOptions) (sort : Document) : FindOptions :=
  { o with sort := if sort.isEmpty then none else some sort }

/-- Limits the number of results; a number that is not positive asks for no limit. -/
def withLimit (o : FindOptions) (limit : Int64) : FindOptions :=
  { o with limit := if 0 < limit then some limit else none }

/-- Leaves results out; a number that is not positive asks for none to be left out. -/
def withSkip (o : FindOptions) (skip : Int64) : FindOptions :=
  { o with skip := if 0 < skip then some skip.toUInt64 else none }

end FindOptions

/-- What an update did. -/
structure UpdateResult where
  /-- How many documents matched. -/
  matched : Nat := 0
  /-- How many of them changed. -/
  modified : Nat := 0
deriving DecidableEq, Repr

/-- The replacement of the first document that matches, or its insertion. -/
structure Upsert where
  /-- Which document is meant. -/
  filter : Document
  /-- The document that takes its place. -/
  replacement : Document

/-- What a list of upserts did. -/
structure UpsertSummary where
  /-- How many found a document. -/
  matched : Nat := 0
  /-- How many changed the document they found. -/
  modified : Nat := 0
  /-- How many inserted one. -/
  upserted : Nat := 0
deriving DecidableEq, Repr

/-- The definition of an index. -/
structure Index where
  /-- The names that are indexed, with their directions. -/
  keys : Document
  /-- The name of the index, if it is given one. -/
  name : Option String := none
  /-- Whether no two documents may agree on the names. -/
  unique : Bool := false

/-- The definition of an index for searching. -/
structure SearchIndex where
  /-- The name of the index. -/
  name : String
  /-- What is indexed, and how. -/
  definition : Document

/-- A length of time. -/
structure Span where
  /-- Whole seconds. -/
  seconds : Nat
  /-- Nanoseconds beyond them. -/
  nanos : Nat
deriving DecidableEq, Repr

/-- The layout of a collection of measurements. -/
structure TimeSeries where
  /-- The field with the time of a measurement. -/
  timeField : String
  /-- The field that tells the sources of measurements apart. -/
  metaField : Option String := none
  /-- The length of time that is kept together. -/
  span : Option Span := none
deriving DecidableEq, Repr

/-- One call on a collection. -/
inductive Request
  /-- The first document that matches. -/
  | findOne (filter : Document)
  /-- All documents that match, ordered and cut. -/
  | find (filter : Document) (options : FindOptions)
  /-- Adds a document. -/
  | insertOne (document : Document)
  /-- Adds documents one after the other. -/
  | insertMany (documents : List Document)
  /-- Changes the first document that matches. -/
  | updateOne (filter update : Document)
  /-- Changes all documents that match. -/
  | updateMany (filter update : Document)
  /-- Removes the first document that matches. -/
  | deleteOne (filter : Document)
  /-- Removes all documents that match. -/
  | deleteMany (filter : Document)
  /-- Counts the documents that match. -/
  | count (filter : Document)
  /-- Replaces or inserts documents one after the other. -/
  | bulkUpsert (upserts : List Upsert)
  /-- Runs a pipeline over all documents. -/
  | aggregate (pipeline : List Document)
  /-- Defines indexes. -/
  | createIndexes (indexes : List Index)
  /-- Defines indexes for searching. -/
  | createSearchIndexes (indexes : List SearchIndex)
  /-- Lays out the collection for measurements. -/
  | createTimeSeries (layout : TimeSeries)

namespace Request

/-- The type of the answer to a request. -/
abbrev Reply : Request → Type
  | findOne _ => Option Document
  | find _ _ => List Document
  | insertOne _ => Unit
  | insertMany _ => Unit
  | updateOne _ _ => UpdateResult
  | updateMany _ _ => UpdateResult
  | deleteOne _ => Nat
  | deleteMany _ => Nat
  | count _ => Nat
  | bulkUpsert _ => UpsertSummary
  | aggregate _ => List Document
  | createIndexes _ => List String
  | createSearchIndexes _ => List String
  | createTimeSeries _ => Unit

/-- The name of a request. -/
def method : Request → String
  | findOne _ => "find_one"
  | find _ _ => "find"
  | insertOne _ => "insert_one"
  | insertMany _ => "insert_many"
  | updateOne _ _ => "update_one"
  | updateMany _ _ => "update_many"
  | deleteOne _ => "delete_one"
  | deleteMany _ => "delete_many"
  | count _ => "count"
  | bulkUpsert _ => "bulk_upsert"
  | aggregate _ => "aggregate"
  | createIndexes _ => "create_indexes"
  | createSearchIndexes _ => "create_search_indexes"
  | createTimeSeries _ => "create_time_series"

end Request

/-- A state that holds named collections. -/
class Backend (σ : Type) where
  /-- Performs a request on the collection of a name. -/
  perform (collection : String) (r : Request) : Action σ r.Reply
  /-- Fails if the backend cannot be reached. -/
  healthCheck : Action σ Unit

end RecordStore
