import RecordStore.Instant.Rfc3339
import RecordStore.Migration.Basic
import RecordStore.Record
/-!
# The log of migrations

A `LogEntry` is kept for every migration whose forward step has been taken. Its identity
is the decimal text of the version, and its time is stored as RFC 3339 text.

## Main definitions

* `LogEntry`, `LogEntry.applied`.
-/

namespace RecordStore

/-- An instant from its RFC 3339 text. -/
def Instant.read {τ : Type} [Tree τ] : Reader τ Instant := fun t =>
  match Tree.node t with
  | .text s => (Instant.ofText? s).mapError fun fault => .custom fault.message
  | _ => Reader.refuse "an RFC 3339 formatted date and time string" t

/-- The record of a migration that has been applied. -/
structure LogEntry where
  /-- The identity. -/
  id : String
  /-- The version. -/
  version : Int64
  /-- What the change was for. -/
  description : String
  /-- When the forward step was finished. -/
  timestamp : Instant
deriving DecidableEq

namespace LogEntry

/-- The entry of a migration whose forward step was finished at an instant. -/
def applied {σ : Type} (m : Migration σ) (timestamp : Instant) : LogEntry :=
  ⟨m.id, m.version, m.description, timestamp⟩

/-- The fields in the order of the document. -/
def fields : Fields Value LogEntry :=
  LogEntry.mk <$> Fields.required "id" Reader.text
    <*> Fields.required "version" Reader.int64
    <*> Fields.required "description" Reader.text
    <*> Fields.required "timestamp" Instant.read

/-- The document of an entry. -/
def toDocument (e : LogEntry) : Document :=
  [("id", .string e.id), ("version", .int64 e.version),
    ("description", .string e.description), ("timestamp", .string e.timestamp.text)]

instance : Record LogEntry String where
  collection := "migration"
  id := id
  encodeId id := .ok (.string id)
  encode e := .ok e.toDocument
  decode := Document.decode "MigrationRecord" fields
  serialization_encodeId := @Record.serialization_of_ok _ _ Value.string
  serialization_encode := @Record.serialization_of_ok _ _ toDocument
  serialization_decode := Document.serialization_decode

end LogEntry

end RecordStore
