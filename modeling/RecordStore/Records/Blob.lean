import RecordStore.Extended.Condensation
import RecordStore.Record
/-!
# Blobs

A blob holds any value under any value as its key. Extended forms in either give way to the values
that they spell when a blob is written, and again when it is read. A key that is a document of
operators is not treated specially, so in a filter it acts as operators.

## Main definitions

* `Blob`: a record of two values.
-/

namespace RecordStore

/-- A value under a key. -/
structure Blob where
  /-- The identity. -/
  key : Value
  /-- The content. -/
  payload : Value

namespace Blob

/-- The fields in the order of the document. -/
def fields : Fields Value Blob :=
  Blob.mk <$> Fields.required "key" Value.interpret
    <*> Fields.required "payload" Value.interpret

/-- The document of a blob. -/
def toDocument (b : Blob) : Document :=
  [("key", b.key.condense), ("payload", b.payload.condense)]

instance : Record Blob Value where
  collection := "blob"
  idField := "key"
  id := key
  encodeId id := .ok id.condense
  encode b := .ok b.toDocument
  decode := Document.decode "Blob" fields
  serialization_encodeId := @Record.serialization_of_ok _ _ Value.condense
  serialization_encode := @Record.serialization_of_ok _ _ toDocument
  serialization_decode := Document.serialization_decode

end Blob

end RecordStore
