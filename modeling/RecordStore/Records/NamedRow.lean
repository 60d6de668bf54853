import RecordStore.Record
/-!
# Rows of a pipeline

A pipeline may yield documents that are no whole records. They are read as they are, or as a
`NamedRow` when only the name matters.

## Main definitions

* `Document.decodeWhole`: a document as it is, with the error that a store reports.
* `NamedRow`: the name in a document.
-/

namespace RecordStore

/-- A document with its extended forms read; a fault is a failure of serialization. -/
def Document.decodeWhole (d : Document) : Except StorageError Document :=
  d.interpret.mapError fun fault => .serialization (.unreadable fault)

/-- The name in a document. -/
structure NamedRow where
  /-- The name. -/
  name : String
deriving DecidableEq, Repr

namespace NamedRow

/-- The row in a document. -/
def decode : Document → Except StorageError NamedRow :=
  Document.decode "NamedRow" (NamedRow.mk <$> Fields.required "name" Reader.text)

end NamedRow

end RecordStore
