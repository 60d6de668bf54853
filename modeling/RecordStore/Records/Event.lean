import RecordStore.Record
/-!
# Events

An event is told apart by a document. Its count is a natural number, but only integers
are stored, so an event with a count above the greatest integer cannot be written. An event
without a note is written without the field.

## Main definitions

* `EventKey`, `Event`: a record with an identity of two parts.
-/

namespace RecordStore

/-- What tells events apart. -/
structure EventKey where
  /-- Whose event it is. -/
  tenant : String
  /-- The number of the event. -/
  seq : Int32
deriving DecidableEq

/-- Something that happened a number of times. -/
structure Event where
  /-- The identity. -/
  id : EventKey
  /-- How often it happened. -/
  count : UInt64
  /-- Marks by which it is found. -/
  tags : List String
  /-- A remark. -/
  note : Option String
deriving DecidableEq

namespace EventKey

/-- An identity from a tree. -/
def read : Reader Value EventKey :=
  Reader.struct "EventKey" <|
    EventKey.mk <$> Fields.required "tenant" Reader.text
      <*> Fields.required "seq" Reader.int32

/-- The stored form of an identity. -/
def toValue (k : EventKey) : Value :=
  .document [("tenant", .string k.tenant), ("seq", .int32 k.seq)]

end EventKey

namespace Event

/-- The stored form of a natural number, if there is one. -/
def storedCount (n : UInt64) : Except StorageError Value :=
  if n.toNat < 2 ^ 63 then .ok (.int64 n.toInt64)
  else .error (.serialization (.unsignedTooLarge n))

theorem serialization_storedCount {n : UInt64} {e : StorageError}
    (h : storedCount n = .error e) : e.isSerialization = true := by
  unfold storedCount at h
  split at h
  · cases h
  · cases h
    rfl

/-- The fields in the order of the document; the note may be missing. -/
def fields : Fields Value Event :=
  Event.mk <$> Fields.required "id" EventKey.read
    <*> Fields.required "count" Reader.uint64
    <*> Fields.required "tags" (Reader.list Reader.text)
    <*> Fields.optional "note" none (Reader.nullable Reader.text)

/-- The document of an event. -/
def toDocument (e : Event) : Except StorageError Document := do
  let count ← storedCount e.count
  pure ([("id", e.id.toValue), ("count", count), ("tags", .array (e.tags.map .string))] ++
    (e.note.map fun note => ("note", .string note)).toList)

theorem serialization_toDocument {r : Event} {e : StorageError}
    (h : r.toDocument = .error e) : e.isSerialization = true := by
  unfold toDocument at h
  cases hcount : storedCount r.count with
  | error f =>
    rw [hcount] at h
    cases h
    exact serialization_storedCount hcount
  | ok count =>
    rw [hcount] at h
    cases h

instance : Record Event EventKey where
  collection := "event"
  id := id
  encodeId id := .ok id.toValue
  encode := toDocument
  decode := Document.decode "Event" fields
  serialization_encodeId := @Record.serialization_of_ok _ _ EventKey.toValue
  serialization_encode := serialization_toDocument
  serialization_decode := Document.serialization_decode

end Event

end RecordStore
