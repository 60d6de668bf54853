import RecordStore.Error
import RecordStore.Value.Reading
/-!
# Records

A `Record` is a type whose values are kept as documents of one collection and told apart by
an identity. The identity is assigned by whoever makes the record. Writing a record or an
identity can fail, and so can reading a record from a document; each of these failures is one of
serialization.

## Main definitions

* `Record`: where records are kept and how they are written and read.
* `Document.decode`: a structure from a document, with the error that a store reports.
-/

namespace RecordStore

/-- A type of records, with the type of their identities. -/
class Record (ρ : Type) (ι : outParam Type) where
  /-- The name of the collection. -/
  collection : String
  /-- The field that holds the identity. -/
  idField : String := "id"
  /-- The identity of a record. -/
  id : ρ → ι
  /-- The value that stands for an identity in a filter. -/
  encodeId : ι → Except StorageError Value
  /-- The document of a record. -/
  encode : ρ → Except StorageError Document
  /-- The record in a document. -/
  decode : Document → Except StorageError ρ
  /-- An identity that cannot be written is a failure of serialization. -/
  serialization_encodeId : ∀ {id e}, encodeId id = .error e → e.isSerialization = true
  /-- A record that cannot be written is one. -/
  serialization_encode : ∀ {r e}, encode r = .error e → e.isSerialization = true
  /-- A document that cannot be read is one. -/
  serialization_decode : ∀ {d e}, decode d = .error e → e.isSerialization = true

/-- What is always written never fails. -/
theorem Record.serialization_of_ok {α β : Type} (write : α → β) {a : α} {e : StorageError}
    (h : Except.ok (write a) = Except.error e) : e.isSerialization = true := by
  cases h

/-- A structure from a document; a fault is a failure of serialization. -/
def Document.decode {α : Type} (name : String) (fields : Fields Value α) (d : Document) :
    Except StorageError α :=
  (d.read name fields).mapError fun fault => .serialization (.unreadable fault)

theorem Document.serialization_decode {α : Type} {name : String} {fields : Fields Value α}
    {d : Document} {e : StorageError} (h : d.decode name fields = .error e) :
    e.isSerialization = true := by
  unfold Document.decode at h
  cases hread : d.read name fields with
  | error fault =>
    rw [hread] at h
    cases h
    rfl
  | ok a =>
    rw [hread] at h
    cases h

end RecordStore
