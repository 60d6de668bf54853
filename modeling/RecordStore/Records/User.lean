import RecordStore.Record
/-!
# Users

## Main definitions

* `User`: a record told apart by a text.
-/

namespace RecordStore

/-- A user. -/
structure User where
  /-- The identity. -/
  id : String
  /-- The number under which the user is known elsewhere. -/
  userId : String
  /-- The name. -/
  name : String
deriving DecidableEq, Repr

namespace User

/-- The fields in the order of the document. -/
def fields : Fields Value User :=
  User.mk <$> Fields.required "id" Reader.text
    <*> Fields.required "user_id" Reader.text
    <*> Fields.required "name" Reader.text

/-- The document of a user. -/
def toDocument (u : User) : Document :=
  [("id", .string u.id), ("user_id", .string u.userId), ("name", .string u.name)]

instance : Record User String where
  collection := "user"
  id := id
  encodeId id := .ok (.string id)
  encode u := .ok u.toDocument
  decode := Document.decode "User" fields
  serialization_encodeId := @Record.serialization_of_ok _ _ Value.string
  serialization_encode := @Record.serialization_of_ok _ _ toDocument
  serialization_decode := Document.serialization_decode

end User

end RecordStore
