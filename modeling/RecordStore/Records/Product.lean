import RecordStore.Record
/-!
# Products

Prices are exact, so they are stored as decimals and not as doubles.

## Main definitions

* `Product`: a record with an exact price and an optional exact discount.
-/

namespace RecordStore

/-- Something that is for sale. -/
structure Product where
  /-- The identity. -/
  id : String
  /-- The name. -/
  name : String
  /-- The category. -/
  category : String
  /-- The price. -/
  price : Decimal
  /-- What is taken off the price. -/
  discount : Option Decimal
  /-- Whether it is there. -/
  inStock : Bool
deriving DecidableEq, Repr

namespace Product

/-- The fields in the order of the document; the discount may be missing. -/
def fields : Fields Value Product :=
  Product.mk <$> Fields.required "id" Reader.text
    <*> Fields.required "name" Reader.text
    <*> Fields.required "category" Reader.text
    <*> Fields.required "price" Value.exact
    <*> Fields.optional "discount" none Value.exactOrNull
    <*> Fields.required "in_stock" Reader.boolean

/-- The document of a product. -/
def toDocument (p : Product) : Document :=
  [("id", .string p.id), ("name", .string p.name), ("category", .string p.category),
    ("price", .ofExact p.price), ("discount", .ofExact? p.discount),
    ("in_stock", .boolean p.inStock)]

instance : Record Product String where
  collection := "product"
  id := id
  encodeId id := .ok (.string id)
  encode p := .ok p.toDocument
  decode := Document.decode "Product" fields
  serialization_encodeId := @Record.serialization_of_ok _ _ Value.string
  serialization_encode := @Record.serialization_of_ok _ _ toDocument
  serialization_decode := Document.serialization_decode

end Product

end RecordStore
