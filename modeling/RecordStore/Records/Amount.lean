import RecordStore.Record
/-!
# Amounts

Documents with the one field `value`, which holds an exact decimal.

## Main definitions

* `Amount`, `OptionalAmount`: a decimal that has to be there, and one that may be absent.
-/

namespace RecordStore

/-- An exact decimal. -/
structure Amount where
  /-- The decimal. -/
  value : Decimal
deriving DecidableEq, Repr

namespace Amount

/-- The document of an amount. -/
def toDocument (a : Amount) : Document :=
  [("value", .ofExact a.value)]

/-- The amount in a document. -/
def decode : Document → Except StorageError Amount :=
  Document.decode "Amount" (Amount.mk <$> Fields.required "value" Value.exact)

end Amount

/-- An exact decimal or none. -/
structure OptionalAmount where
  /-- The decimal. -/
  value : Option Decimal
deriving DecidableEq, Repr

namespace OptionalAmount

/-- The document of an amount; none is written as null. -/
def toDocument (a : OptionalAmount) : Document :=
  [("value", .ofExact? a.value)]

/-- The amount in a document; null and a missing field are none. -/
def decode : Document → Except StorageError OptionalAmount :=
  Document.decode "OptionalAmount"
    (OptionalAmount.mk <$> Fields.optional "value" none Value.exactOrNull)

end OptionalAmount

end RecordStore
