import RecordStore.Record
/-!
# Measurements

## Main definitions

* `Measurement`: a record told apart by a number, in a field of its own name.
-/

namespace RecordStore

/-- What a sensor has measured. -/
structure Measurement where
  /-- The number of the sensor, which is the identity. -/
  sensor : Int64
  /-- The measured value. -/
  value : Double
deriving DecidableEq

namespace Measurement

/-- The fields in the order of the document. -/
def fields : Fields Value Measurement :=
  Measurement.mk <$> Fields.required "sensor" Reader.int64
    <*> Fields.required "value" Reader.double

/-- The document of a measurement. -/
def toDocument (m : Measurement) : Document :=
  [("sensor", .int64 m.sensor), ("value", .double m.value)]

instance : Record Measurement Int64 where
  collection := "reading"
  idField := "sensor"
  id := sensor
  encodeId id := .ok (.int64 id)
  encode m := .ok m.toDocument
  decode := Document.decode "Reading" fields
  serialization_encodeId := @Record.serialization_of_ok _ _ Value.int64
  serialization_encode := @Record.serialization_of_ok _ _ toDocument
  serialization_decode := Document.serialization_decode

end Measurement

end RecordStore
