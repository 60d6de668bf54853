import RecordStore.Reading
import RecordStore.Value.Basic
/-!
# Values as trees

Arrays are sequences and documents are mappings. The types that a reader has no kind of node
for (decimals, points of time, identifiers and others) show as a mapping with one member
whose name starts with a dollar sign. Octets are seen as such only if their subtype is 0. A
structure may be read from an array with items to spare.

## Main definitions

* `Value.root` and the `Tree` of a `Value`.
* `Document.read`: a structure from a document.
-/

namespace RecordStore

namespace Value

/-- The mapping as which a value of a special type is seen. -/
def tagged (tag : String) : Node Value :=
  .mapping [(tag, null)]

/-- The root of a value. -/
def root : Value → Node Value
  | null => .null
  | undefined => tagged "$undefined"
  | minKey => tagged "$minKey"
  | maxKey => tagged "$maxKey"
  | boolean b => .boolean b
  | int32 i => .integer i.toInt
  | int64 i => .integer i.toInt
  | double d => .float d
  | decimal _ => tagged "$numberDecimalBytes"
  | string s => .text s
  | symbol _ => tagged "$symbol"
  | code _ => tagged "$code"
  | codeWithScope _ _ => tagged "$code"
  | regex _ _ => tagged "$regularExpression"
  | binary subtype octets => if subtype = 0 then .octets octets else tagged "$binary"
  | objectId _ => tagged "$oid"
  | pointer _ _ => tagged "$dbPointer"
  | dateTime _ => tagged "$date"
  | timestamp _ _ => tagged "$timestamp"
  | array items => .sequence items
  | document fields => .mapping fields

instance : Tree Value where
  node := root
  nullName := "unit value"
  floatText := Double.pointText
  refusesSurplus := false

end Value

/-- A structure from a document. -/
def Document.read {α : Type} (name : String) (fields : Fields Value α) (d : Document) :
    Except ReadError α :=
  Reader.struct name fields (Value.document d)

end RecordStore
