import RecordStore.Extended.Basic
import RecordStore.Value.Tree
/-!
# Extended forms

An extended form is a document that spells a value of a special type: its name starts with a
dollar sign and says the type, and its content gives the value, mostly as text. There are two
ways to take one. When a record is written, a form counts only if its content has exactly the
right types; otherwise it stays the document that it is. When a record is read, the name
alone decides, and content that does not spell a value is a fault.

Faults found after the content has been taken apart are reported twice over, because the
spelled value is read on its own.

## Main definitions

* `Form`: the two ways to take the content behind one name.
* `forms`, `form?`: the forms by their names. Program text is not among them, since it may
  take up two names.
-/

namespace RecordStore

namespace Extended

/-- How the content behind a name spells a value. -/
structure Form where
  /-- The value that is written in place of the form, if the content has the right types. -/
  spelled? : Value → Option Value
  /-- The value that the form is read as. -/
  read : Reader Value Value

/-! ### Faults -/

/-- A fault of a value that is read on its own. -/
def nested (fault : Fault) : ReadError :=
  .custom fault.report

/-- A text that does not spell what is expected. -/
def misspelled (expected s : String) : ReadError :=
  .invalidValue (Reader.textName s) expected

/-- A fault of the content of a value that is read on its own. -/
def nestedContent (fault : ReadError) : ReadError :=
  nested (.content fault)

/-- What a text spells, or a fault. -/
def spelling {α : Type} (parse : String → Option α) (expected s : String) : Except ReadError α :=
  match parse s with
  | some a => .ok a
  | none => .error (misspelled expected s)

/-- The fault of octets whose number is wrong. -/
def wrongSize : ReadError :=
  .custom "could not convert slice to array"

/-! ### Numbers and symbols -/

/-- A form whose content is a text. -/
def ofText (parse : String → Option Value) (expected : String) : Form where
  spelled?
    | .string s => parse s
    | _ => none
  read v := do
    let s ← Reader.text v
    spelling parse expected s

/-- A decimal by its octets. -/
def decimalOctets : Form where
  spelled?
    | .binary subtype octets =>
      if subtype = 0 then (Decimal128.ofOctets? octets).map .decimal else none
    | _ => none
  read v := do
    let octets ← Reader.octets v
    match Decimal128.ofOctets? octets with
    | some d => pure (.decimal d)
    | none => throw wrongSize

/-! ### Identifiers and octets -/

/-- An identifier by its digits; when it is read also by its octets. -/
def identifier : Form where
  spelled?
    | .string s => (objectId s).toOption.map .objectId
    | _ => none
  read v :=
    match Tree.node v with
    | .text s =>
      match objectId s with
      | .ok id => .ok (.objectId id)
      | .error _ => .error (misspelled "24-character, big-endian hex string" s)
    | .octets octets =>
      if octets.length = 12 then .ok (.objectId (BitVec.ofNat 96 (Octets.bigEndian octets)))
      else .error wrongSize
    | _ => Reader.refuse "hexstring or byte array" v

/-- The subtype that two hexadecimal digits write. -/
def subtype (s : String) : Except ReadError UInt8 := do
  match ← spelling (fun s => Octets.ofHex? s.toList) "hexadecimal number as a string" s with
  | [b] => pure b
  | _ => throw (.invalidValue "byte array" "one byte subtype")

/-- Octets by a Base64 text and a subtype in hexadecimal. -/
def binary (base64 subtypeDigits : String) : Except ReadError Value := do
  let octets ← spelling Octets.ofBase64? "base64 encoded bytes" base64
  let subtype ← subtype subtypeDigits
  pure (.binary subtype octets)

/-- Octets with a subtype; when they are written also as plain octets with a number. -/
def octets : Form where
  spelled?
    | .document body =>
      let content := Document.get? body
      match content "base64", content "bytes", content "subType" with
      | some (.string base64), _, some (.string digits) => (binary base64 digits).toOption
      | some (.string _), _, _ => none
      | _, some (.binary plain octets), some (.int32 subtype) =>
        if plain = 0 ∧ 0 ≤ subtype ∧ subtype ≤ 255 then
          some (.binary (UInt8.ofNat subtype.toInt.toNat) octets)
        else none
      | _, _, _ => none
    | _ => none
  read v := do
    let (base64, digits) ← Reader.closedStruct "BinaryBody"
      (Prod.mk <$> Fields.required "base64" Reader.text
        <*> Fields.required "subType" Reader.text) v
    (binary base64 digits).mapError nestedContent

/-- A universally unique identifier, which is never put in place of its form when written. -/
def universal : Form where
  spelled? _ := none
  read v := do
    let s ← Reader.text v
    let octets ← (spelling uuid?
      "$uuid value does not follow RFC 4122 format regarding length and hyphens" s).mapError
        nestedContent
    pure (.binary 4 octets)

/-- An identifier in a pointer, or the text of one. -/
def pointed : Reader Value (BitVec 96 ⊕ String)
  | .objectId id => .ok (.inl id)
  | v => .inr <$> Reader.closedStruct "ObjectId" (Fields.required "$oid" Reader.text) v

/-- A pointer into a collection. The text of its identifier is looked at when all else has been
read. -/
def pointer : Form where
  spelled?
    | .document body =>
      match Document.get? body "$ref", Document.get? body "$id" with
      | some (.string target), some (.objectId id) => some (.pointer target id)
      | _, _ => none
    | _ => none
  read v := do
    let (target, id) ← Reader.closedStruct "DbPointerBody"
      (Prod.mk <$> Fields.required "$ref" Reader.text <*> Fields.required "$id" pointed) v
    let id ← match id with
      | .inl id => pure id
      | .inr s => (objectId s).mapError nested
    pure (.pointer target id)

/-! ### Times -/

/-- A logical time. Small numbers are taken modulo `2 ^ 32` when the form is written. -/
def logicalTime : Form where
  spelled?
    | .document body =>
      match Document.get? body "t", Document.get? body "i" with
      | some (.int32 t), some (.int32 i) => some (.timestamp t.toUInt32 i.toUInt32)
      | some (.int64 t), some (.int64 i) =>
        if 0 ≤ t ∧ 0 ≤ i ∧ t.toInt < 2 ^ 32 ∧ i.toInt < 2 ^ 32 then
          some (.timestamp t.toUInt64.toUInt32 i.toUInt64.toUInt32)
        else none
      | _, _ => none
    | _ => none
  read := Reader.closedStruct "TimestampBody"
    (Value.timestamp <$> Fields.required "t" Reader.uint32 <*> Fields.required "i" Reader.uint32)

/-- The milliseconds of a point of time as the text of a number, which is a form by itself. -/
def millisText? : Value → Option String
  | .document [(name, content)] =>
    if name = "$numberLong" then (Reader.text content).toOption else none
  | .array [content] => (Reader.text content).toOption
  | _ => none

/-- A point of time: the text of a number, an RFC 3339 text, or a number, in this order. -/
def pointOfTime (v : Value) : Except ReadError Value :=
  match millisText? v, (Reader.text v).toOption, Tree.node v with
  | some s, _, _ =>
    ((spelling int64? "expected i64 as a string" s).map .dateTime).mapError nestedContent
  | none, some s, _ =>
    (spelling dateTime? "rfc3339 formatted utc datetime" s).mapError nestedContent
  | none, none, .integer i => .ok (.dateTime (Int64.ofInt i))
  | none, none, _ =>
    .error (.custom "data did not match any variant of untagged enum DateTimeBody")

/-- A point of time. -/
def time : Form where
  spelled?
    | .int64 millis => some (.dateTime millis)
    | .string s => dateTime? s
    | _ => none
  read := pointOfTime

/-! ### Other types -/

/-- A regular expression. -/
def expression : Form where
  spelled?
    | .document body =>
      match Document.get? body "pattern", Document.get? body "options" with
      | some (.string pattern), some (.string options) => (regex pattern options).toOption
      | _, _ => none
    | _ => none
  read v := do
    let (pattern, options) ← Reader.closedStruct "RegexBody"
      (Prod.mk <$> Fields.required "pattern" Reader.text
        <*> Fields.required "options" Reader.text) v
    (regex pattern options).mapError nested

/-- A form that spells one value only and whose content is the number one. -/
def one (name : String) (spelled : Value) : Form where
  spelled?
    | .int32 i => if i = 1 then some spelled else none
    | .int64 i => if i = 1 then some spelled else none
    | _ => none
  read v := do
    let i ← Reader.uint8 v
    if i = 1 then pure spelled
    else throw (nestedContent (.invalidValue (Reader.integerName i.toNat)
      ("value of " ++ name ++ " should always be 1")))

/-- A value that was never defined. -/
def never : Form where
  spelled?
    | .boolean true => some .undefined
    | _ => none
  read v := do
    if ← Reader.boolean v then pure .undefined
    else throw (nestedContent (.invalidValue (Reader.booleanName false)
      "$undefined should always be true"))

/-- The forms by their names. -/
def forms : List (String × Form) :=
  [("$oid", identifier),
    ("$symbol", ofText (fun s => some (.symbol s)) "a string"),
    ("$numberInt", ofText int32? "32-bit signed integer as a string"),
    ("$numberLong",
      ofText (fun s => (int64? s).map .int64) "64-bit signed integer as a string"),
    ("$numberDouble",
      ofText (fun s => (Double.ofText? s).map .double) "64-bit signed integer as a string"),
    ("$numberDecimal",
      ofText (fun s => (Decimal128.ofText? s).map .decimal) "decimal128 as a string"),
    ("$numberDecimalBytes", decimalOctets),
    ("$binary", octets),
    ("$uuid", universal),
    ("$timestamp", logicalTime),
    ("$regularExpression", expression),
    ("$dbPointer", pointer),
    ("$date", time),
    ("$minKey", one "$minKey" .minKey),
    ("$maxKey", one "$maxKey" .maxKey),
    ("$undefined", never)]

/-- The form of a name. -/
def form? (name : String) : Option Form :=
  forms.lookup name

end Extended

end RecordStore
