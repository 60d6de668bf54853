import RecordStore.Calendar
import RecordStore.Decimal128.Text
import RecordStore.Double.Shortest
import RecordStore.Text.Characters
import RecordStore.Text.Octets
import RecordStore.Value.Basic
/-!
# Text of a value

There are two texts of a value. `Value.text` is the plain one, which stands in messages and in
the names of indexes; strings are put in quotes but not escaped. `Value.debugText` names the
type of every value and escapes strings; it stands in the faults of a field that holds
the wrong type.

## Main definitions

* `Value.text`, `Value.debugText`.
* `dateTimeText`: a point of time in milliseconds as a date and a time.
-/

namespace RecordStore

/-! ### Points of time -/

/-- The fraction of a second given in milliseconds, with as few digits as are exact, at least
one. -/
def millisText (millis : Nat) : String :=
  if millis % 100 = 0 then Numeral.padded 1 (millis / 100)
  else if millis % 10 = 0 then Numeral.padded 2 (millis / 10)
  else Numeral.padded 3 millis

/-- Date and time in UTC of a number of milliseconds since 1970. Outside the years that have
six digits it is the number itself. -/
def dateTimeText (millis : Int) : String :=
  let date := Date.ofDays (millis / 86400000)
  let time := (millis % 86400000).toNat
  if date.year.natAbs ≤ 999999 then
    date.text ++ " " ++ toString (time / 3600000) ++ ":" ++
      Numeral.padded 2 (time / 60000 % 60) ++ ":" ++ Numeral.padded 2 (time / 1000 % 60) ++
      "." ++ millisText (time % 1000) ++ " +00:00:00"
  else toString millis

namespace Value

/-- The parts in a row between an opening and a closing text. -/
def enclosed (opening closing : String) (parts : List String) : String :=
  opening ++ ", ".intercalate parts ++ closing

/-! ### Plain text -/

/-- The plain text of the entries of a document between braces. -/
def fieldsText (parts : List String) : String :=
  if parts.isEmpty then "\x7b\x7d" else enclosed "\x7b " " \x7d" parts

mutual

/-- The plain text. -/
def text : Value → String
  | null => "null"
  | undefined => "undefined"
  | minKey => "MinKey"
  | maxKey => "MaxKey"
  | boolean b => toString b
  | int32 i => toString i.toInt
  | int64 i => toString i.toInt
  | double d => d.plainText
  | decimal d => d.text
  | string s => "\"" ++ s ++ "\""
  | symbol s => "Symbol(\"" ++ s ++ "\")"
  | code source => source
  | codeWithScope source _ => source
  | regex pattern options => "/" ++ pattern ++ "/" ++ options
  | binary subtype octets =>
    "Binary(0x" ++ Numeral.hex 1 subtype.toNat ++ ", " ++ Octets.base64 octets ++ ")"
  | objectId id => "ObjectId(\"" ++ Numeral.hex 24 id.toNat ++ "\")"
  | pointer target id => "DbPointer(" ++ target ++ ", " ++ Numeral.hex 24 id.toNat ++ ")"
  | dateTime millis => "DateTime(\"" ++ dateTimeText millis.toInt ++ "\")"
  | timestamp time increment =>
    "Timestamp(" ++ toString time.toNat ++ ", " ++ toString increment.toNat ++ ")"
  | array items => enclosed "[" "]" (itemTexts items)
  | document fields => fieldsText (fieldTexts fields)

/-- The plain texts of the items of an array. -/
def itemTexts : List Value → List String
  | [] => []
  | v :: rest => v.text :: itemTexts rest

/-- The plain texts of the entries of a document. -/
def fieldTexts : List (String × Value) → List String
  | [] => []
  | (name, v) :: rest => ("\"" ++ name ++ "\": " ++ v.text) :: fieldTexts rest

end

/-! ### Text with types -/

/-- The name of a kind of octets. -/
def subtypeName (subtype : UInt8) : String :=
  match subtype.toNat with
  | 0 => "Generic"
  | 1 => "Function"
  | 2 => "BinaryOld"
  | 3 => "UuidOld"
  | 4 => "Uuid"
  | 5 => "Md5"
  | 6 => "Encrypted"
  | 7 => "Column"
  | 8 => "Sensitive"
  | 9 => "Vector"
  | n => if n < 128 then "Reserved(" ++ toString n ++ ")" else "UserDefined(" ++ toString n ++ ")"

/-- Numbers in a text with types have an exponent from `1e16` on and below `1e-4`; a tie goes
up. -/
def debugLayout : Double.Layout := ⟨-4, 15, false, .up⟩

mutual

/-- The text with the type of every value. -/
def debugText : Value → String
  | null => "Null"
  | undefined => "Undefined"
  | minKey => "MinKey"
  | maxKey => "MaxKey"
  | boolean b => "Boolean(" ++ toString b ++ ")"
  | int32 i => "Int32(" ++ toString i.toInt ++ ")"
  | int64 i => "Int64(" ++ toString i.toInt ++ ")"
  | double d => "Double(" ++ d.mixedText debugLayout ++ ")"
  | decimal d => "Decimal128(" ++ Octets.hex d.octets ++ ")"
  | string s => "String(" ++ quoted s ++ ")"
  | symbol s => "Symbol(" ++ quoted s ++ ")"
  | code source => "JavaScriptCode(" ++ quoted source ++ ")"
  | codeWithScope source scope =>
    "JavaScriptCodeWithScope \x7b code: " ++ quoted source ++ ", scope: Document(" ++
      enclosed "\x7b" "\x7d" (fieldDebugTexts scope) ++ ") \x7d"
  | regex pattern options =>
    "Regex \x7b pattern: " ++ quoted pattern ++ ", options: " ++ quoted options ++ " \x7d"
  | binary subtype octets =>
    "Binary \x7b subtype: " ++ subtypeName subtype ++ ", bytes: " ++
      enclosed "[" "]" (octets.map fun b => toString b.toNat) ++ " \x7d"
  | objectId id => "ObjectId(\"" ++ Numeral.hex 24 id.toNat ++ "\")"
  | pointer target id =>
    "DbPointer \x7b namespace: " ++ quoted target ++ ", id: ObjectId(\"" ++
      Numeral.hex 24 id.toNat ++ "\") \x7d"
  | dateTime millis => "DateTime(" ++ dateTimeText millis.toInt ++ ")"
  | timestamp time increment =>
    "Timestamp \x7b time: " ++ toString time.toNat ++ ", increment: " ++
      toString increment.toNat ++ " \x7d"
  | array items => "Array(" ++ enclosed "[" "]" (itemDebugTexts items) ++ ")"
  | document fields => "Document(" ++ enclosed "\x7b" "\x7d" (fieldDebugTexts fields) ++ ")"

/-- The texts with types of the items of an array. -/
def itemDebugTexts : List Value → List String
  | [] => []
  | v :: rest => v.debugText :: itemDebugTexts rest

/-- The texts with types of the entries of a document. -/
def fieldDebugTexts : List (String × Value) → List String
  | [] => []
  | (name, v) :: rest => (quoted name ++ ": " ++ v.debugText) :: fieldDebugTexts rest

end

end Value

end RecordStore
