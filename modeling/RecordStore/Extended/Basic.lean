import RecordStore.Decimal128.Text
import RecordStore.Double.Reading
import RecordStore.Instant.Strict
import RecordStore.Order
import RecordStore.Reading
import RecordStore.Value.Basic
/-!
# Values in words

The texts by which extended forms give values: integers in decimal, identifiers in
hexadecimal, octets in Base64 with a subtype in hexadecimal, universally unique identifiers
with or without hyphens. The option letters of a regular expression have no order of their own
and are kept sorted.

## Main definitions

* `Extended.Fault`: why a text gives no value.
* `Extended.int32?`, `Extended.int64?`, `Extended.objectId`, `Extended.uuid?`,
  `Extended.dateTime?`, `Extended.regex`: values from their texts.
* `Extended.sortedLetters`: option letters in order.
-/

namespace RecordStore

namespace Extended

/-- Why the parts of a form, each of the right type, give no value. -/
inductive Fault
  /-- One of them is not what it should be. -/
  | content (fault : ReadError)
  /-- An identifier has the wrong length: an odd number of digits, or a number of octets. -/
  | identifierLength (length : Nat)
  /-- An identifier has a character at an index that is no hexadecimal digit. -/
  | identifierCharacter (c : Char) (index : Nat)
  /-- A part of a regular expression holds the character that ends it in storage. -/
  | interiorNull (s : String)
deriving DecidableEq, Repr

/-- A fault as it is reported. -/
def Fault.report : Fault → String
  | content fault => fault.report
  | identifierLength length =>
    "BSON error. Kind: An ObjectId-related error occurred: invalid hex string length " ++
      toString length ++ "."
  | identifierCharacter c index =>
    "BSON error. Kind: An ObjectId-related error occurred: invalid character '" ++ c.toString ++
      "' encountered at index " ++ toString index ++ "."
  | interiorNull s =>
    "BSON error. Kind: Malformed BSON bytes. Message: cstring with interior null: " ++ quoted s ++
      "."

/-- The integer between two bounds that a text writes, with an optional sign. -/
def integer? (low high : Int) (s : String) : Option Int :=
  (Numeral.signed? s.toList).filter fun i => low ≤ i && i ≤ high

/-- The 32-bit integer that a text writes. -/
def int32? (s : String) : Option Value :=
  (integer? (-2 ^ 31) (2 ^ 31 - 1) s).map fun i => .int32 (Int32.ofInt i)

/-- The 64-bit integer that a text writes. -/
def int64? (s : String) : Option Int64 :=
  (integer? (-2 ^ 63) (2 ^ 63 - 1) s).map Int64.ofInt

/-- The identifier that twenty-four hexadecimal digits write. The text is gone through by its
octets, each of which is named in a fault as the character with that number. -/
def objectId (s : String) : Except Fault (BitVec 96) :=
  let cs := (Octets.utf8 s).map fun b => Char.ofNat b.toNat
  if cs.length % 2 = 1 then .error (.identifierLength cs.length)
  else
    match cs.mapM Numeral.hexDigit? with
    | some digits =>
      if digits.length = 24 then .ok (BitVec.ofNat 96 (Numeral.ofDigits 16 digits))
      else .error (.identifierLength (digits.length / 2))
    | none =>
      let digits := cs.takeWhile fun c => (Numeral.hexDigit? c).isSome
      .error (.identifierCharacter (cs.getD digits.length '\x00') digits.length)

/-- The option letters in ascending order. -/
def sortedLetters (options : String) : String :=
  String.ofList (stableSort (fun a b => decide (a < b)) options.toList)

/-- The regular expression of a pattern and option letters. -/
def regex (pattern options : String) : Except Fault Value :=
  let options := sortedLetters options
  match [pattern, options].find? fun s => s.toList.contains '\x00' with
  | some s => .error (.interiorNull s)
  | none => .ok (.regex pattern options)

/-- The point of time of a strict RFC 3339 text. -/
def dateTime? (s : String) : Option Value :=
  (Instant.ofStrictText? s).map fun t => .dateTime (Int64.ofInt t.millis)

/-- The characters between an opening and a closing part that have to be there. -/
def between? (opening closing cs : List Char) : Option (List Char) :=
  if opening.isPrefixOf cs && closing.isSuffixOf (cs.drop opening.length) then
    some ((cs.drop opening.length).take (cs.length - opening.length - closing.length))
  else none

/-- The hexadecimal digits of a universally unique identifier in groups of 8, 4, 4, 4 and 12. -/
def grouped? (cs : List Char) : Option (List Char) :=
  let hyphens := [8, 13, 18, 23]
  if cs.length = 36 && hyphens.all fun i => cs[i]? == some '-' then
    some (cs.take 8 ++ (cs.drop 9).take 4 ++ (cs.drop 14).take 4 ++ (cs.drop 19).take 4 ++
      cs.drop 24)
  else none

/-- The octets of a universally unique identifier: thirty-two digits in a row, or in groups,
which may stand between braces or behind a name. -/
def uuid? (s : String) : Option (List UInt8) := do
  let cs := s.toList
  let digits ←
    if cs.length = 32 then some cs
    else
      match between? ['\x7b'] ['\x7d'] cs, between? "urn:uuid:".toList [] cs with
      | some inner, _ => grouped? inner
      | none, some inner => grouped? inner
      | none, none => grouped? cs
  Octets.ofHex? digits

end Extended

end RecordStore
