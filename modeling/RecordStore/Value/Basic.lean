import RecordStore.Double.Basic
import RecordStore.Decimal128.Basic
/-!
# Values and documents

A `Value` is one of the typed values that a document can hold, and a `Document` is a list
of named values in a fixed order. Documents are built by `Document.ofPairs` and changed by
`Document.insert`, which keep every name once: a name that is inserted again keeps its
first place and takes the new value. A lookup finds the first entry of a name.

Equality of values is `Value.same`. It asks for the same type and content, with three
rules of its own: documents are equal when they have the same names with equal values in
any order, doubles compare as numbers (a NaN equals nothing, the zeros are equal), and
decimals compare as data, so `1.0` and `1.00` differ.

## Main definitions

* `Value`, `Document`, `Document.get?`, `Document.insert`, `Document.ofPairs`.
* `Value.same`: equality of values.
-/

namespace RecordStore

/-- A typed value. -/
inductive Value
  /-- The absent value. -/
  | null
  /-- A value that was never defined. -/
  | undefined
  /-- The least of all values. -/
  | minKey
  /-- The greatest of all values. -/
  | maxKey
  /-- A truth value. -/
  | boolean (b : Bool)
  /-- A 32-bit integer. -/
  | int32 (i : Int32)
  /-- A 64-bit integer. -/
  | int64 (i : Int64)
  /-- A binary64 number. -/
  | double (d : Double)
  /-- A decimal floating-point number. -/
  | decimal (d : Decimal128)
  /-- A text. -/
  | string (s : String)
  /-- A text used as a symbol. -/
  | symbol (s : String)
  /-- Program text. -/
  | code (source : String)
  /-- Program text with the values of its free variables. -/
  | codeWithScope (source : String) (scope : List (String × Value))
  /-- A regular expression with its option letters. -/
  | regex (pattern options : String)
  /-- Octets with a number that tells what they are. -/
  | binary (subtype : UInt8) (octets : List UInt8)
  /-- An identifier of twelve octets. -/
  | objectId (id : BitVec 96)
  /-- A pointer to the document with an identifier in another collection. -/
  | pointer (target : String) (id : BitVec 96)
  /-- A point of time in milliseconds since 1970. -/
  | dateTime (millis : Int64)
  /-- A logical time: seconds and a counter. -/
  | timestamp (time increment : UInt32)
  /-- A list of values. -/
  | array (items : List Value)
  /-- A document within a document. -/
  | document (fields : List (String × Value))

/-- An ordered list of named values. -/
abbrev Document := List (String × Value)

namespace Document

/-- The value of the first entry with the given name. -/
def get? (d : Document) (name : String) : Option Value :=
  d.lookup name

/-- The names in order. -/
def names (d : Document) : List String :=
  d.map Prod.fst

/-- Gives a name a value: in its place if the name is there, at the end otherwise. -/
def insert (name : String) (value : Value) : Document → Document
  | [] => [(name, value)]
  | (other, old) :: rest =>
    if other = name then (name, value) :: rest else (other, old) :: insert name value rest

/-- The document that arises when the pairs are inserted one after the other. -/
def ofPairs (pairs : List (String × Value)) : Document :=
  pairs.foldl (fun d (name, value) => d.insert name value) []

end Document

/-! ### Equality -/

mutual

/-- Equality of values. -/
def Value.same : Value → Value → Bool
  | .null, .null => true
  | .undefined, .undefined => true
  | .minKey, .minKey => true
  | .maxKey, .maxKey => true
  | .boolean a, .boolean b => a == b
  | .int32 a, .int32 b => a == b
  | .int64 a, .int64 b => a == b
  | .double a, .double b => a.same b
  | .decimal a, .decimal b => a == b
  | .string a, .string b => a == b
  | .symbol a, .symbol b => a == b
  | .code a, .code b => a == b
  | .codeWithScope a s, .codeWithScope b t =>
    a == b && s.length == t.length && Value.sameFields s t
  | .regex p o, .regex q r => p == q && o == r
  | .binary s a, .binary t b => s == t && a == b
  | .objectId a, .objectId b => a == b
  | .pointer s a, .pointer t b => s == t && a == b
  | .dateTime a, .dateTime b => a == b
  | .timestamp t i, .timestamp u j => t == u && i == j
  | .array a, .array b => Value.sameItems a b
  | .document s, .document t => s.length == t.length && Value.sameFields s t
  | _, _ => false

/-- Equality of lists of values, place by place. -/
def Value.sameItems : List Value → List Value → Bool
  | [], [] => true
  | a :: as, b :: bs => a.same b && Value.sameItems as bs
  | _, _ => false

/-- Whether every entry of the first document has an equal one in the second. -/
def Value.sameFields : List (String × Value) → List (String × Value) → Bool
  | [], _ => true
  | (name, value) :: rest, fields =>
    (match fields.lookup name with
      | some other => value.same other
      | none => false) &&
      Value.sameFields rest fields

end

namespace Document

/-- Equality of documents: the same names with equal values, in any order. -/
def same (d e : Document) : Bool :=
  d.length == e.length && Value.sameFields d e

/-- Whether a name has a value and the value equals the given one. -/
def has (d : Document) (name : String) (value : Value) : Bool :=
  match d.get? name with
  | some found => found.same value
  | none => false

end Document

end RecordStore
