import RecordStore.Double.Rounding
import RecordStore.Double.Shortest
import RecordStore.Text.Characters
import RecordStore.Text.Octets
/-!
# Reading typed data from trees

Stored documents and payloads are trees of the same seven kinds of node. A `Reader` turns a
tree into a typed value or says why it cannot; what a reader looks at is the `Node` at the
root of the tree, so that one reader serves every kind of tree.

A structure is described by its `Fields`, an applicative that knows the names in their
declared order. It is read from a mapping by name or from a sequence by position; members with
other names are ignored, or refused where the structure is closed. Faults are reported in the
order in which the input is read: the members that are present come first, in the order of the
input, and after them the fields that are missing, in the order of their declaration.

## Main definitions

* `Node`, `Tree`: one level of a tree and the trees that can be read.
* `ReadError`: the faults and their wording.
* `Reader.struct`, `Reader.closedStruct`: a structure from its fields.
-/

namespace RecordStore

/-- What stands at the root of a tree. -/
inductive Node (τ : Type)
  /-- Nothing. -/
  | null
  /-- A truth value. -/
  | boolean (b : Bool)
  /-- A whole number. -/
  | integer (i : Int)
  /-- A binary64 number. -/
  | float (d : Double)
  /-- A text. -/
  | text (s : String)
  /-- Octets. -/
  | octets (content : List UInt8)
  /-- Trees in a row. -/
  | sequence (items : List τ)
  /-- Trees with names. -/
  | mapping (members : List (String × τ))

/-- Trees that can be read. -/
class Tree (τ : Type) where
  /-- The root. -/
  node : τ → Node τ
  /-- What an empty root is called in a fault. -/
  nullName : String
  /-- How a binary64 number is written in a fault. -/
  floatText : Double → String
  /-- Whether a structure may not be read from a sequence with elements to spare. -/
  refusesSurplus : Bool

/-- Why a tree does not hold what is wanted. -/
inductive ReadError
  /-- A field without a fallback is not there. -/
  | missingField (name : String)
  /-- The root has another kind. -/
  | invalidType (found expected : String)
  /-- The kind is right and the content is not. -/
  | invalidValue (found expected : String)
  /-- A sequence has this number of elements and should have another. -/
  | invalidLength (length : Nat) (expected : String)
  /-- A name is none of the known ones. -/
  | unknownVariant (name : String) (known : List String)
  /-- A structure without room for other members has a member with this name. -/
  | unknownField (name : String) (known : List String)
  /-- A fault with wording of its own. -/
  | custom (text : String)
deriving DecidableEq, Repr

namespace ReadError

/-- A name between backquotes. -/
def tick (name : String) : String :=
  "\x60" ++ name ++ "\x60"

/-- The known names as a choice. -/
def choices : List String → String
  | [a] => tick a
  | [a, b] => tick a ++ " or " ++ tick b
  | names => "one of " ++ ", ".intercalate (names.map tick)

/-- The wording of a fault. -/
def message : ReadError → String
  | missingField name => "missing field " ++ tick name
  | invalidType found expected => "invalid type: " ++ found ++ ", expected " ++ expected
  | invalidValue found expected => "invalid value: " ++ found ++ ", expected " ++ expected
  | invalidLength length expected =>
    "invalid length " ++ toString length ++ ", expected " ++ expected
  | unknownVariant name known =>
    "unknown variant " ++ tick name ++ ", expected " ++ choices known
  | unknownField name known => "unknown field " ++ tick name ++ ", expected " ++ choices known
  | custom text => text

/-- A fault as it is reported to whoever asked for a stored document. -/
def report (fault : ReadError) : String :=
  "BSON error. Kind: A deserialization-related error occurred. Message: " ++ fault.message ++ "."

end ReadError

/-- A way to read a tree. -/
abbrev Reader (τ α : Type) := τ → Except ReadError α

namespace Reader

variable {τ : Type} [Tree τ] {α : Type}

/-- What a whole number is called in a fault. -/
def integerName (i : Int) : String :=
  "integer " ++ ReadError.tick (toString i)

/-- What a text is called in a fault. -/
def textName (s : String) : String :=
  "string " ++ quoted s

/-- What a truth value is called in a fault. -/
def booleanName (b : Bool) : String :=
  "boolean " ++ ReadError.tick (toString b)

/-- What the root of a tree is called in a fault. -/
def found (t : τ) : String :=
  match Tree.node t with
  | .null => Tree.nullName τ
  | .boolean b => booleanName b
  | .integer i => integerName i
  | .float d => "floating point " ++ ReadError.tick (Tree.floatText τ d)
  | .text s => textName s
  | .octets _ => "byte array"
  | .sequence _ => "sequence"
  | .mapping _ => "map"

/-- Refuses a tree for the kind of its root. -/
def refuse (expected : String) : Reader τ α := fun t =>
  .error (.invalidType (found t) expected)

/-- A truth value. -/
def boolean : Reader τ Bool := fun t =>
  match Tree.node t with
  | .boolean b => .ok b
  | _ => refuse "a boolean" t

/-- A text, or octets that are the UTF-8 form of one. -/
def text : Reader τ String := fun t =>
  match Tree.node t with
  | .text s => .ok s
  | .octets content =>
    match Octets.utf8? content with
    | some s => .ok s
    | none => .error (.invalidValue (found t) "a string")
  | _ => refuse "a string" t

/-- A whole number from `low` to `high`. -/
def integer (expected : String) (low high : Int) : Reader τ Int := fun t =>
  match Tree.node t with
  | .integer i =>
    if low ≤ i ∧ i ≤ high then .ok i
    else .error (.invalidValue (integerName i) expected)
  | _ => refuse expected t

/-- A natural number of 8 bits. -/
def uint8 : Reader τ UInt8 := fun t =>
  (integer "u8" 0 (2 ^ 8 - 1) t).map fun i => UInt8.ofNat i.toNat

/-- A whole number of 32 bits. -/
def int32 : Reader τ Int32 := fun t =>
  (integer "i32" (-2 ^ 31) (2 ^ 31 - 1) t).map Int32.ofInt

/-- A whole number of 64 bits. -/
def int64 : Reader τ Int64 := fun t =>
  (integer "i64" (-2 ^ 63) (2 ^ 63 - 1) t).map Int64.ofInt

/-- A natural number of 32 bits. -/
def uint32 : Reader τ UInt32 := fun t =>
  (integer "u32" 0 (2 ^ 32 - 1) t).map fun i => UInt32.ofNat i.toNat

/-- A natural number of 64 bits. -/
def uint64 : Reader τ UInt64 := fun t =>
  (integer "u64" 0 (2 ^ 64 - 1) t).map fun i => UInt64.ofNat i.toNat

/-- A binary64 number; a whole number is taken to the nearest one. -/
def double : Reader τ Double := fun t =>
  match Tree.node t with
  | .float d => .ok d
  | .integer i => .ok (Double.ofInt i)
  | _ => refuse "f64" t

/-- A list of trees that are all read alike. -/
def list (item : Reader τ α) : Reader τ (List α) := fun t =>
  match Tree.node t with
  | .sequence items => items.mapM item
  | _ => refuse "a sequence" t

/-- Octets, also as the UTF-8 form of a text or as a list of numbers. -/
def octets : Reader τ (List UInt8) := fun t =>
  match Tree.node t with
  | .octets content => .ok content
  | .text s => .ok (Octets.utf8 s)
  | .sequence items => items.mapM uint8
  | _ => refuse "byte array" t

/-- Nothing, or what the given reader reads. -/
def nullable (reader : Reader τ α) : Reader τ (Option α) := fun t =>
  match Tree.node t with
  | .null => .ok none
  | _ => (reader t).map some

/-- The value that a name stands for. -/
def variant (known : List (String × α)) (name : String) : Except ReadError α :=
  match known.lookup name with
  | some a => .ok a
  | none => .error (.unknownVariant name (known.map Prod.fst))

/-- One of several named values: the name as a text, or a mapping of the name to nothing. -/
def choice (known : List (String × α)) : Reader τ α := fun t =>
  match Tree.node t with
  | .text s => variant known s
  | .mapping [(name, content)] => do
    let a ← variant known name
    match Tree.node content with
    | .null => .ok a
    | _ => refuse "unit" content
  | .mapping _ => .error (.invalidValue (found t) "map with a single key")
  | _ => refuse "string or map" t

end Reader

/-! ### Structures -/

/-- The fields of a structure: their names, what is wrong with a member that is present, and
the structure itself from a lookup of members. -/
structure Fields (τ α : Type) where
  /-- The names in the order of declaration. -/
  names : List String
  /-- Reads a member only to find its fault. -/
  check : String → τ → Except ReadError Unit
  /-- Reads every field; the second argument is the fault of a missing one. -/
  read : (String → Option τ) → (String → ReadError) → Except ReadError α

namespace Fields

variable {τ α : Type}

/-- A field with what to do if it is absent. -/
def field (name : String) (reader : Reader τ α)
    (absent : (String → ReadError) → Except ReadError α) : Fields τ α where
  names := [name]
  check found tree := if found = name then (reader tree).map fun _ => () else .ok ()
  read member missing :=
    match member name with
    | some tree => reader tree
    | none => absent missing

/-- A field that has to be there. -/
def required (name : String) (reader : Reader τ α) : Fields τ α :=
  field name reader fun missing => .error (missing name)

/-- A field that has a fallback. -/
def optional (name : String) (fallback : α) (reader : Reader τ α) : Fields τ α :=
  field name reader fun _ => .ok fallback

instance : Applicative (Fields τ) where
  pure a :=
    { names := []
      check := fun _ _ => .ok ()
      read := fun _ _ => .ok a }
  seq f x :=
    { names := f.names ++ (x ()).names
      check := fun name tree => do
        f.check name tree
        (x ()).check name tree
      read := fun member missing => do
        let g ← f.read member missing
        let a ← (x ()).read member missing
        pure (g a) }

end Fields

namespace Reader

variable {τ : Type} [Tree τ] {α : Type}

/-- How many elements a structure has, in words. -/
def elements (n : Nat) : String :=
  toString n ++ if n = 1 then " element" else " elements"

/-- A structure: from a mapping by the names of the members, from a sequence by position. What
a member with another name means is decided by `stray`. -/
def structWith (stray : String → Except ReadError Unit) (name : String) (fields : Fields τ α) :
    Reader τ α := fun t =>
  match Tree.node t with
  | .mapping members => do
    members.forM fun (name, member) =>
      if name ∈ fields.names then fields.check name member else stray name
    fields.read (fun name => members.lookup name) .missingField
  | .sequence items => do
    let found := fields.names.zip items
    let a ← fields.read (fun name => found.lookup name) fun _ =>
      .invalidLength items.length
        ("struct " ++ name ++ " with " ++ elements fields.names.length)
    if Tree.refusesSurplus τ && decide (fields.names.length < items.length) then
      .error (.invalidLength items.length "fewer elements in array")
    else .ok a
  | _ => refuse ("struct " ++ name) t

/-- A structure whose mapping may have other members, which are ignored. -/
def struct (name : String) (fields : Fields τ α) : Reader τ α :=
  structWith (fun _ => .ok ()) name fields

/-- A structure whose mapping may have no other members. -/
def closedStruct (name : String) (fields : Fields τ α) : Reader τ α :=
  structWith (fun other => .error (.unknownField other fields.names)) name fields

end Reader

end RecordStore
