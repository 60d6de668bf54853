import RecordStore.Reading
/-!
# Payloads

A `Payload` is a tree of data as it arrives in a request or a file of settings. Whole numbers
are kept apart from other numbers, because only they can be read as counts. The names in an
object are distinct.

## Main definitions

* `Payload` and its `Tree`.
-/

namespace RecordStore

/-- A tree of data from outside. -/
inductive Payload
  /-- Nothing. -/
  | null
  /-- A truth value. -/
  | boolean (b : Bool)
  /-- A whole number. -/
  | integer (i : Int)
  /-- Another number. -/
  | float (d : Double)
  /-- A text. -/
  | string (s : String)
  /-- Trees in a row. -/
  | array (items : List Payload)
  /-- Trees with names. -/
  | object (members : List (String × Payload))

namespace Payload

/-- The root of a payload. -/
def root : Payload → Node Payload
  | null => .null
  | boolean b => .boolean b
  | integer i => .integer i
  | float d => .float d
  | string s => .text s
  | array items => .sequence items
  | object members => .mapping members

/-- Numbers in faults have an exponent from `1e16` on and below `1e-5`; a tie goes to the even
digit. -/
def layout : Double.Layout := ⟨-5, 15, true, .even⟩

instance : Tree Payload where
  node := root
  nullName := "null"
  floatText := Double.mixedText layout
  refusesSurplus := true

/-- The value of the first member with the given name. -/
def get? (p : Payload) (name : String) : Option Payload :=
  match p with
  | object members => members.lookup name
  | _ => none

end Payload

end RecordStore
