import RecordStore.Error
import RecordStore.Value.Basic
/-!
# Filters

A filter is a document: every name in it puts a condition on the field of that name, and a
document matches if all conditions hold. A condition is a value that the field must equal,
or a document of operators, which is told by a dollar sign in front of its first name.
A field that is missing equals nothing, not even null.

Conditions are tested in order and the first that does not hold ends the test. An unknown
operator is therefore an error only for a document that meets all conditions before it.

## Main definitions

* `Filter.test`: whether a document matches.
* `Filter.select`: the documents that match.
* `Filter.first?`: the first document that matches, with those around it.
-/

namespace RecordStore

namespace Filter

/-- Whether a field is present and equals a value. -/
def equals (field : Option Value) (value : Value) : Bool :=
  match field with
  | some found => found.same value
  | none => false

/-- Whether a document is read as operators: its first name starts with a dollar sign. -/
def isOperators : Document → Bool
  | [] => false
  | (name, _) :: _ => name.toList.head? == some '$'

/-- Whether one operator holds of a field. -/
def holds (field : Option Value) (operator : String) (operand : Value) :
    Except StorageError Bool :=
  match operator with
  | "$eq" => .ok (equals field operand)
  | "$ne" => .ok (!equals field operand)
  | "$in" =>
    match operand with
    | .array candidates => .ok (candidates.any (equals field))
    | _ => .error (.store .membershipNeedsArray)
  | _ => .error (.store (.unsupportedOperator operator))

/-- Whether all operators hold of a field. -/
def allHold (field : Option Value) : Document → Except StorageError Bool
  | [] => .ok true
  | (operator, operand) :: rest => do
    if ← holds field operator operand then allHold field rest else pure false

/-- Whether a field meets a condition. -/
def meets (field : Option Value) : Value → Except StorageError Bool
  | .document condition =>
    if isOperators condition then allHold field condition
    else .ok (equals field (.document condition))
  | value => .ok (equals field value)

/-- Whether a document matches the filter. -/
def test (d : Document) : Document → Except StorageError Bool
  | [] => .ok true
  | (name, condition) :: rest => do
    if ← meets (d.get? name) condition then test d rest else pure false

/-- The documents that match, in order. -/
def select (filter : Document) : List Document → Except StorageError (List Document)
  | [] => .ok []
  | d :: rest => do
    let found ← test d filter
    let selected ← select filter rest
    pure (if found then d :: selected else selected)

/-- A document in a list, with those before and those after it. -/
structure Place where
  /-- The documents before it, in order. -/
  before : List Document
  /-- The document. -/
  document : Document
  /-- The documents after it, in order. -/
  after : List Document

namespace Place

/-- The list with another document in the place. -/
def replace (p : Place) (d : Document) : List Document :=
  p.before ++ d :: p.after

/-- The list without the document. -/
def remove (p : Place) : List Document :=
  p.before ++ p.after

end Place

/-- The first document that matches; those behind it are not looked at. -/
def first? (filter : Document) : List Document → Except StorageError (Option Place)
  | [] => .ok none
  | d :: rest => do
    if ← test d filter then pure (some ⟨[], d, rest⟩)
    else
      let found ← first? filter rest
      pure (found.map fun p => { p with before := d :: p.before })

end Filter

end RecordStore
