import RecordStore.Extended.Form
import RecordStore.Value.Text
/-!
# Reading values with extended forms

When a value is read, the first name of a form in a document decides: the document is read as the
value that the content behind the name spells, whatever other names it has. Those in front have been
read by then, so that their faults are found, and those behind are not looked at. Program text
looks at one more name, which must be that of its scope.

What is read as a document, such as a scope, must not spell anything else.

## Main definitions

* `Value.interpret`: any value, with every form in it read.
* `Document.interpret`: a document, with every form in it read.
-/

namespace RecordStore

namespace Extended

/-- A value that has to be a document. -/
def asDocument : Value → Except ReadError Document
  | .document d => .ok d
  | v =>
    .error (.invalidType "map"
      ("expected document, found extended JSON data type: " ++ v.text))

end Extended

mutual

/-- The value with every form in it read. -/
def Value.interpret : Value → Except ReadError Value
  | .array items => (Value.interpretItems items).map .array
  | .document fields => Value.interpretFields [] fields
  | .codeWithScope source scope => do
    let v ← Value.interpretFields [] scope
    let scope ← Extended.asDocument v
    pure (.codeWithScope source scope)
  | .regex pattern options => .ok (.regex pattern (Extended.sortedLetters options))
  | v => .ok v

/-- The items with every form in them read. -/
def Value.interpretItems : List Value → Except ReadError (List Value)
  | [] => .ok []
  | v :: rest => do
    let first ← v.interpret
    let others ← Value.interpretItems rest
    pure (first :: others)

/-- The value of a document whose fields in front have been read as `read`. -/
def Value.interpretFields (read : Document) :
    List (String × Value) → Except ReadError Value
  | [] => .ok (.document read)
  | (name, content) :: rest =>
    if name = "$code" then do
      let source ← Reader.text content
      match rest with
      | [] => pure (.code source)
      | (other, scope) :: _ =>
        if other = "$scope" then do
          let v ← scope.interpret
          let scope ← Extended.asDocument v
          pure (.codeWithScope source scope)
        else throw (.unknownField other ["$scope"])
    else if name = "$scope" then do
      let v ← content.interpret
      let scope ← Extended.asDocument v
      match rest with
      | [] => throw (.missingField "$code")
      | (other, text) :: _ =>
        if other = "$code" then do
          let source ← Reader.text text
          pure (.codeWithScope source scope)
        else throw (.unknownField other ["$code"])
    else
      match Extended.form? name with
      | some form => form.read content
      | none => do
        let v ← content.interpret
        Value.interpretFields (read ++ [(name, v)]) rest

end

/-- The document with every form in it read; it must not spell a value of another type. -/
def Document.interpret (d : Document) : Except ReadError Document := do
  let v ← Value.interpret (.document d)
  Extended.asDocument v

end RecordStore
