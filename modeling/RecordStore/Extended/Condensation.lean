import RecordStore.Extended.Form
/-!
# Writing values with extended forms

When a value is written, every document in it that spells a value gives way to that value, the
innermost first. Decimals are written by their texts, so only what a text can show is kept of
them; those that take the place of a document stay as they are. A document spells a value only as
a whole: it has the name of a form and no other, or the two names of program text with scope, in
either order.

## Main definitions

* `Extended.spelled?`: the value that a document spells.
* `Value.condense`: a value with every form in it replaced.
-/

namespace RecordStore

namespace Extended

/-- Program text with scope, if the types are right. -/
def scoped? : Value → Value → Option Value
  | .string source, .document scope => some (.codeWithScope source scope)
  | _, _ => none

/-- The value that a document spells as a whole. -/
def spelled? : Document → Option Value
  | [(name, content)] =>
    if name = "$code" then
      match content with
      | .string source => some (.code source)
      | _ => none
    else (form? name).bind fun form => form.spelled? content
  | [(first, a), (second, b)] =>
    if first = "$code" ∧ second = "$scope" then scoped? a b
    else if first = "$scope" ∧ second = "$code" then scoped? b a
    else none
  | _ => none

/-- The value that a document spells, or the document. -/
def condensed (d : Document) : Value :=
  (spelled? d).getD (.document d)

end Extended

mutual

/-- The value with every document in it that spells a value replaced by that value. -/
def Value.condense : Value → Value
  | .array items => .array (Value.condenseItems items)
  | .document fields => Extended.condensed (Value.condenseFields fields)
  | .codeWithScope source scope =>
    Extended.condensed
      [("$code", .string source), ("$scope", Extended.condensed (Value.condenseFields scope))]
  | .regex pattern options => .regex pattern (Extended.sortedLetters options)
  | .decimal d => .decimal d.shown
  | v => v

/-- The items with all forms replaced. -/
def Value.condenseItems : List Value → List Value
  | [] => []
  | v :: rest => v.condense :: Value.condenseItems rest

/-- The fields with all forms in their values replaced. -/
def Value.condenseFields : List (String × Value) → List (String × Value)
  | [] => []
  | (name, v) :: rest => (name, v.condense) :: Value.condenseFields rest

end

end RecordStore
