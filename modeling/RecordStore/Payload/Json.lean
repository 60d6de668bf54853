import RecordStore.Double.Reading
import RecordStore.Payload.Basic
/-!
# Payloads written as JSON

A number without point and exponent is whole if 64 bits hold it, with or without a sign; every
other number, and the negative zero, becomes the nearest double. A name that is repeated in
an object keeps its last value.

Values are nested no deeper than the text is long, which bounds the recursion.

## Main definitions

* `Payload.ofJson?`: the payload that a text writes.
-/

namespace RecordStore

namespace Payload

/-! ### Numbers -/

/-- The whole number that digits write, unless it is a negative zero or too long. -/
def whole? (negative : Bool) (digits : List Char) : Option Int := do
  let n ← Numeral.decimal? digits
  if negative then if n = 0 || 2 ^ 63 < n then none else some (-n)
  else if 2 ^ 64 ≤ n then none else some n

/-- The number without its sign. -/
def unsigned? (negative : Bool) (cs : List Char) : Option Payload :=
  match whole? negative cs with
  | some i => some (integer i)
  | none => (Double.ofNumeral? negative cs).map float

/-- The number that a text writes. -/
def number? : List Char → Option Payload
  | '-' :: cs => unsigned? true cs
  | cs => unsigned? false cs

/-- Whether a character can stand in a number. -/
def isNumberChar (c : Char) : Bool :=
  c.isDigit || c == '-' || c == '+' || c == '.' || c == 'e' || c == 'E'

/-! ### Texts -/

/-- The character that a letter behind a backslash stands for. -/
def escaped? : Char → Option Char
  | '"' => some '"'
  | '\\' => some '\\'
  | '/' => some '/'
  | 'b' => some '\x08'
  | 'f' => some '\x0c'
  | 'n' => some '\n'
  | 'r' => some '\r'
  | 't' => some '\t'
  | _ => none

/-- The first half of a pair of code units is left open, a second half completes it, and any
other code unit is a character by itself. -/
def joinUnit (high : Option Nat) (unit : Nat) : Option (Char ⊕ Nat) :=
  match high with
  | some h =>
    if 0xDC00 ≤ unit ∧ unit ≤ 0xDFFF then
      some (.inl (Char.ofNat (0x10000 + (h - 0xD800) * 0x400 + (unit - 0xDC00))))
    else none
  | none =>
    if 0xD800 ≤ unit ∧ unit ≤ 0xDBFF then some (.inr unit)
    else if 0xDC00 ≤ unit ∧ unit ≤ 0xDFFF then none
    else some (.inl (Char.ofNat unit))

/-- The characters up to the closing quote, and the rest; `high` is a first half that waits for
its second. -/
def stringChars (high : Option Nat) : List Char → Option (List Char × List Char)
  | '\\' :: 'u' :: a :: b :: c :: d :: rest => do
    let unit ← Numeral.hexadecimal? [a, b, c, d]
    match ← joinUnit high unit with
    | .inl char =>
      let (chars, rest) ← stringChars none rest
      pure (char :: chars, rest)
    | .inr first => stringChars (some first) rest
  | '\\' :: c :: rest => do
    if high.isSome then none
    let char ← escaped? c
    let (chars, rest) ← stringChars none rest
    pure (char :: chars, rest)
  | '"' :: rest => if high.isSome then none else some ([], rest)
  | c :: rest => do
    if high.isSome then none
    let (chars, rest) ← stringChars none rest
    pure (c :: chars, rest)
  | [] => none

/-! ### Values -/

/-- The text without the space at its start. -/
def skipSpace (cs : List Char) : List Char :=
  cs.dropWhile fun c => c == ' ' || c == '\t' || c == '\n' || c == '\r'

/-- A value that is written as a word, and the rest. -/
def word (name : String) (p : Payload) (cs : List Char) : Option (Payload × List Char) :=
  if name.toList.isPrefixOf cs then some (p, cs.drop name.length) else none

/-- The members with those left out that a later one of the same name replaces. -/
def lastOfEach : List (String × Payload) → List (String × Payload)
  | [] => []
  | (name, p) :: rest =>
    if rest.any fun other => other.1 == name then lastOfEach rest
    else (name, p) :: lastOfEach rest

mutual

/-- The value at the start and the rest. -/
def value : Nat → List Char → Option (Payload × List Char)
  | 0, _ => none
  | fuel + 1, cs =>
    match skipSpace cs with
    | '[' :: rest =>
      match skipSpace rest with
      | ']' :: rest => some (array [], rest)
      | rest => (items fuel rest).map fun (found, rest) => (array found, rest)
    | '\x7b' :: rest =>
      match skipSpace rest with
      | '\x7d' :: rest => some (object [], rest)
      | rest => (members fuel rest).map fun (found, rest) => (object (lastOfEach found), rest)
    | '"' :: rest =>
      (stringChars none rest).map fun (chars, rest) => (string (String.ofList chars), rest)
    | 'n' :: rest => word "null" null ('n' :: rest)
    | 't' :: rest => word "true" (boolean true) ('t' :: rest)
    | 'f' :: rest => word "false" (boolean false) ('f' :: rest)
    | rest =>
      (number? (rest.takeWhile isNumberChar)).map fun p => (p, rest.dropWhile isNumberChar)

/-- The values up to a closing bracket, at least one, and the rest. -/
def items : Nat → List Char → Option (List Payload × List Char)
  | 0, _ => none
  | fuel + 1, cs => do
    let (first, rest) ← value fuel cs
    match skipSpace rest with
    | ',' :: rest =>
      let (others, rest) ← items fuel rest
      pure (first :: others, rest)
    | ']' :: rest => pure ([first], rest)
    | _ => none

/-- The members up to a closing brace, at least one, and the rest. -/
def members : Nat → List Char → Option (List (String × Payload) × List Char)
  | 0, _ => none
  | fuel + 1, cs =>
    match skipSpace cs with
    | '"' :: rest => do
      let (name, rest) ← stringChars none rest
      match skipSpace rest with
      | ':' :: rest =>
        let (first, rest) ← value fuel rest
        match skipSpace rest with
        | ',' :: rest =>
          let (others, rest) ← members fuel rest
          pure ((String.ofList name, first) :: others, rest)
        | '\x7d' :: rest => pure ([(String.ofList name, first)], rest)
        | _ => none
      | _ => none
    | _ => none

end

/-- The payload that a text writes, with nothing but space around it. -/
def ofJson? (s : String) : Option Payload := do
  let cs := s.toList
  let (p, rest) ← value (2 * cs.length + 1) cs
  if (skipSpace rest).isEmpty then some p else none

end Payload

end RecordStore
