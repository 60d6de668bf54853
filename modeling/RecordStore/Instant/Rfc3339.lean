import RecordStore.Instant.Basic
import RecordStore.Text.Characters
import RecordStore.Text.Numeral
/-!
# RFC 3339 text of an instant

Writing gives `YYYY-MM-DDTHH:MM:SS` in UTC, then 3, 6 or 9 digits of a fraction if there
is one, the fewest that are exact, then `Z`. Years outside 0 to 9999 carry a sign.

Reading accepts any offset from UTC and is lenient in ways that do not make the text
ambiguous: blanks before a number or a separator of the date and the time, a small `t` or
a space between them, a small `z` or the letters `UTC` for the offset zero, blanks or
several colons inside the offset, more than nine fraction digits. Each number is checked
for its range as soon as it is read, so the first fault from the left is reported; whether
the day exists in its month is decided last.

## Main definitions

* `Instant.text`: the written form.
* `Instant.ofText?`: the reader, with `Instant.Fault` as its ways to fail.
-/

namespace RecordStore

namespace Instant

/-! ### Writing -/

/-- The fraction of a second with its point, or nothing for a whole second. -/
def fractionText (nanos : Nat) : String :=
  if nanos = 0 then ""
  else if nanos % 10 ^ 6 = 0 then "." ++ Numeral.padded 3 (nanos / 10 ^ 6)
  else if nanos % 10 ^ 3 = 0 then "." ++ Numeral.padded 6 (nanos / 10 ^ 3)
  else "." ++ Numeral.padded 9 nanos

/-- The instant in UTC, with the fewest fraction digits that are exact. -/
def text (t : Instant) : String :=
  let leap := t.nanos / 10 ^ 9
  t.date.text ++ "T" ++ Numeral.padded 2 (t.secondOfDay / 3600) ++ ":" ++
    Numeral.padded 2 (t.secondOfDay / 60 % 60) ++ ":" ++
    Numeral.padded 2 (t.secondOfDay % 60 + leap) ++ fractionText (t.nanos % 10 ^ 9) ++ "Z"

/-! ### Reading -/

/-- Why a text is no instant. -/
inductive Fault
  /-- The text ends too early. -/
  | tooShort
  /-- Something follows the offset. -/
  | tooLong
  /-- A character stands where it cannot. -/
  | invalid
  /-- A number is out of its range, or the day does not exist. -/
  | outOfRange
  /-- The instant lies outside the years that are kept. -/
  | impossible
deriving DecidableEq, Repr

/-- The wording of a fault. -/
def Fault.message : Fault → String
  | tooShort => "premature end of input"
  | tooLong => "trailing input"
  | invalid => "input contains invalid characters"
  | outOfRange => "input is out of range"
  | impossible => "no possible date and time matching input"

/-- The text without the blanks at its start. -/
def skipBlanks (cs : List Char) : List Char :=
  cs.dropWhile isBlankChar

/-- The digits at the start, at most `most` of them, and the rest; there must be one. -/
def digits (most : Nat) (cs : List Char) : Except Fault (List Char × List Char) :=
  match cs with
  | [] => .error .tooShort
  | c :: _ =>
    if c.isDigit then
      let found := (cs.take most).takeWhile Char.isDigit
      .ok (found, cs.drop found.length)
    else .error .invalid

/-- The number at the start, of at most `most` digits, and the rest. -/
def number (most : Nat) (cs : List Char) : Except Fault (Nat × List Char) := do
  let (found, rest) ← digits most cs
  pure (Numeral.ofDigits 10 (found.filterMap Numeral.digit?), rest)

/-- A number of at most two digits between two bounds, after blanks. -/
def field (least greatest : Nat) (cs : List Char) : Except Fault (Nat × List Char) := do
  let (n, rest) ← number 2 (skipBlanks cs)
  if least ≤ n ∧ n ≤ greatest then pure (n, rest) else throw .outOfRange

/-- The rest after the given character, which must come first. -/
def literal (expected : Char) : List Char → Except Fault (List Char)
  | [] => .error .tooShort
  | c :: rest => if c = expected then .ok rest else .error .invalid

/-- A separator, after blanks. -/
def separator (expected : Char) (cs : List Char) : Except Fault (List Char) :=
  literal expected (skipBlanks cs)

/-- The year, of at most four digits unless it has a sign. -/
def year (cs : List Char) : Except Fault (Int × List Char) := do
  let cs := skipBlanks cs
  let (n, rest) ← match cs with
    | '-' :: cs => (number cs.length cs).map fun (n, rest) => (-(n : Int), rest)
    | '+' :: cs => (number cs.length cs).map fun (n, rest) => ((n : Int), rest)
    | cs => (number 4 cs).map fun (n, rest) => ((n : Int), rest)
  if -2 ^ 31 ≤ n ∧ n < 2 ^ 31 then pure (n, rest) else throw .outOfRange

/-- The nanoseconds after a point, if there is one; digits after the ninth are dropped. -/
def fraction : List Char → Except Fault (Nat × List Char)
  | '.' :: cs => do
    let (found, rest) ← digits 9 cs
    let n := Numeral.ofDigits 10 (found.filterMap Numeral.digit?)
    pure (n * 10 ^ (9 - found.length), rest.dropWhile Char.isDigit)
  | cs => .ok (0, cs)

/-- Two digits, the first at most `most`, and the rest. A larger first digit is out of
range; a text that ends before the second digit is too short. -/
def twoDigits (most : Nat) : List Char → Except Fault (Nat × List Char)
  | [] => .error .tooShort
  | [c] => .error (if c.toNat < 128 then .tooShort else .invalid)
  | c :: d :: rest =>
    match Numeral.digit? c, Numeral.digit? d with
    | some tens, some ones =>
      if tens ≤ most then .ok (10 * tens + ones, rest) else .error .outOfRange
    | _, _ => .error .invalid

/-- Hours and minutes after a sign, in seconds, with blanks and colons between them. -/
def signedOffset (sign : Int) (cs : List Char) : Except Fault (Int × List Char) := do
  let (hours, rest) ← twoDigits 9 cs
  let (minutes, rest) ← twoDigits 5 (rest.dropWhile fun c => c == ':' || isBlankChar c)
  pure (sign * (hours * 3600 + minutes * 60 : Nat), rest)

/-- The offset from UTC in seconds: `Z`, `UTC`, or a sign and hours and minutes. -/
def offset (cs : List Char) : Except Fault (Int × List Char) :=
  if (cs.take 3).map Char.toUpper = ['U', 'T', 'C'] then .ok (0, cs.drop 3)
  else
    match cs with
    | [] => .error .tooShort
    | c :: rest =>
      if c = 'Z' ∨ c = 'z' then .ok (0, rest)
      else if c = '+' then signedOffset 1 rest
      else if c = '-' ∨ c = '\u2212' then signedOffset (-1) rest
      else .error .invalid

/-- The rest after the letter or the space that divides date and time. -/
def divider : List Char → Except Fault (List Char)
  | [] => .error .tooShort
  | c :: rest => if c = 'T' ∨ c = 't' ∨ c = ' ' then .ok rest else .error .invalid

/-- The first day of the years that are kept. -/
def firstDay : Int :=
  Date.toDays ⟨-262143, 1, 1⟩

/-- The last day of the years that are kept. -/
def lastDay : Int :=
  Date.toDays ⟨262142, 12, 31⟩

/-- A clock reading with its offset from UTC. -/
structure Reading where
  /-- The local date. -/
  date : Date
  /-- The hour, from 0 to 23. -/
  hour : Nat
  /-- The minute, from 0 to 59. -/
  minute : Nat
  /-- The second, from 0 to 60; 60 is a leap second. -/
  second : Nat
  /-- The nanoseconds. -/
  nanos : Nat
  /-- The offset from UTC in seconds. -/
  offset : Int

/-- The instant of a clock reading, if its day exists and it lies in the kept years. -/
def Reading.instant (r : Reading) : Except Fault Instant :=
  let day := r.date.toDays
  let leap := r.second / 60
  let seconds := day * 86400 + (r.hour * 3600 + r.minute * 60 + (r.second - leap) : Nat) - r.offset
  if ¬ r.date.Valid ∨ day < firstDay ∨ lastDay < day then .error .outOfRange
  else if r.offset ≤ -86400 ∨ 86400 ≤ r.offset then .error .outOfRange
  else if seconds / 86400 < firstDay ∨ lastDay < seconds / 86400 then .error .impossible
  else if h : r.nanos + leap * 10 ^ 9 < 2 * 10 ^ 9 then
    .ok ⟨seconds, r.nanos + leap * 10 ^ 9, h⟩
  else .error .outOfRange

/-- Reads date, time and offset from left to right. -/
def reading (cs : List Char) : Except Fault (Reading × List Char) := do
  let (year, cs) ← year cs
  let (month, cs) ← field 1 12 (← separator '-' cs)
  let (day, cs) ← field 1 31 (← separator '-' cs)
  let (hour, cs) ← field 0 23 (← divider cs)
  let (minute, cs) ← field 0 59 (← separator ':' cs)
  let (second, cs) ← field 0 60 (← separator ':' cs)
  let (nanos, cs) ← fraction cs
  let (offset, cs) ← offset (skipBlanks cs)
  pure (⟨⟨year, month, day⟩, hour, minute, second, nanos, offset⟩, cs)

/-- The instant that a text denotes. -/
def ofText? (s : String) : Except Fault Instant := do
  let (r, rest) ← reading s.toList
  if (skipBlanks rest).isEmpty then r.instant else throw .tooLong

end Instant

end RecordStore
