import RecordStore.Instant.Basic
/-!
# Strict RFC 3339 text

The strict reader takes every number with its full count of digits, any one ASCII character
between the date and the time, a fraction of any length and an offset with a colon, and nothing
around them. A second numbered 60 has to be the last of a month in UTC and is taken for the last
nanosecond before it.

## Main definitions

* `Instant.ofStrictText?`: the instant that a text denotes.
-/

namespace RecordStore

namespace Instant

/-- The number that exactly `count` digits write, and the rest. -/
def exactly? (count : Nat) (cs : List Char) : Option (Nat × List Char) :=
  if count ≤ cs.length then (Numeral.decimal? (cs.take count)).map (·, cs.drop count) else none

/-- The rest behind a character that has to come first. -/
def past? (expected : Char) : List Char → Option (List Char)
  | [] => none
  | c :: rest => if c = expected then some rest else none

/-- The year, the month and the day, and the rest. -/
def strictDate? (cs : List Char) : Option (Date × List Char) := do
  let (year, cs) ← exactly? 4 cs
  let (month, cs) ← exactly? 2 (← past? '-' cs)
  let (day, cs) ← exactly? 2 (← past? '-' cs)
  pure (⟨year, month, day⟩, cs)

/-- The rest behind the character between the date and the time. -/
def pastDivider? : List Char → Option (List Char)
  | [] => none
  | c :: rest => if c.toNat < 128 then some rest else none

/-- The nanoseconds behind a point, if there is one; digits after the ninth are dropped. -/
def strictFraction? : List Char → Option (Nat × List Char)
  | '.' :: cs => do
    let digits := cs.takeWhile Char.isDigit
    let n ← Numeral.decimal? (digits.take 9)
    pure (n * 10 ^ (9 - digits.length), cs.drop digits.length)
  | cs => some (0, cs)

/-- The hours and the minutes of an offset with a sign, in seconds, and the rest. -/
def strictOffset? (sign : Int) (cs : List Char) : Option (Int × List Char) := do
  let (hours, cs) ← exactly? 2 cs
  let (minutes, cs) ← exactly? 2 (← past? ':' cs)
  if hours ≤ 23 ∧ minutes ≤ 59 then pure (sign * (hours * 3600 + minutes * 60 : Nat), cs) else none

/-- The zone that ends a text, as its offset from UTC in seconds. -/
def strictZone? : List Char → Option (Int × List Char)
  | '+' :: cs => strictOffset? 1 cs
  | '-' :: cs => strictOffset? (-1) cs
  | c :: cs => if c = 'Z' ∨ c = 'z' then some (0, cs) else none
  | [] => none

/-- The instant that is a number of seconds since 1970 and of nanoseconds below a whole second. -/
def ofParts? (seconds : Int) (nanos : Nat) : Option Instant :=
  if h : nanos < 10 ^ 9 then some ⟨seconds, nanos, Nat.lt_trans h (by decide)⟩ else none

/-- Whether an instant lies in the last second of a month in UTC. -/
def endsMonth (t : Instant) : Bool :=
  t.secondOfDay == 86399 && t.date.day == t.date.monthLength

/-- The instant of a clock that shows a local date and time. -/
def ofClock? (date : Date) (hour minute second nanos : Nat) (offset : Int) : Option Instant := do
  let start := date.toDays * 86400 + (hour * 3600 + minute * 60 : Nat) - offset
  if ¬ date.Valid ∨ 23 < hour ∨ 59 < minute then none
  else if second ≤ 59 then ofParts? (start + second) nanos
  else if second = 60 then (ofParts? (start + 59) (10 ^ 9 - 1)).filter endsMonth
  else none

/-- The instant that a text denotes. -/
def ofStrictText? (s : String) : Option Instant := do
  let (date, cs) ← strictDate? s.toList
  let (hour, cs) ← exactly? 2 (← pastDivider? cs)
  let (minute, cs) ← exactly? 2 (← past? ':' cs)
  let (second, cs) ← exactly? 2 (← past? ':' cs)
  let (nanos, cs) ← strictFraction? cs
  let (offset, cs) ← strictZone? cs
  if cs.isEmpty then ofClock? date hour minute second nanos offset else none

end Instant

end RecordStore
