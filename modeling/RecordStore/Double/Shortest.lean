import RecordStore.Double.Basic
import RecordStore.Text.Numeral
/-!
# Shortest decimal digits of a double

`Double.shortest` is the decimal with the fewest digits that reads back as the given
double, and among those the nearest to it. A decimal reads back when it lies between
the midpoints to the two neighbouring doubles, the midpoints themselves included if the
significand is even. For one digit, two digits and so on, the two neighbours of the
number on that decimal grid are tried; seventeen digits always suffice. Where both are
equally near, a `Tie` says which one is taken.

All comparisons are between naturals: numbers are multiples of `2 ^ (-1076)`, fine
enough to hold every midpoint.

## Main definitions

* `Double.Tie`: what becomes of a number halfway between two decimals.
* `Double.shortest`: digits and decimal exponent.
* `Double.plainText`: positional digits, never an exponent.
* `Double.pointText`: the same, with `.0` after a whole number.
* `Double.Layout`, `Double.mixedText`: with an exponent for large and small numbers.
-/

namespace RecordStore

/-- The greatest `n` with `10 ^ n ≤ num / den`, for a positive ratio that is no power of
ten below one. -/
def floorLog10 (num den : Nat) : Int :=
  if den ≤ num then ((toString (num / den)).length : Int) - 1
  else -((toString (den / num)).length : Int)

namespace Double

/-- A decimal number: `digits * 10 ^ exponent`. -/
structure Digits where
  /-- The digits as a whole number. -/
  digits : Nat
  /-- The power of ten of the last digit. -/
  exponent : Int

namespace Digits

/-- The same number without zeros at the end; `fuel` bounds how many are taken off. -/
def trim : Nat → Digits → Digits
  | 0, n => n
  | fuel + 1, n =>
    if n.digits != 0 && n.digits % 10 == 0 then trim fuel ⟨n.digits / 10, n.exponent + 1⟩ else n

end Digits

/-- Which neighbour is taken for a number halfway between two. -/
inductive Tie
  /-- The greater one. -/
  | up
  /-- The one whose last digit is even. -/
  | even
deriving DecidableEq, Repr

/-- Whether a number halfway between `g` and `g + 1` goes to `g`. -/
def Tie.goesDown (g : Nat) : Tie → Bool
  | up => false
  | even => g % 2 == 0

/-- The neighbour of the number on the grid of multiples of `10 ^ exponent` that reads
back as the number, the nearer one if both do. -/
def onGrid? (tie : Tie) (d : Double) (exponent : Int) : Option Digits :=
  let up := 10 ^ (-exponent).toNat
  let unit := 2 ^ 1076 * 10 ^ exponent.toNat
  let value := 4 * d.magnitude * up
  let below := (if d.fraction = 0 && 1 < d.exponentField then 1 else 2) * 2 ^ d.shift * up
  let above := 2 * 2 ^ d.shift * up
  let reads := fun g : Nat =>
    if d.significand % 2 = 0 then value ≤ g * unit + below && g * unit ≤ value + above
    else value < g * unit + below && g * unit < value + above
  let g := value / unit
  match reads g, reads (g + 1) with
  | true, true =>
    let twice := 2 * (value - g * unit)
    some ⟨if twice < unit || (twice == unit && tie.goesDown g) then g else g + 1, exponent⟩
  | true, false => some ⟨g, exponent⟩
  | false, true => some ⟨g + 1, exponent⟩
  | false, false => none

/-- The fewest decimal digits that read back as the number, for a positive finite one. -/
def shortest (tie : Tie) (d : Double) : Digits :=
  let top := floorLog10 (4 * d.magnitude) (2 ^ 1076)
  let found := (List.range 17).findSome? fun k : Nat => d.onGrid? tie (top - k)
  (found.getD ⟨0, 0⟩).trim 20

/-- The digits in positional notation. -/
def Digits.plain (n : Digits) : String :=
  let text := toString n.digits
  let places := (-n.exponent).toNat
  if 0 ≤ n.exponent then text ++ Numeral.zeros n.exponent.toNat
  else if places < text.length then
    (text.take (text.length - places)).toString ++ "." ++
      (text.drop (text.length - places)).toString
  else "0." ++ Numeral.zeros (places - text.length) ++ text

/-- The power of ten of the first digit. -/
def Digits.leading (n : Digits) : Int :=
  n.exponent + (toString n.digits).length - 1

/-- How numbers are written that may have an exponent. -/
structure Layout where
  /-- The least power of ten of the first digit that is written in positional notation. -/
  least : Int
  /-- The greatest one. -/
  greatest : Int
  /-- Whether a positive exponent has a sign. -/
  signed : Bool
  /-- Which of two equally near decimals is written. -/
  tie : Tie

/-- The digits with one before the point and an exponent. -/
def Digits.scientific (signed : Bool) (n : Digits) : String :=
  let text := toString n.digits
  let tail := (text.drop 1).toString
  (text.take 1).toString ++ (if tail.isEmpty then "" else "." ++ tail) ++ "e" ++
    (if signed && decide (0 < n.leading) then "+" else "") ++ toString n.leading

/-- Writes the sign and the exceptional numbers, and a finite positive number by `body`. -/
def textWith (tie : Tie) (zero : String) (body : Digits → String) (d : Double) : String :=
  if d.isNaN then "NaN"
  else
    (if d.isNegative then "-" else "") ++
      (if d.isInfinite then "inf" else if d.magnitude = 0 then zero else body (d.shortest tie))

/-- The positional text with `.0` after a whole number. -/
def Digits.withPoint (n : Digits) : String :=
  if 0 ≤ n.exponent then n.plain ++ ".0" else n.plain

/-- The shortest digits in positional notation: `1`, `0.0000001`, `-0`, `NaN`, `inf`. -/
def plainText (d : Double) : String :=
  d.textWith .up "0" Digits.plain

/-- The shortest digits in positional notation, always with a point: `5.0`. -/
def pointText (d : Double) : String :=
  d.textWith .up "0.0" Digits.withPoint

/-- The shortest digits with a point, or with an exponent as the layout asks. -/
def mixedText (l : Layout) (d : Double) : String :=
  d.textWith l.tie "0.0" fun n =>
    if n.leading < l.least || l.greatest < n.leading then n.scientific l.signed else n.withPoint

end Double

end RecordStore
