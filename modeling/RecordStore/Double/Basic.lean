import RecordStore.Text.Numeral

/-!
# Doubles as bit patterns

A `Double` is a binary64 number kept as its 64 bits, so that equality, order and
text are decided by integer arithmetic. The least positive number is `2 ^ (-1074)`;
every finite number is a whole multiple of it, and `Double.units` is that multiple.
On all numbers but the NaNs, infinities included, `units` is an order embedding into
the integers: the exponent field stands above the fraction, so a larger bit pattern
of one sign is a larger multiple.

## Main definitions

* `Double.units`: the number as a multiple of `2 ^ (-1074)`.
* `Double.compare?`: the order of numbers, undefined where a NaN takes part.
* `Double.same`: numeric equality, under which a NaN differs from itself and the two
  zeros agree.
-/

namespace RecordStore

/-- A binary64 number, kept as its bits: sign, 11 exponent bits, 52 fraction bits. -/
structure Double where
  /-- The bit pattern. -/
  bits : UInt64
deriving DecidableEq, Repr

namespace Double

/-- The bit pattern in which every NaN is written out. -/
def nan : Double := ⟨0x7ff8000000000000⟩

/-- Whether the sign bit is set. -/
def isNegative (d : Double) : Bool :=
  2 ^ 63 ≤ d.bits.toNat

/-- The eleven exponent bits. -/
def exponentField (d : Double) : Nat :=
  d.bits.toNat / 2 ^ 52 % 2 ^ 11

/-- The fifty-two fraction bits. -/
def fraction (d : Double) : Nat :=
  d.bits.toNat % 2 ^ 52

/-- Whether the pattern is no number. -/
def isNaN (d : Double) : Bool :=
  d.exponentField == 2047 && d.fraction != 0

/-- Whether the pattern is one of the two infinities. -/
def isInfinite (d : Double) : Bool :=
  d.exponentField == 2047 && d.fraction == 0

/-- Whether the pattern is a number other than the infinities. -/
def isFinite (d : Double) : Bool :=
  d.exponentField != 2047

/-- The integer significand, with the hidden bit of a normal number. -/
def significand (d : Double) : Nat :=
  if d.exponentField = 0 then d.fraction else 2 ^ 52 + d.fraction

/-- The power of two by which the significand is scaled, counted from the least one. -/
def shift (d : Double) : Nat :=
  d.exponentField - 1

/-- The absolute value as a multiple of `2 ^ (-1074)`. An infinity lies above every
finite number. -/
def magnitude (d : Double) : Nat :=
  d.significand * 2 ^ d.shift

/-- The value as a multiple of `2 ^ (-1074)`. -/
def units (d : Double) : Int :=
  if d.isNegative then -(d.magnitude : Int) else d.magnitude

/-- The order of two numbers, or `none` if one of them is a NaN. -/
def compare? (a b : Double) : Option Ordering :=
  if a.isNaN || b.isNaN then none else some (compare a.units b.units)

/-- Numeric equality: no NaN equals anything, and the two zeros are equal. -/
def same (a b : Double) : Bool :=
  !a.isNaN && !b.isNaN && a.units == b.units

/-- Whether the number lies below zero; a NaN and the negative zero do not. -/
def belowZero (d : Double) : Bool :=
  !d.isNaN && decide (d.units < 0)

/-- The number in the written form of its bits: every NaN becomes `Double.nan`. -/
def canonical (d : Double) : Double :=
  if d.isNaN then nan else d

end Double

end RecordStore
