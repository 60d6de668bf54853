import RecordStore.Double.Basic
/-!
# Rounding to the nearest double

A ratio of naturals is rounded to the double nearest to it, an exact half going to
the even neighbour. The binade is found first (`floorLog2`), which leaves a single
division to be rounded; a significand that rounds up to the next power of two carries
into the exponent field by itself, because the fields lie next to each other.

## Main definitions

* `roundDiv`: the quotient of naturals to the nearest, half to even.
* `Double.ofRatio`, `Double.ofInt`, `Double.ofDecimal`: nearest doubles.
-/

namespace RecordStore

/-- The quotient rounded to the nearest natural, an exact half to the even one. -/
def roundDiv (num den : Nat) : Nat :=
  if 2 * (num % den) < den then num / den
  else if 2 * (num % den) = den then num / den + num / den % 2
  else num / den + 1

/-- The greatest `n` with `2 ^ n ≤ num / den`, for a positive ratio. -/
def floorLog2 (num den : Nat) : Int :=
  let n : Int := (num.log2 : Int) - den.log2
  if den * 2 ^ n.toNat ≤ num * 2 ^ (-n).toNat then n else n - 1

namespace Double

/-- The pattern with the given sign and the given lower 63 bits, which stop at infinity. -/
def ofMagnitudeBits (negative : Bool) (lower : Nat) : Double :=
  ⟨UInt64.ofNat ((if negative then 2 ^ 63 else 0) + min lower (2047 * 2 ^ 52))⟩

/-- The infinity of a sign. -/
def infinity (negative : Bool) : Double :=
  ofMagnitudeBits negative (2047 * 2 ^ 52)

/-- The double nearest to `num / den` with the given sign. -/
def ofRatio (negative : Bool) (num den : Nat) : Double :=
  if num = 0 then ofMagnitudeBits negative 0
  else
    let e := max (floorLog2 num den - 52) (-1074)
    let m := roundDiv (num * 2 ^ (-e).toNat) (den * 2 ^ e.toNat)
    ofMagnitudeBits negative ((e + 1074).toNat * 2 ^ 52 + m)

/-- The double nearest to an integer. -/
def ofInt (i : Int) : Double :=
  ofRatio (decide (i < 0)) i.natAbs 1

/-- The double nearest to `digits * 10 ^ exponent` with the given sign. Exponents far
outside the range are answered without computing the power. -/
def ofDecimal (negative : Bool) (digits : Nat) (exponent : Int) : Double :=
  if digits = 0 || exponent < -((digits.log2 : Int) + 400) then ofMagnitudeBits negative 0
  else if exponent > 400 then infinity negative
  else ofRatio negative (digits * 10 ^ exponent.toNat) (10 ^ (-exponent).toNat)

end Double

end RecordStore
