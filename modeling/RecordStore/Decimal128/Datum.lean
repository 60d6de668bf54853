import RecordStore.Text.Numeral

/-!
# Decimal floating-point data

A `Decimal128.Datum` is a finite number, an infinity or a NaN. A finite number is a sign, a
coefficient of at most 34 digits and a power of ten, and the same value with another
coefficient is another datum: `1.0` and `1.00` differ, and so do `0` and `-0`.

In the binary integer encoding every datum has one canonical word of 128 bits. A coefficient
of 34 digits fits into 113 bits, so canonical words never need the second form for large
coefficients. Every word stands for a datum, also one that is not canonical: where the
coefficient is too large, in either form, it stands for a zero.

## Main definitions

* `Decimal128.Datum`: the datum.
* `Decimal128.Datum.word`: its canonical word.
* `Decimal128.Datum.ofWord`: the datum that a word stands for.
-/

namespace RecordStore

namespace Decimal128

/-- A decimal floating-point datum. -/
inductive Datum
  /-- The number `coefficient * 10 ^ exponent` with a sign. -/
  | finite (negative : Bool) (coefficient : Fin (10 ^ 34)) (exponent : Int)
      (exponent_ge : -6176 ≤ exponent) (exponent_le : exponent ≤ 6111)
  /-- Positive or negative infinity. -/
  | infinity (negative : Bool)
  /-- No number. -/
  | nan (negative signalling : Bool)
deriving DecidableEq, Repr

namespace Datum

/-- The bit of the sign. -/
def signBit (negative : Bool) : Nat :=
  if negative then 2 ^ 127 else 0

/-- The canonical word of the datum. -/
def word : Datum → BitVec 128
  | finite negative coefficient exponent _ _ =>
    BitVec.ofNat 128 (signBit negative + (exponent + 6176).toNat * 2 ^ 113 + coefficient)
  | infinity negative => BitVec.ofNat 128 (signBit negative + 0x78 * 2 ^ 120)
  | nan negative signalling =>
    BitVec.ofNat 128 (signBit negative + (if signalling then 0x7e else 0x7c) * 2 ^ 120)

/-- A coefficient that is in range, and zero in place of one that is not. -/
def coefficientOf (n : Nat) : Fin (10 ^ 34) :=
  if h : n < 10 ^ 34 then ⟨n, h⟩ else ⟨0, by decide⟩

/-- The finite datum of a sign, a biased exponent and a coefficient. Fields of numbers do not
exceed 12287, so the bound takes nothing away. -/
def ofFields (negative : Bool) (field coefficient : Nat) : Datum :=
  let bounded := min field 12287
  have : bounded ≤ 12287 := Nat.min_le_right field 12287
  .finite negative (coefficientOf coefficient) ((bounded : Int) - 6176) (by omega) (by omega)

/-- The datum that a word stands for. The five bits behind the sign tell infinities and NaNs
apart from numbers, and the two forms of a number. -/
def ofWord (word : BitVec 128) : Datum :=
  let w := word.toNat
  let negative := w / 2 ^ 127 % 2 == 1
  let selector := w / 2 ^ 122 % 2 ^ 5
  if selector = 31 then .nan negative (w / 2 ^ 121 % 2 == 1)
  else if selector = 30 then .infinity negative
  else if 24 ≤ selector then ofFields negative (w / 2 ^ 111 % 2 ^ 14) 0
  else ofFields negative (w / 2 ^ 113 % 2 ^ 14) (w % 2 ^ 113)

/-- The datum that a text can show: all NaNs are alike. -/
def shown : Datum → Datum
  | nan _ _ => nan false false
  | d => d

end Datum

end Decimal128

end RecordStore
