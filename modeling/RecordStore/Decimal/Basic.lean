import RecordStore.Text.Numeral
/-!
# Exact decimals

A `Decimal` is an integer mantissa of at most 96 bits divided by a power of ten of at
most 28; trailing zeros are kept, so `1.0` and `1.00` are different decimals. Money and
other exact amounts are held as decimals.

A number with more digits is fitted: digits behind the point are dropped from the end and the
last one kept is rounded by the first one dropped, a half going up. Digits before the point are
never dropped.

## Main definitions

* `Decimal`, `Decimal.ofParts?`.
* `Decimal.fit?`: the digits of a number that fit.
* `Decimal.scaled`: a number times a power of ten, with `Decimal.Fault` as the ways to fail.
-/

namespace RecordStore

/-- The number `mantissa / 10 ^ scale`. -/
structure Decimal where
  /-- The digits as a signed whole number. -/
  mantissa : Int
  /-- How many of the digits stand behind the point. -/
  scale : Nat
  mantissa_lt : mantissa.natAbs < 2 ^ 96
  scale_le : scale ≤ 28
deriving DecidableEq, Repr

namespace Decimal

/-- The decimal with the given mantissa and scale, if they are in range. -/
def ofParts? (mantissa : Int) (scale : Nat) : Option Decimal :=
  if h : mantissa.natAbs < 2 ^ 96 ∧ scale ≤ 28 then some ⟨mantissa, scale, h.1, h.2⟩ else none

/-- Why a text is no decimal. -/
inductive Fault
  /-- It is no number, or its whole part has too many digits. -/
  | unreadable
  /-- It is written with a power of ten this far from zero. -/
  | scaleTooLarge (scale : Nat)
  /-- Multiplied out, it has too many digits. -/
  | tooLarge
deriving DecidableEq, Repr

/-- The wording of a fault. -/
def Fault.message : Fault → String
  | unreadable => "Failed to parse"
  | scaleTooLarge scale =>
    "Scale exceeds the maximum precision allowed: " ++ toString scale ++ " > 28"
  | tooLarge => "Number exceeds maximum value that can be represented."

/-- Adjusts the last digit kept by the first one dropped; where that overflows the
mantissa, one more digit behind the point is given up. -/
def rounded? (dropped mantissa scale : Nat) : Option (Nat × Nat) :=
  if dropped < 5 then some (mantissa, scale)
  else if mantissa + 1 < 2 ^ 96 then some (mantissa + 1, scale)
  else if scale = 0 then none
  else some ((mantissa + 5) / 10, scale - 1)

/-- Drops digits behind the point until at most 28 are left and the mantissa fits;
`dropped` is the digit dropped last. -/
def fit? (dropped mantissa : Nat) : Nat → Option (Nat × Nat)
  | 0 => if mantissa < 2 ^ 96 then rounded? dropped mantissa 0 else none
  | scale + 1 =>
    if scale + 1 ≤ 28 ∧ mantissa < 2 ^ 96 then rounded? dropped mantissa (scale + 1)
    else fit? (mantissa % 10) (mantissa / 10) scale

/-- A number without its last `n` digits; the first digit dropped rounds the last one kept, a
half going up. -/
def dropDigits (mantissa : Nat) : Nat → Nat
  | 0 => mantissa
  | n + 1 => (mantissa / 10 ^ n + 5) / 10

/-- The number `mantissa / 10 ^ scale * 10 ^ power`, multiplied out. Digits that come to stand
behind the last place are dropped. -/
def scaled (mantissa scale : Nat) (power : Int) : Except Fault (Nat × Nat) :=
  if 28 < power.natAbs then .error (.scaleTooLarge power.natAbs)
  else if power < 0 then
    .ok (dropDigits mantissa (scale + power.natAbs - 28), min 28 (scale + power.natAbs))
  else if power.natAbs ≤ scale then .ok (mantissa, scale - power.natAbs)
  else if mantissa * 10 ^ (power.natAbs - scale) < 2 ^ 96 then
    .ok (mantissa * 10 ^ (power.natAbs - scale), 0)
  else .error .tooLarge

end Decimal

end RecordStore
