import RecordStore.Decimal.Basic
import RecordStore.Text.Numeral
/-!
# Texts of exact decimals

A decimal is written with all of its digits and with its point, never with an exponent. There are
two readers: one of digits with a point, which takes as many of them as fit, and one of such
digits with an exponent behind them, which multiplies out what the first one reads.

## Main definitions

* `Decimal.text`.
* `Decimal.ofText?`, `Decimal.ofScientific`.
-/

namespace RecordStore

namespace Decimal

/-- The written form, with a digit in front of the point at least. -/
def text (d : Decimal) : String :=
  String.ofList (Numeral.signed (decide (d.mantissa < 0))
    (Numeral.positional (Nat.toDigits 10 d.mantissa.natAbs) d.scale))

/-- The decimal with a sign, a mantissa and a scale, if they are in range. -/
def ofSigned? (negative : Bool) (mantissa scale : Nat) : Option Decimal :=
  ofParts? (if negative then -(mantissa : Int) else mantissa) scale

/-- Mantissa and scale of what digits with an optional point write. -/
def digits? (cs : List Char) : Option (Nat × Nat) := do
  let (mantissa, places) ← Numeral.pointed? cs
  fit? 0 mantissa places

/-- The decimal that a text without an exponent writes. -/
def ofText? (s : String) : Option Decimal := do
  let (negative, cs) := Numeral.takeSign s.toList
  let (mantissa, scale) ← digits? cs
  ofSigned? negative mantissa scale

/-- Whether a character stands in front of an exponent. -/
def marksExponent (c : Char) : Bool :=
  c == 'e' || c == 'E'

/-- The decimal that a text with an exponent writes. -/
def ofScientific (s : String) : Except Fault Decimal :=
  let (negative, cs) := Numeral.takeSign s.toList
  let base := cs.takeWhile fun c => !marksExponent c
  match cs.drop base.length with
  | [] => .error .unreadable
  | _ :: exponent =>
    match digits? base, Numeral.power? exponent with
    | some (mantissa, scale), some power => do
      let (mantissa, scale) ← scaled mantissa scale power
      match ofSigned? negative mantissa scale with
      | some d => .ok d
      | none => .error .unreadable
    | _, _ => .error .unreadable

end Decimal

end RecordStore
