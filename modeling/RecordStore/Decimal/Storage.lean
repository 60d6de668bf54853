import RecordStore.Decimal.Text
import RecordStore.Decimal128.Text
/-!
# Exact decimals in storage

An exact decimal is stored as a `Decimal128`, and both ways lead through a text: what is stored is
read from the text of the decimal, and the decimal is read from the text of what is stored. A
decimal can always be stored, since its digits with a point are the text of a datum. That datum
may have a text with an exponent, so loading has two readers and the second one only for what the
first one refuses.

## Main definitions

* `Decimal.toDecimal128`: the stored form.
* `Decimal.ofDecimal128?`: the decimal that is loaded.

## Main results

* `Decimal.ofText?_text`: the datum that the text of a decimal writes.
-/

namespace RecordStore

namespace Decimal

/-- What a decimal is stored as: the mantissa becomes the coefficient and the scale the
exponent. -/
def datum (d : Decimal) : Decimal128.Datum :=
  .finite (decide (d.mantissa < 0))
    ⟨d.mantissa.natAbs, Nat.lt_trans d.mantissa_lt (by decide)⟩ (-d.scale)
    (by have := d.scale_le; omega) (by omega)

/-- The text of a decimal writes a datum. -/
theorem ofText?_text (d : Decimal) :
    Decimal128.ofText? d.text = some (.canonical d.datum) := by
  have hplaces : d.scale ≤ 6176 := Nat.le_trans d.scale_le (by decide)
  rw [Decimal128.ofText?, text]
  exact congrArg (Option.map Decimal128.canonical) (Decimal128.Datum.ofText?_positional
    (decide (d.mantissa < 0)) ⟨d.mantissa.natAbs, Nat.lt_trans d.mantissa_lt (by decide)⟩ hplaces)

/-- The stored form. -/
def toDecimal128 (d : Decimal) : Decimal128 :=
  (Decimal128.ofText? d.text).get (by rw [ofText?_text]; rfl)

/-- The decimal that a stored word loads as. -/
def ofDecimal128? (stored : Decimal128) : Except Fault Decimal :=
  match ofText? stored.text with
  | some d => .ok d
  | none => ofScientific stored.text

end Decimal

end RecordStore
