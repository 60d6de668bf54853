import RecordStore.Decimal.Storage
import RecordStore.Extended.Interpretation
import RecordStore.Value.Text
/-!
# Reading exact decimals

Exact decimals are read from decimals alone, or from documents that spell one.

## Main definitions

* `Value.exact`, `Value.exactOrNull`: readers of a `Decimal`, beside `Value.ofExact` and
  `Value.ofExact?`, which write it.
-/

namespace RecordStore

namespace Value

/-- The decimal that a stored one loads as. -/
def loadExact (stored : Decimal128) : Except ReadError Decimal :=
  match Decimal.ofDecimal128? stored with
  | .ok d => .ok d
  | .error fault =>
    .error (.custom ("cannot decode Decimal128 " ++ stored.text ++ ": " ++ fault.message))

/-- An exact decimal. -/
def exact : Reader Value Decimal := fun v => do
  match ← interpret v with
  | decimal stored => loadExact stored
  | other => throw (.custom ("expecting Decimal128, got " ++ other.debugText))

/-- An exact decimal or nothing. -/
def exactOrNull : Reader Value (Option Decimal)
  | null => .ok none
  | other => (exact other).map some

/-- The stored form of an exact decimal. -/
def ofExact (d : Decimal) : Value :=
  decimal d.toDecimal128

/-- The stored form of an exact decimal that may be absent. -/
def ofExact? : Option Decimal → Value
  | some d => ofExact d
  | none => null

end Value

end RecordStore
