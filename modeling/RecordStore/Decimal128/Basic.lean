import RecordStore.Decimal128.Datum
import RecordStore.Text.Octets
/-!
# Decimal floating point of 128 bits

A `Decimal128` is a word of 128 bits. Nearly always it is the canonical word of a datum and
is held as that; any other word is kept as it is, together with the fact that it is not
canonical. So two of them are equal just if their bits are, and every one has a datum.

## Main definitions

* `Decimal128`, `Decimal128.ofWord`, `Decimal128.word`.
* `Decimal128.datum`: what the word stands for.
* `Decimal128.shown`: the canonical word that a text can show.
-/

namespace RecordStore

/-- A word of decimal floating point. -/
inductive Decimal128
  /-- The canonical word of a datum. -/
  | canonical (datum : Decimal128.Datum)
  /-- Another word. -/
  | other (word : BitVec 128) (not_canonical : (Decimal128.Datum.ofWord word).word ≠ word)
deriving DecidableEq, Repr

namespace Decimal128

/-- The bits. -/
def word : Decimal128 → BitVec 128
  | canonical datum => datum.word
  | other word _ => word

/-- The value with the given bits. -/
def ofWord (word : BitVec 128) : Decimal128 :=
  if h : (Datum.ofWord word).word = word then canonical (Datum.ofWord word) else other word h

/-- The datum that the word stands for. -/
def datum : Decimal128 → Datum
  | canonical datum => datum
  | other word _ => Datum.ofWord word

/-- The canonical word of the datum that a text can show. -/
def shown (d : Decimal128) : Decimal128 :=
  canonical d.datum.shown

/-- The octets of the word, the least significant first. -/
def octets (d : Decimal128) : List UInt8 :=
  (List.range 16).map fun i => UInt8.ofNat (d.word.toNat / 2 ^ (8 * i) % 256)

/-- The value whose octets are given, if there are sixteen. -/
def ofOctets? (octets : List UInt8) : Option Decimal128 :=
  if octets.length = 16 then some (ofWord (BitVec.ofNat 128 (Octets.littleEndian octets)))
  else none

end Decimal128

end RecordStore
