import RecordStore.Double.Rounding
import RecordStore.Text.Numeral
/-!
# Reading doubles

A numeral is digits with an optional point and an optional exponent, and stands for the double
nearest to it. A text may also write the infinities and the NaN by name, in letters of either
case, and may begin with a sign.

## Main definitions

* `Double.ofNumeral?`: the double that a numeral without a sign writes.
* `Double.ofText?`: the double that a text writes.
-/

namespace RecordStore

namespace Double

/-- The double nearest to a numeral, with the given sign. There has to be a digit before or
behind the point, and one in an exponent. -/
def ofNumeral? (negative : Bool) (cs : List Char) : Option Double := do
  let mantissa := cs.takeWhile fun c => c != 'e' && c != 'E'
  let exponent ← match cs.drop mantissa.length with
    | [] => some 0
    | _ :: rest => Numeral.signed? rest
  let before := mantissa.takeWhile (· != '.')
  let after := (mantissa.drop before.length).drop 1
  let digits ← Numeral.decimal? (before ++ after)
  pure (ofDecimal negative digits (exponent - after.length))

/-- The double that a text without its sign writes, by name or as a numeral. -/
def ofUnsigned? (negative : Bool) (cs : List Char) : Option Double :=
  match String.ofList (cs.map Char.toLower) with
  | "nan" => some nan
  | "inf" => some (infinity negative)
  | "infinity" => some (infinity negative)
  | _ => ofNumeral? negative cs

/-- The double that a text writes. -/
def ofText? (s : String) : Option Double :=
  match s.toList with
  | '-' :: cs => ofUnsigned? true cs
  | '+' :: cs => ofUnsigned? false cs
  | cs => ofUnsigned? false cs

end Double

end RecordStore
