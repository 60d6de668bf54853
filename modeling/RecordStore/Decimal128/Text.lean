import RecordStore.Decimal128.Basic
import RecordStore.Text.Numeral
/-!
# Text of a decimal128

The written form shows sign, coefficient and exponent exactly. It is positional while the
exponent is not positive and the first digit is no further than six places behind the
point; otherwise it has one digit before the point and an exponent with its sign.

The reader takes the sign off first. Of what is left, the part before the letter `e`,
without its point and without the zeros in front, is the coefficient; characters behind the
point lower the exponent. Nothing at all is the coefficient zero. More than 34 characters are
accepted if the surplus ones are zeros. An exponent above the greatest is brought down by
zeros behind the coefficient, one below the least is brought up by taking zeros off; a zero
takes the nearest exponent instead. What then stands for the coefficient are digits, with at
most one plus sign in front of them.

## Main definitions

* `Decimal128.text`, `Decimal128.ofText?`.
* `Decimal128.Spelling`: coefficient and exponent of a text while it is read.
-/

namespace RecordStore

namespace Decimal128

/-! ### Writing -/

/-- One digit before the point, the others after it, and the exponent of the first. -/
def scientific (digits : List Char) (leading : Int) : List Char :=
  Numeral.positional digits (digits.length - 1) ++ 'E' :: Numeral.power leading

/-- The characters of a finite number without its sign. -/
def unsignedText (coefficient : Nat) (exponent : Int) : List Char :=
  let digits := Nat.toDigits 10 coefficient
  let leading := exponent + digits.length - 1
  if exponent ≤ 0 ∧ -6 ≤ leading then Numeral.positional digits (-exponent).toNat
  else scientific digits leading

/-- The written form of a datum. -/
def Datum.text : Datum → String
  | finite negative coefficient exponent _ _ =>
    String.ofList (Numeral.signed negative (unsignedText coefficient exponent))
  | infinity negative => if negative then "-Infinity" else "Infinity"
  | nan _ _ => "NaN"

/-- The written form. -/
def text (d : Decimal128) : String :=
  d.datum.text

/-! ### Reading -/

/-- The characters of a coefficient and the power of ten of the last one. -/
structure Spelling where
  /-- The characters. -/
  coefficient : List Char
  /-- The power of ten. -/
  exponent : Int

namespace Spelling

/-- The exponent that a text writes, which has to be a number of 128 bits. -/
def exponent? (cs : List Char) : Option Int :=
  (Numeral.signed? cs).filter fun e => -2 ^ 127 ≤ e && e < 2 ^ 127

/-- The spelling of a coefficient with an optional point and an optional exponent. -/
def ofChars? (cs : List Char) : Option Spelling := do
  let mantissa := cs.takeWhile (· != 'e')
  let exponent ← match cs.drop mantissa.length with
    | [] => some 0
    | _ :: cs => exponent? cs
  let (whole, part) := Numeral.splitPoint mantissa
  let coefficient := (whole ++ part).dropWhile (· == '0')
  if exponent - part.length < -2 ^ 127 then none
  else some ⟨if coefficient.isEmpty then ['0'] else coefficient, exponent - part.length⟩

/-- The same number without the last `n` characters, which must be zeros. -/
def shorten? (n : Nat) (s : Spelling) : Option Spelling :=
  let kept := s.coefficient.length - n
  if n ≤ s.coefficient.length && (s.coefficient.drop kept).all (· == '0') then
    some ⟨s.coefficient.take kept, s.exponent + n⟩
  else none

/-- The same number with `n` more zeros. -/
def lengthen (n : Nat) (s : Spelling) : Spelling :=
  ⟨s.coefficient ++ List.replicate n '0', s.exponent - n⟩

/-- The same number with a coefficient of at most 34 characters. -/
def narrowed? (s : Spelling) : Option Spelling :=
  s.shorten? (s.coefficient.length - 34)

/-- The same number with an exponent in range. -/
def adjusted? (s : Spelling) : Option Spelling :=
  let low := (-6176 - s.exponent).toNat
  let high := (s.exponent - 6111).toNat
  if s.coefficient = ['0'] then some ⟨['0'], s.exponent + low - high⟩
  else if s.coefficient.length + high ≤ 34 then (s.shorten? low).map (lengthen high)
  else none

/-- The finite datum of a spelling whose parts are in range. -/
def datum? (negative : Bool) (s : Spelling) : Option Datum := do
  let coefficient ← Numeral.unsigned? s.coefficient
  if h : coefficient < 10 ^ 34 ∧ -6176 ≤ s.exponent ∧ s.exponent ≤ 6111 then
    some (.finite negative ⟨coefficient, h.1⟩ s.exponent h.2.1 h.2.2)
  else none

end Spelling

/-- The finite datum that characters without a sign write. -/
def finite? (negative : Bool) (cs : List Char) : Option Datum := do
  let spelling ← Spelling.ofChars? cs
  let spelling ← spelling.narrowed?
  let spelling ← spelling.adjusted?
  spelling.datum? negative

/-- The datum of a text without its sign, in lower case. -/
def unsigned? (negative : Bool) (cs : List Char) : Option Datum :=
  match String.ofList cs with
  | "nan" => some (.nan negative false)
  | "snan" => some (.nan negative true)
  | "inf" => some (.infinity negative)
  | "infinity" => some (.infinity negative)
  | _ => finite? negative cs

/-- The datum that a text writes. Letters may be of either case. -/
def Datum.ofText? (s : String) : Option Datum :=
  let (negative, cs) := Numeral.takeSign s.toList
  unsigned? negative (cs.map Char.toLower)

/-- The canonical word of the datum that a text writes. -/
def ofText? (s : String) : Option Decimal128 :=
  (Datum.ofText? s).map canonical

/-! ### Digits with a point are read -/

/-- No exponent is found in digits with a point. -/
theorem takeWhile_positional (n places : Nat) :
    (Numeral.positional (Nat.toDigits 10 n) places).takeWhile (· != 'e') =
      Numeral.positional (Nat.toDigits 10 n) places := by
  have hchar : ∀ c : Char, c.isDigit = true ∨ c = '.' → (c != 'e') = true := by
    intro c hc
    rw [bne_iff_ne]
    rintro rfl
    exact absurd hc (by decide)
  have htake := Numeral.takeWhile_positional hchar n places []
  rwa [List.append_nil, List.takeWhile_nil, List.append_nil] at htake

namespace Spelling

theorem ofChars?_positional {n places : Nat} (h : places ≤ 2 ^ 127) :
    ofChars? (Numeral.positional (Nat.toDigits 10 n) places) =
      some ⟨Nat.toDigits 10 n, -places⟩ := by
  have hcoefficient : (if ((Nat.toDigits 10 n).dropWhile (· == '0')).isEmpty then ['0']
      else (Nat.toDigits 10 n).dropWhile (· == '0')) = Nat.toDigits 10 n := by
    obtain rfl | hn := Nat.eq_zero_or_pos n
    · rfl
    · rw [Numeral.dropWhile_toDigits hn, if_neg (by simp [Nat.toDigits_ne_nil])]
  rw [ofChars?, takeWhile_positional]
  simp only [List.drop_length, Numeral.splitPoint_positional (Numeral.isDigit_toDigits n),
    List.take_append_drop, Numeral.dropWhile_filled, Numeral.length_drop_filled, hcoefficient]
  change (if (0 : Int) - places < -2 ^ 127 then none
    else some (⟨Nat.toDigits 10 n, 0 - places⟩ : Spelling)) = _
  rw [if_neg (by omega), Int.zero_sub]

theorem shorten?_zero (s : Spelling) : s.shorten? 0 = some s := by
  simp [shorten?]

/-- A spelling in range stays as it is. -/
theorem narrowed?_of_le {s : Spelling} (h : s.coefficient.length ≤ 34) : s.narrowed? = some s := by
  rw [narrowed?, Nat.sub_eq_zero_of_le h, shorten?_zero]

theorem adjusted?_of_le {s : Spelling} (hlength : s.coefficient.length ≤ 34)
    (hlow : -6176 ≤ s.exponent) (hhigh : s.exponent ≤ 6111) : s.adjusted? = some s := by
  have hlow : (-6176 - s.exponent).toNat = 0 := by omega
  have hhigh : (s.exponent - 6111).toNat = 0 := by omega
  simp only [adjusted?, hlow, hhigh]
  split
  · next hzero =>
    rw [← hzero]
    simp
  · rw [Nat.add_zero, if_pos hlength, shorten?_zero]
    simp [lengthen]

end Spelling

/-- A number is read from its digits with a point. -/
theorem finite?_positional (negative : Bool) (n : Fin (10 ^ 34)) {places : Nat}
    (h : places ≤ 6176) :
    finite? negative (Numeral.positional (Nat.toDigits 10 n) places) =
      some (.finite negative n (-places) (by omega) (by omega)) := by
  have hlength : (Nat.toDigits 10 n.val).length ≤ 34 :=
    (Nat.length_toDigits_le_iff (by decide) (by decide)).2 n.isLt
  let spelling : Spelling := ⟨Nat.toDigits 10 n, -places⟩
  have hnarrowed : spelling.narrowed? = some spelling := Spelling.narrowed?_of_le hlength
  have hadjusted : spelling.adjusted? = some spelling :=
    Spelling.adjusted?_of_le hlength (by simp only [spelling]; omega)
      (by simp only [spelling]; omega)
  have hrange : n.val < 10 ^ 34 ∧ -6176 ≤ -(places : Int) ∧ -(places : Int) ≤ 6111 :=
    ⟨n.isLt, by omega, by omega⟩
  have hdatum : spelling.datum? negative =
      some (.finite negative n (-places) hrange.2.1 hrange.2.2) := by
    simp only [Spelling.datum?, spelling, Numeral.unsigned?_toDigits, Option.bind_eq_bind,
      Option.bind_some, dif_pos hrange]
  rw [finite?, Spelling.ofChars?_positional (Nat.le_trans h (by decide))]
  change (spelling.narrowed? >>= fun s => s.adjusted? >>= fun s => s.datum? negative) = _
  rw [hnarrowed]
  change (spelling.adjusted? >>= fun s => s.datum? negative) = _
  rw [hadjusted]
  exact hdatum

theorem toLower_of_isDigit_or_eq {c : Char} (h : c.isDigit = true ∨ c = '.') : c.toLower = c := by
  obtain h | rfl := h
  · have hle : c.val ≤ '9'.val := by
      simp only [Char.isDigit, Bool.and_eq_true, decide_eq_true_eq] at h
      exact h.2
    have hupper : ¬(c.val ≥ 'A'.val ∧ c.val ≤ 'Z'.val) := fun hupper =>
      absurd (UInt32.le_trans hupper.1 hle) (by decide)
    exact dif_neg hupper
  · rfl

/-- Digits with a point spell no name. -/
theorem unsigned?_positional (negative : Bool) (n places : Nat) :
    unsigned? negative ((Numeral.positional (Nat.toDigits 10 n) places).map Char.toLower) =
      finite? negative (Numeral.positional (Nat.toDigits 10 n) places) := by
  have hchars := Numeral.isDigit_or_eq_of_mem_positional (Numeral.isDigit_toDigits n) places
  have hlower : (Numeral.positional (Nat.toDigits 10 n) places).map Char.toLower =
      Numeral.positional (Nat.toDigits 10 n) places :=
    (List.map_congr_left fun c hc => toLower_of_isDigit_or_eq (hchars c hc)).trans (List.map_id _)
  have hname : 'n' ∉ Numeral.positional (Nat.toDigits 10 n) places := fun hn =>
    absurd (hchars 'n' hn) (by decide)
  -- every name has an n in it
  rw [hlower, unsigned?]
  generalize Numeral.positional (Nat.toDigits 10 n) places = cs at hname
  split
  case h_5 => rfl
  all_goals
    next h =>
    have hcs := congrArg String.toList h
    rw [String.toList_ofList] at hcs
    rw [hcs] at hname
    exact absurd (by decide) hname

/-- A number is read from its sign and its digits with a point. -/
theorem Datum.ofText?_positional (negative : Bool) (n : Fin (10 ^ 34)) {places : Nat}
    (h : places ≤ 6176) :
    ofText? (String.ofList (Numeral.signed negative
        (Numeral.positional (Nat.toDigits 10 n) places))) =
      some (.finite negative n (-places) (by omega) (by omega)) := by
  have hsign := Numeral.takeSign_signed negative (Numeral.isDigit_toDigits n) places []
  rw [List.append_nil] at hsign
  rw [ofText?, String.toList_ofList, hsign]
  exact (unsigned?_positional negative n places).trans (finite?_positional negative n h)

end Decimal128

end RecordStore
