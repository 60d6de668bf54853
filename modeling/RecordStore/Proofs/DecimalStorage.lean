import RecordStore.Proofs.ReadBack
import RecordStore.Records.Amount
/-!
# Loading stored decimals

A stored decimal is loaded through its text, by a reader of digits with a point or, where the text
has an exponent, by one that multiplies out. What comes of it is a calculation on the coefficient
and the exponent. For what a decimal is stored as it gives the decimal back: with an exponent,
there is one digit before the point, and the digits behind it and the power of ten make up the
scale again.

## Main definitions

* `Decimal.load`, `Decimal.ofDatum?`: loading as a calculation.

## Main results

* `Decimal.ofDecimal128?_eq`: loading through the text is the calculation.
* `Decimal.stored_and_loaded`: a decimal is stored and loaded as it was.
-/

namespace RecordStore

namespace Decimal

/-! ### Loading as a calculation -/

/-- Mantissa and scale of the finite number `coefficient * 10 ^ exponent`. A number that
is written with an exponent is loaded from its one digit before the point and then
multiplied out. -/
def load (coefficient : Nat) (exponent : Int) : Except Fault (Nat × Nat) :=
  let digits := (Nat.toDigits 10 coefficient).length
  let leading := exponent + digits - 1
  if exponent ≤ 0 ∧ -6 ≤ leading then
    match fit? 0 coefficient (-exponent).toNat with
    | some loaded => .ok loaded
    | none => .error .unreadable
  else
    match fit? 0 coefficient (digits - 1) with
    | some (mantissa, scale) => scaled mantissa scale leading
    | none => .error .unreadable

/-- The decimal that a datum loads as. -/
def ofDatum? : Decimal128.Datum → Except Fault Decimal
  | .finite negative coefficient exponent _ _ => do
    let (mantissa, scale) ← load coefficient exponent
    match ofSigned? negative mantissa scale with
    | some d => .ok d
    | none => .error .unreadable
  | .infinity _ => .error .unreadable
  | .nan _ _ => .error .unreadable

/-! ### Loading through the text -/

theorem digits?_positional (n places : Nat) :
    digits? (Numeral.positional (Nat.toDigits 10 n) places) = fit? 0 n places := by
  rw [digits?, Numeral.pointed?_positional]
  rfl

theorem not_marksExponent {c : Char} (h : c.isDigit = true ∨ c = '.') :
    (!marksExponent c) = true := by
  have hlower : c ≠ 'e' := by
    rintro rfl
    exact absurd h (by decide)
  have hupper : c ≠ 'E' := by
    rintro rfl
    exact absurd h (by decide)
  simp [marksExponent, hlower, hupper]

/-- The first reader takes digits with a point. -/
theorem ofText?_positional (negative : Bool) (n places : Nat) :
    ofText? (String.ofList (Numeral.signed negative
        (Numeral.positional (Nat.toDigits 10 n) places))) =
      (fit? 0 n places).bind fun loaded => ofSigned? negative loaded.1 loaded.2 := by
  have hsign := Numeral.takeSign_signed negative (Numeral.isDigit_toDigits n) places []
  rw [List.append_nil] at hsign
  rw [ofText?, String.toList_ofList, hsign, ← digits?_positional]
  rfl

/-- The second reader refuses them. -/
theorem ofScientific_positional (negative : Bool) (n places : Nat) :
    ofScientific (String.ofList (Numeral.signed negative
        (Numeral.positional (Nat.toDigits 10 n) places))) = .error .unreadable := by
  have hsign := Numeral.takeSign_signed negative (Numeral.isDigit_toDigits n) places []
  have hbase := Numeral.takeWhile_positional (fun _ => not_marksExponent) n places []
  rw [List.takeWhile_nil] at hbase
  rw [ofScientific, String.toList_ofList, ← List.append_nil (Numeral.positional _ _), hsign]
  simp only [hbase, List.drop_length]

/-- The first reader refuses an exponent. -/
theorem ofText?_scientific (negative : Bool) (n : Nat) (leading : Int) :
    ofText? (String.ofList (Numeral.signed negative
        (Decimal128.scientific (Nat.toDigits 10 n) leading))) = none := by
  have hsign := Numeral.takeSign_signed negative (Numeral.isDigit_toDigits n)
    ((Nat.toDigits 10 n).length - 1) ('E' :: Numeral.power leading)
  have hnone : Numeral.pointed? (Decimal128.scientific (Nat.toDigits 10 n) leading) = none :=
    Numeral.pointed?_eq_none_of_mem (List.mem_append_right _ List.mem_cons_self) (by decide) rfl
  rw [ofText?, String.toList_ofList]
  rw [Decimal128.scientific] at hnone ⊢
  rw [hsign]
  simp only [digits?, hnone, Option.bind_eq_bind, Option.bind_none]

/-- The second reader multiplies out what the first one reads in front of the exponent. -/
theorem ofScientific_scientific (negative : Bool) (n : Nat) {leading : Int}
    (h : leading.natAbs < 2 ^ 32) :
    ofScientific (String.ofList (Numeral.signed negative
        (Decimal128.scientific (Nat.toDigits 10 n) leading))) =
      match fit? 0 n ((Nat.toDigits 10 n).length - 1) with
      | some (mantissa, scale) => do
        let (mantissa, scale) ← scaled mantissa scale leading
        match ofSigned? negative mantissa scale with
        | some d => .ok d
        | none => .error .unreadable
      | none => .error .unreadable := by
  have hsign := Numeral.takeSign_signed negative (Numeral.isDigit_toDigits n)
    ((Nat.toDigits 10 n).length - 1) ('E' :: Numeral.power leading)
  have hbase := Numeral.takeWhile_positional (fun _ => not_marksExponent) n
    ((Nat.toDigits 10 n).length - 1) ('E' :: Numeral.power leading)
  have hmark : ('E' :: Numeral.power leading).takeWhile (fun c => !marksExponent c) = [] := rfl
  rw [hmark, List.append_nil] at hbase
  rw [ofScientific, String.toList_ofList, Decimal128.scientific, hsign]
  simp only [hbase, List.drop_left, digits?_positional, Numeral.power?_power h]
  cases fit? 0 n ((Nat.toDigits 10 n).length - 1) <;> rfl

/-- Loading through the text is the calculation. -/
theorem ofDecimal128?_eq (stored : Decimal128) : ofDecimal128? stored = ofDatum? stored.datum := by
  rw [ofDecimal128?, Decimal128.text]
  -- no name is read, and of the two notations of a number each is left to one reader
  cases stored.datum with
  | nan negative signalling =>
    have hread : ofText? "NaN" = none := by decide
    rw [Decimal128.Datum.text, hread]
    rfl
  | infinity negative =>
    have hread : ofText? "Infinity" = none ∧ ofText? "-Infinity" = none := by decide
    cases negative with
    | true =>
      rw [Decimal128.Datum.text, if_pos rfl, hread.2]
      rfl
    | false =>
      rw [Decimal128.Datum.text, if_neg Bool.false_ne_true, hread.1]
      rfl
  | finite negative coefficient exponent hlow hhigh =>
    have hdigits : (Nat.toDigits 10 coefficient.val).length ≤ 34 :=
      (Nat.length_toDigits_le_iff (by decide) (by decide)).2 coefficient.isLt
    rw [Decimal128.Datum.text, Decimal128.unsignedText, ofDatum?, load]
    by_cases hpositional :
        exponent ≤ 0 ∧ -6 ≤ exponent + (Nat.toDigits 10 coefficient.val).length - 1
    · simp only [if_pos hpositional, ofText?_positional, ofScientific_positional]
      cases fit? 0 coefficient.val (-exponent).toNat with
      | none => rfl
      | some loaded =>
        change (match ofSigned? negative loaded.1 loaded.2 with
          | some d => Except.ok d
          | none => Except.error Fault.unreadable) = _
        rfl
    · simp only [if_neg hpositional, ofText?_scientific]
      rw [ofScientific_scientific negative coefficient.val (by omega)]
      cases fit? 0 coefficient.val ((Nat.toDigits 10 coefficient.val).length - 1) <;> rfl

/-! ### What was stored -/

/-- Digits that fit are all kept. -/
theorem fit?_of_le {mantissa scale : Nat} (hmantissa : mantissa < 2 ^ 96) (hscale : scale ≤ 28) :
    fit? 0 mantissa scale = some (mantissa, scale) := by
  cases scale with
  | zero => rw [fit?, if_pos hmantissa, rounded?, if_pos (by decide)]
  | succ scale => rw [fit?, if_pos ⟨hscale, hmantissa⟩, rounded?, if_pos (by decide)]

/-- A negative power that leads to a possible scale only moves the point. -/
theorem scaled_of_le {mantissa scale : Nat} {power : Int} (hneg : power < 0)
    (h : scale + power.natAbs ≤ 28) :
    scaled mantissa scale power = .ok (mantissa, scale + power.natAbs) := by
  rw [scaled, if_neg (by omega), if_pos hneg, Nat.sub_eq_zero_of_le h, dropDigits,
    Nat.min_eq_right h]

/-- A mantissa over a scale is loaded as it is, whether the point or an exponent shows the
scale. -/
theorem load_of_le {mantissa scale : Nat} (hmantissa : mantissa < 2 ^ 96) (hscale : scale ≤ 28) :
    load mantissa (-scale) = .ok (mantissa, scale) := by
  have hpos : 0 < (Nat.toDigits 10 mantissa).length := Nat.length_toDigits_pos
  have hlength : (Nat.toDigits 10 mantissa).length ≤ 29 :=
    (Nat.length_toDigits_le_iff (by decide) (by decide)).2 (Nat.lt_trans hmantissa (by decide))
  rw [load]
  generalize (Nat.toDigits 10 mantissa).length = digits at hpos hlength
  by_cases hpositional : -(scale : Int) ≤ 0 ∧ -6 ≤ -(scale : Int) + digits - 1
  · simp only [if_pos hpositional, Int.neg_neg, Int.toNat_natCast, fit?_of_le hmantissa hscale]
  · -- one digit stands before the point, and the power makes up for the places it is short of
    have hleading : -(scale : Int) + digits - 1 < 0 := by omega
    have hsum : digits - 1 + (-(scale : Int) + digits - 1).natAbs = scale := by omega
    simp only [if_neg hpositional, fit?_of_le hmantissa (show digits - 1 ≤ 28 by omega)]
    rw [scaled_of_le hleading (by omega), hsum]

theorem ofSigned?_natAbs (d : Decimal) :
    ofSigned? (decide (d.mantissa < 0)) d.mantissa.natAbs d.scale = some d := by
  have hmantissa : (if decide (d.mantissa < 0) then -(d.mantissa.natAbs : Int)
      else d.mantissa.natAbs) = d.mantissa := by
    split
    · next h =>
      have h := of_decide_eq_true h
      omega
    · next h =>
      have h : ¬d.mantissa < 0 := fun hneg => h (decide_eq_true hneg)
      omega
  rw [ofSigned?, hmantissa, ofParts?, dif_pos ⟨d.mantissa_lt, d.scale_le⟩]

/-- The datum of a decimal is loaded as the decimal. -/
theorem ofDatum?_datum (d : Decimal) : ofDatum? d.datum = .ok d := by
  rw [datum, ofDatum?]
  simp only [load_of_le d.mantissa_lt d.scale_le]
  change (match ofSigned? (decide (d.mantissa < 0)) d.mantissa.natAbs d.scale with
    | some d => Except.ok d
    | none => Except.error Fault.unreadable) = _
  rw [ofSigned?_natAbs]

theorem toDecimal128_eq (d : Decimal) : d.toDecimal128 = .canonical d.datum := by
  simp only [toDecimal128, ofText?_text, Option.get_some]

theorem ofDecimal128?_toDecimal128 (d : Decimal) : ofDecimal128? d.toDecimal128 = .ok d := by
  rw [ofDecimal128?_eq, toDecimal128_eq]
  exact ofDatum?_datum d

end Decimal

namespace Value

theorem exact_decimal (stored : Decimal128) : exact (decimal stored) = loadExact stored := by
  have hself : interpret (decimal stored) = .ok (decimal stored) := by simp only [interpret]
  rw [exact, hself]
  rfl

@[simp] theorem exact_ofExact (d : Decimal) : exact (ofExact d) = .ok d := by
  rw [ofExact, exact_decimal, loadExact, Decimal.ofDecimal128?_toDecimal128]

@[simp] theorem exactOrNull_ofExact? (o : Option Decimal) : exactOrNull (ofExact? o) = .ok o := by
  cases o with
  | none => rfl
  | some d =>
    change (exact (ofExact d)).map some = _
    rw [exact_ofExact]
    rfl

end Value

theorem Amount.decode_toDocument (a : Amount) : Amount.decode a.toDocument = .ok a := by
  refine Document.decode_of_members (List.nodup_singleton "value") ?_
  simp [toDocument, List.lookup_cons, Except.map]

theorem OptionalAmount.decode_toDocument (a : OptionalAmount) :
    OptionalAmount.decode a.toDocument = .ok a := by
  refine Document.decode_of_members (List.nodup_singleton "value") ?_
  simp [toDocument, List.lookup_cons, Except.map]

/-- **Storing exact decimals.** The text of a decimal is always one of a stored decimal, which is
what the decimal is written as, and from it the decimal is read again with its mantissa and its
scale. A decimal that may be absent is read again too, and none is written as null. The same holds
of the documents around them. -/
theorem Decimal.stored_and_loaded (d : Decimal) (o : Option Decimal) :
    (∃ stored, Decimal128.ofText? d.text = some stored ∧ Value.ofExact d = .decimal stored ∧
      Decimal.ofDecimal128? stored = .ok d ∧ Value.exact (.decimal stored) = .ok d) ∧
    Value.ofExact? (some d) = Value.ofExact d ∧ Value.ofExact? none = .null ∧
    Value.exactOrNull (.ofExact? o) = .ok o ∧
    Amount.decode (Amount.toDocument ⟨d⟩) = .ok ⟨d⟩ ∧
    OptionalAmount.decode (OptionalAmount.toDocument ⟨o⟩) = .ok ⟨o⟩ := by
  have htext : Decimal128.ofText? d.text = some d.toDecimal128 := by
    rw [Decimal.toDecimal128_eq, Decimal.ofText?_text]
  exact ⟨⟨d.toDecimal128, htext, rfl, d.ofDecimal128?_toDecimal128, Value.exact_ofExact d⟩,
    rfl, rfl, Value.exactOrNull_ofExact? o, Amount.decode_toDocument ⟨d⟩,
    OptionalAmount.decode_toDocument ⟨o⟩⟩

example : (Decimal.toDecimal128 ⟨100, 9, by decide, by decide⟩).text = "1.00E-7" := by decide

end RecordStore
