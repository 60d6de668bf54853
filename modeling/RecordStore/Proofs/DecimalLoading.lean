import Mathlib.Algebra.Order.Field.Power
import RecordStore.Proofs.DecimalFitting
import RecordStore.Proofs.DecimalStorage
/-!
# What loading a decimal keeps

A stored decimal has more digits and a wider range than the decimal it is loaded as. A number that
is too large is refused, and so is one whose first digit stands behind the last place. But digits
behind the point are lost without a word, and what is loaded is less than one unit of its last place
off. So loading is faithful exactly where the number is a decimal or is refused.

## Main definitions

* `Decimal.value`, `Decimal128.Datum.value?`: the numbers that are meant.
* `Decimal.Loads`: the three ways in which digits are loaded.
* `Decimal128.Datum.InReach`: the numbers that are not refused.
* `Decimal.LoadsFaithfully`: nothing else than the number is loaded.

## Main results

* `Decimal.load_eq_ok_iff`, `Decimal.exists_loads_iff`: what is loaded, and when.
* `Decimal.Loads.exact`, `Decimal.Loads.error`: what is lost.
* `Decimal.loadsFaithfully_iff`: when loading is faithful.
-/

namespace RecordStore

/-- The number that a decimal is. -/
def Decimal.value (d : Decimal) : ℚ :=
  d.mantissa / 10 ^ d.scale

namespace Decimal128.Datum

/-- The sign as a factor. -/
def sign (negative : Bool) : ℚ :=
  if negative then -1 else 1

/-- The number that a datum is, if it is one. -/
def value? : Datum → Option ℚ
  | finite negative coefficient exponent _ _ =>
    some (sign negative * ((coefficient : Nat) * 10 ^ exponent))
  | infinity _ => none
  | nan _ _ => none

theorem abs_sign (negative : Bool) : |sign negative| = 1 := by
  cases negative <;> simp [sign]

/-- Distances of numbers of one sign are those of their magnitudes. -/
theorem abs_sign_mul_sub (negative : Bool) (p q : ℚ) :
    |sign negative * p - sign negative * q| = |p - q| := by
  rw [← mul_sub, abs_mul, abs_sign, one_mul]

end Decimal128.Datum

namespace Decimal

/-! ### The first digit -/

/-- The power of ten of the first digit. -/
def leading (c : Nat) : Nat :=
  (Nat.toDigits 10 c).length - 1

theorem length_toDigits (c : Nat) : (Nat.toDigits 10 c).length = leading c + 1 :=
  (Nat.succ_pred_eq_of_pos Nat.length_toDigits_pos).symm

theorem lt_pow_leading (c : Nat) : c < 10 ^ (leading c + 1) :=
  (Nat.length_toDigits_le_iff (by decide) (by omega)).1 (length_toDigits c).le

theorem pow_leading_le {c : Nat} (hc : c ≠ 0) : 10 ^ leading c ≤ c := by
  obtain hzero | hpos := Nat.eq_zero_or_pos (leading c)
  · rw [hzero]
    exact Nat.pos_of_ne_zero hc
  · have hlength := length_toDigits c
    rw [← Nat.not_lt, ← Nat.length_toDigits_le_iff (by decide) hpos]
    omega

/-- With the point behind the first digit, the others can be dropped. -/
theorem exists_fit?_leading (c : Nat) : ∃ p, fit? 0 c (leading c) = some p := by
  have hlt := lt_pow_leading c
  have hfits : fit? 0 c (leading c) ≠ none := by
    rw [Ne, fit?_eq_none_iff (by decide)]
    omega
  exact Option.ne_none_iff_exists'.1 hfits

/-! ### The ways of loading -/

/-- The text of a number has no exponent, a negative one that no digit makes up for, or a positive
one, and from this text the digits are loaded. -/
inductive Loads (c : Nat) : Int → Nat → Nat → Prop
  /-- The digits are fitted. -/
  | pointed {places m s : Nat} (hplaces : places ≤ leading c + 6)
      (hfit : fit? 0 c places = some (m, s)) : Loads c (-places) m s
  /-- The digits behind the first one are fitted, and what comes to stand behind the last place is
  dropped. -/
  | small {power m s : Nat} (hlow : 7 ≤ power) (hhigh : power ≤ 28)
      (hfit : fit? 0 c (leading c) = some (m, s)) :
      Loads c (-(leading c + power : Nat)) (dropDigits m (s + power - 28)) (min 28 (s + power))
  /-- The zeros are written out. -/
  | large {power : Nat} (hpos : 0 < power) (hhigh : leading c + power ≤ 28)
      (hlt : c * 10 ^ power < 2 ^ 96) : Loads c power (c * 10 ^ power) 0

theorem exponent_cases (c : Nat) (exponent : Int) :
    (∃ places : Nat, places ≤ leading c + 6 ∧ exponent = -places) ∨
    (∃ power : Nat, 7 ≤ power ∧ exponent = -(leading c + power : Nat)) ∨
    ∃ power : Nat, 0 < power ∧ exponent = power := by
  by_cases hpos : 0 < exponent
  · exact .inr (.inr ⟨exponent.toNat, by omega, by omega⟩)
  · by_cases hplaces : exponent.natAbs ≤ leading c + 6
    · exact .inl ⟨exponent.natAbs, hplaces, by omega⟩
    · exact .inr (.inl ⟨exponent.natAbs - leading c, by omega, by omega⟩)

theorem load_pointed {c places : Nat} (h : places ≤ leading c + 6) :
    load c (-places) = (fit? 0 c places).elim (.error .unreadable) .ok := by
  rw [load, length_toDigits, if_pos (by omega), Int.neg_neg, Int.toNat_natCast]
  cases fit? 0 c places <;> rfl

theorem load_small {c power m s : Nat} (h : 7 ≤ power) (hfit : fit? 0 c (leading c) = some (m, s)) :
    load c (-(leading c + power : Nat)) =
      if power ≤ 28 then .ok (dropDigits m (s + power - 28), min 28 (s + power))
      else .error (.scaleTooLarge power) := by
  have hpower : -((leading c + power : Nat) : Int) + (leading c + 1 : Nat) - 1 = -power := by omega
  rw [load, length_toDigits, if_neg (by omega), Nat.add_sub_cancel, hfit, hpower]
  dsimp only
  rw [scaled, Int.natAbs_neg, Int.natAbs_natCast]
  by_cases hhigh : power ≤ 28
  · rw [if_neg (by omega), if_pos (by omega), if_pos hhigh]
  · rw [if_pos (by omega), if_neg hhigh]

theorem load_large {c power : Nat} (h : 0 < power) :
    load c power =
      if 28 < leading c + power then .error (.scaleTooLarge (leading c + power))
      else if c * 10 ^ power < 2 ^ 96 then .ok (c * 10 ^ power, 0)
      else .error .tooLarge := by
  have hpower : (power : Int) + (leading c + 1 : Nat) - 1 = (leading c + power : Nat) := by omega
  obtain ⟨⟨m, s⟩, hfit⟩ := exists_fit?_leading c
  rw [load, length_toDigits, if_neg (by omega), Nat.add_sub_cancel, hfit, hpower]
  dsimp only
  rw [scaled, Int.natAbs_natCast]
  by_cases hlarge : 28 < leading c + power
  · rw [if_pos hlarge, if_pos hlarge]
  · -- so few digits are all kept
    have hc : c < 2 ^ 96 := calc
      c < 10 ^ (leading c + 1) := lt_pow_leading c
      _ ≤ 10 ^ 28 := Nat.pow_le_pow_right (by decide) (by omega)
      _ < 2 ^ 96 := by decide
    rw [fit?_of_le hc (by omega)] at hfit
    cases hfit
    rw [if_neg hlarge, if_neg hlarge, if_neg (by omega), if_neg (by omega), Nat.add_sub_cancel_left]

theorem load_eq_ok_iff {c : Nat} {exponent : Int} {m s : Nat} :
    load c exponent = .ok (m, s) ↔ Loads c exponent m s := by
  constructor
  · intro h
    obtain ⟨places, hplaces, rfl⟩ | ⟨power, hlow, rfl⟩ | ⟨power, hpos, rfl⟩ :=
      exponent_cases c exponent
    · rw [load_pointed hplaces] at h
      cases hfit : fit? 0 c places with
      | none =>
        rw [hfit] at h
        cases h
      | some loaded =>
        rw [hfit] at h
        cases h
        exact .pointed hplaces hfit
    · obtain ⟨⟨m₀, s₀⟩, hfit⟩ := exists_fit?_leading c
      rw [load_small hlow hfit] at h
      split_ifs at h with hhigh
      cases h
      exact .small hlow hhigh hfit
    · rw [load_large hpos] at h
      split_ifs at h with hlarge hlt
      cases h
      exact .large hpos (Nat.le_of_not_lt hlarge) hlt
  · intro h
    cases h with
    | pointed hplaces hfit => rw [load_pointed hplaces, hfit, Option.elim_some]
    | small hlow hhigh hfit => rw [load_small hlow hfit, if_pos hhigh]
    | large hpos hhigh hlt => rw [load_large hpos, if_neg (Nat.not_lt.2 hhigh), if_pos hlt]

/-! ### What is lost -/

theorem mul_zpow_neg (c n : Nat) : (c : ℚ) * 10 ^ (-(n : Int)) = c / 10 ^ n := by
  rw [zpow_neg, zpow_natCast, div_eq_mul_inv]

theorem mul_zpow (c n : Nat) : (c : ℚ) * 10 ^ (n : Int) = (c * 10 ^ n : Nat) := by
  rw [zpow_natCast, Nat.cast_mul, Nat.cast_pow, Nat.cast_ofNat]

namespace Loads

variable {c m s : Nat} {exponent : Int}

theorem inRange (h : Loads c exponent m s) : InRange m s := by
  cases h with
  | pointed _ hfit => exact inRange_of_fit? hfit
  | small _ _ hfit =>
    exact ⟨Nat.lt_of_le_of_lt (dropDigits_le _ _) (inRange_of_fit? hfit).1, Nat.min_le_left _ _⟩
  | large _ _ hlt => exact ⟨hlt, Nat.zero_le _⟩

/-- What is loaded is less than one unit of its last place off. -/
theorem error (h : Loads c exponent m s) :
    |(m : ℚ) / 10 ^ s - c * 10 ^ exponent| < 1 / 10 ^ s := by
  cases h with
  | pointed _ hfit =>
    rw [mul_zpow_neg]
    exact (fit?_error hfit).trans_lt (half_unit_lt _)
  | @small power m s _ _ hfit =>
    rw [mul_zpow_neg]
    refine abs_cut_sub_lt ?_
    -- moving the point moves the error
    have hmoved : |((m : ℚ) / 10 ^ s - c / 10 ^ leading c) / 10 ^ power| ≤
        (1 / 2) / 10 ^ s / 10 ^ power := by
      rw [abs_div, abs_of_pos (show (0 : ℚ) < 10 ^ power by positivity)]
      gcongr
      exact fit?_error hfit
    rwa [sub_div, div_div, div_div, div_div, ← pow_add, ← pow_add] at hmoved
  | large _ _ _ =>
    rw [mul_zpow, pow_zero, div_one, sub_self, abs_zero, div_one]
    exact one_pos

/-- A number in range is in range with the point behind the first digit too. -/
theorem exists_inRange_leading {power m₀ s₀ : Nat} (hrange : InRange m₀ s₀)
    (heq : (m₀ : ℚ) / 10 ^ s₀ = c / 10 ^ (leading c + power)) :
    ∃ m₁ s₁, InRange m₁ s₁ ∧ (m₁ : ℚ) / 10 ^ s₁ = c / 10 ^ leading c := by
  obtain ⟨hlt, hle⟩ := hrange
  rw [pow_add, ← div_div, eq_div_iff (by positivity)] at heq
  obtain hplaces | hplaces := Nat.le_total power s₀
  · obtain ⟨k, rfl⟩ := Nat.exists_eq_add_of_le hplaces
    refine ⟨m₀, k, ⟨hlt, by omega⟩, ?_⟩
    rw [← heq, pow_add]
    field_simp
  · -- the first digit is all there is
    obtain ⟨k, rfl⟩ := Nat.exists_eq_add_of_le hplaces
    have hwhole : ((m₀ * 10 ^ k : Nat) : ℚ) = c / 10 ^ leading c := by
      rw [← heq, pow_add]
      push_cast
      field_simp
    have hdigit : ((m₀ * 10 ^ k : Nat) : ℚ) < (10 : Nat) := by
      rw [hwhole, div_lt_iff₀ (by positivity)]
      have hc := lt_pow_leading c
      rw [Nat.pow_succ'] at hc
      exact_mod_cast hc
    refine ⟨m₀ * 10 ^ k, 0, ⟨?_, Nat.zero_le _⟩, by rw [hwhole, pow_zero, div_one]⟩
    exact (Nat.cast_lt.1 hdigit).trans (by decide)

/-- A number in range is loaded as it is. -/
theorem exact {m₀ s₀ : Nat} (hrange : InRange m₀ s₀)
    (heq : (m₀ : ℚ) / 10 ^ s₀ = c * 10 ^ exponent) (h : Loads c exponent m s) :
    (m : ℚ) / 10 ^ s = c * 10 ^ exponent := by
  cases h with
  | pointed _ hfit =>
    rw [mul_zpow_neg] at heq ⊢
    exact fit?_exact hrange heq hfit
  | @small power m s _ _ hfit =>
    rw [mul_zpow_neg] at heq ⊢
    obtain ⟨m₁, s₁, hrange₁, heq₁⟩ := exists_inRange_leading hrange heq
    have hmoved : (m : ℚ) / 10 ^ (s + power) = c / 10 ^ (leading c + power) := by
      rw [pow_add, pow_add, ← div_div, ← div_div, fit?_exact hrange₁ heq₁ hfit]
    rw [← hmoved] at heq ⊢
    exact cut_exact hrange.2 heq
  | large _ _ _ => rw [mul_zpow, pow_zero, div_one]

end Loads

/-! ### What is refused -/

/-- The numbers that are not refused: zero where its exponent has no more places than there are,
and any other number that neither rounds to too many digits nor starts behind the last place. -/
def InReach (c : Nat) (exponent : Int) : Prop :=
  (c = 0 ∧ exponent.natAbs ≤ 28) ∨
    ((1 : ℚ) / 10 ^ 28 ≤ c * 10 ^ exponent ∧ (c : ℚ) * 10 ^ exponent < 2 ^ 96 - 1 / 2)

theorem leading_zero : leading 0 = 0 :=
  rfl

/-- The first digit reaches the last place. -/
theorem unit_le_div_pow_iff {c n : Nat} (hc : c ≠ 0) :
    (1 : ℚ) / 10 ^ 28 ≤ c / 10 ^ n ↔ n ≤ leading c + 28 := by
  have hcast : (1 : ℚ) / 10 ^ 28 ≤ c / 10 ^ n ↔ 10 ^ n ≤ c * 10 ^ 28 := by
    rw [div_le_div_iff₀ (by positivity) (by positivity), one_mul]
    norm_cast
  rw [hcast]
  constructor
  · intro h
    have hlt : 10 ^ n < 10 ^ (leading c + 1 + 28) := calc
      10 ^ n ≤ c * 10 ^ 28 := h
      _ < 10 ^ (leading c + 1) * 10 ^ 28 :=
        Nat.mul_lt_mul_of_pos_right (lt_pow_leading c) (by decide)
      _ = 10 ^ (leading c + 1 + 28) := (Nat.pow_add _ _ _).symm
    have hn := (Nat.pow_lt_pow_iff_right (by decide)).1 hlt
    omega
  · intro h
    calc 10 ^ n ≤ 10 ^ (leading c + 28) := Nat.pow_le_pow_right (by decide) h
      _ = 10 ^ leading c * 10 ^ 28 := Nat.pow_add _ _ _
      _ ≤ c * 10 ^ 28 := Nat.mul_le_mul_right _ (pow_leading_le hc)

theorem div_pow_lt_iff {c n : Nat} :
    (c : ℚ) / 10 ^ n < 2 ^ 96 - 1 / 2 ↔ 2 * (10 * c) < (2 ^ 97 - 1) * 10 ^ (n + 1) := by
  rw [div_lt_iff₀ (by positivity), ← Nat.cast_lt (α := ℚ), pow_succ _ n]
  push_cast
  constructor <;> intro h <;> linarith

theorem cast_lt_iff {n : Nat} : (n : ℚ) < 2 ^ 96 - 1 / 2 ↔ n < 2 ^ 96 := by
  constructor
  · intro h
    have hlt : (n : ℚ) < (2 ^ 96 : Nat) := by
      push_cast
      linarith
    exact Nat.cast_lt.1 hlt
  · intro h
    have hle : ((n + 1 : Nat) : ℚ) ≤ (2 ^ 96 : Nat) := Nat.cast_le.2 h
    push_cast at hle
    linarith

theorem leading_add_le {c n : Nat} (hc : c ≠ 0) (h : c * 10 ^ n < 2 ^ 96) :
    leading c + n ≤ 28 := by
  have hlt : 10 ^ (leading c + n) < 10 ^ 29 := calc
    10 ^ (leading c + n) = 10 ^ leading c * 10 ^ n := Nat.pow_add _ _ _
    _ ≤ c * 10 ^ n := Nat.mul_le_mul_right _ (pow_leading_le hc)
    _ < 2 ^ 96 := h
    _ < 10 ^ 29 := by decide
  exact Nat.le_of_lt_succ ((Nat.pow_lt_pow_iff_right (by decide)).1 hlt)

theorem inReach_neg_iff {c n : Nat} :
    InReach c (-n) ↔ n ≤ leading c + 28 ∧ 2 * (10 * c) < (2 ^ 97 - 1) * 10 ^ (n + 1) := by
  rw [InReach, mul_zpow_neg]
  by_cases hc : c = 0
  · rw [hc, Nat.cast_zero, zero_div, leading_zero]
    simp
  · rw [unit_le_div_pow_iff hc, div_pow_lt_iff]
    simp [hc]

theorem inReach_pos_iff {c n : Nat} :
    InReach c n ↔ leading c + n ≤ 28 ∧ c * 10 ^ n < 2 ^ 96 := by
  rw [InReach, mul_zpow, cast_lt_iff]
  by_cases hc : c = 0
  · rw [hc, Nat.zero_mul, Nat.cast_zero, leading_zero]
    simp
  · have hlow : (1 : ℚ) / 10 ^ 28 ≤ (c * 10 ^ n : Nat) := calc
      (1 : ℚ) / 10 ^ 28 ≤ 1 := by norm_num
      _ ≤ (c * 10 ^ n : Nat) :=
        Nat.one_le_cast.2 (Nat.mul_pos (Nat.pos_of_ne_zero hc) (by positivity))
    simp only [hc, false_and, false_or, hlow, true_and]
    exact ⟨fun h => ⟨leading_add_le hc h, h⟩, fun h => h.2⟩

theorem exists_loads_iff {c : Nat} {exponent : Int} :
    (∃ m s, Loads c exponent m s) ↔ InReach c exponent := by
  simp only [← load_eq_ok_iff]
  obtain ⟨places, hplaces, rfl⟩ | ⟨power, hlow, rfl⟩ | ⟨power, hpos, rfl⟩ :=
    exponent_cases c exponent
  · have hnone := fit?_eq_none_iff (d := 0) (m := c) (s := places) (by decide)
    rw [load_pointed hplaces, inReach_neg_iff]
    cases hfit : fit? 0 c places with
    | none =>
      refine iff_of_false (by simp) ?_
      have hlarge := hnone.1 hfit
      omega
    | some loaded =>
      refine iff_of_true ⟨loaded.1, loaded.2, rfl⟩ ⟨by omega, ?_⟩
      by_contra hlarge
      rw [hnone.2 (Nat.le_of_not_lt hlarge)] at hfit
      cases hfit
  · obtain ⟨⟨m, s⟩, hfit⟩ := exists_fit?_leading c
    have hc : 2 * (10 * c) < (2 ^ 97 - 1) * 10 ^ (leading c + power + 1) := calc
      2 * (10 * c) < 20 * 10 ^ (leading c + 1) := by
        have hlt := lt_pow_leading c
        omega
      _ ≤ (2 ^ 97 - 1) * 10 ^ (leading c + power + 1) :=
        Nat.mul_le_mul (by decide) (Nat.pow_le_pow_right (by decide) (by omega))
    rw [load_small hlow hfit, inReach_neg_iff, Nat.add_le_add_iff_left]
    by_cases hhigh : power ≤ 28
    · rw [if_pos hhigh]
      exact iff_of_true ⟨_, _, rfl⟩ ⟨hhigh, hc⟩
    · rw [if_neg hhigh]
      exact iff_of_false (by simp) (fun h => hhigh h.1)
  · rw [load_large hpos, inReach_pos_iff]
    split_ifs with hlarge hlt
    · exact iff_of_false (by simp) (fun h => Nat.not_le.2 hlarge h.1)
    · exact iff_of_true ⟨_, _, rfl⟩ ⟨Nat.le_of_not_lt hlarge, hlt⟩
    · exact iff_of_false (by simp) (fun h => hlt h.2)

/-! ### Faithful loading -/

theorem ofSigned?_of_inRange {m s : Nat} (negative : Bool) (h : InRange m s) :
    ∃ d, ofSigned? negative m s = some d ∧ d.scale = s ∧
      d.value = Decimal128.Datum.sign negative * (m / 10 ^ s) := by
  have hmantissa : (if negative then -(m : Int) else m).natAbs = m := by
    cases negative <;> simp
  refine ⟨⟨if negative then -(m : Int) else m, s, by rw [hmantissa]; exact h.1, h.2⟩, ?_, rfl, ?_⟩
  · rw [ofSigned?, ofParts?, dif_pos ⟨by rw [hmantissa]; exact h.1, h.2⟩]
  · cases negative <;> simp [value, Decimal128.Datum.sign, neg_div]

section Finite

variable {negative : Bool} {coefficient : Fin (10 ^ 34)} {exponent : Int}
  {hlow : -6176 ≤ exponent} {hhigh : exponent ≤ 6111}

/-- A finite datum is loaded from its digits and takes its sign. -/
theorem exists_ofDatum?_of_loads {m s : Nat} (h : Loads coefficient exponent m s) :
    ∃ d, ofDatum? (.finite negative coefficient exponent hlow hhigh) = .ok d ∧ d.scale = s ∧
      d.value = Decimal128.Datum.sign negative * (m / 10 ^ s) := by
  obtain ⟨d, hd, hscale, hvalue⟩ := ofSigned?_of_inRange negative h.inRange
  refine ⟨d, ?_, hscale, hvalue⟩
  simp only [ofDatum?, load_eq_ok_iff.2 h, bind, Except.bind, hd]

theorem exists_loads_of_ofDatum? {d : Decimal}
    (h : ofDatum? (.finite negative coefficient exponent hlow hhigh) = .ok d) :
    ∃ m, Loads coefficient exponent m d.scale ∧
      d.value = Decimal128.Datum.sign negative * (m / 10 ^ d.scale) := by
  cases hload : load coefficient exponent with
  | error fault =>
    rw [ofDatum?, hload] at h
    cases h
  | ok loaded =>
    obtain ⟨m, s⟩ := loaded
    have hloads := load_eq_ok_iff.1 hload
    obtain ⟨d', hd', rfl, hvalue⟩ := @exists_ofDatum?_of_loads negative _ _ hlow hhigh _ _ hloads
    cases hd'.symm.trans h
    exact ⟨m, hloads, hvalue⟩

end Finite

end Decimal

namespace Decimal128.Datum

/-- The data that are not refused. -/
def InReach : Datum → Prop
  | finite _ coefficient exponent _ _ => Decimal.InReach coefficient exponent
  | infinity _ => False
  | nan _ _ => False

theorem exists_ofDatum?_iff (x : Datum) : (∃ d, Decimal.ofDatum? x = .ok d) ↔ x.InReach := by
  cases x with
  | finite negative coefficient exponent hlow hhigh =>
    rw [InReach, ← Decimal.exists_loads_iff]
    constructor
    · rintro ⟨d, hd⟩
      obtain ⟨m, hloads, -⟩ := Decimal.exists_loads_of_ofDatum? hd
      exact ⟨m, d.scale, hloads⟩
    · rintro ⟨m, s, hloads⟩
      obtain ⟨d, hd, -⟩ := Decimal.exists_ofDatum?_of_loads hloads
      exact ⟨d, hd⟩
  | infinity negative => exact iff_of_false (by rintro ⟨d, hd⟩; cases hd) id
  | nan negative signalling => exact iff_of_false (by rintro ⟨d, hd⟩; cases hd) id

/-- Only numbers are loaded, and with less than one unit of the last place lost. -/
theorem exists_value?_of_ofDatum? {x : Datum} {d : Decimal} (h : Decimal.ofDatum? x = .ok d) :
    ∃ q, x.value? = some q ∧ |d.value - q| < 1 / 10 ^ d.scale := by
  cases x with
  | finite negative coefficient exponent hlow hhigh =>
    obtain ⟨m, hloads, hvalue⟩ := Decimal.exists_loads_of_ofDatum? h
    refine ⟨_, rfl, ?_⟩
    rw [hvalue, abs_sign_mul_sub]
    exact hloads.error
  | infinity negative => cases h
  | nan negative signalling => cases h

/-- A datum that is the number of a decimal is loaded as that number. -/
theorem value_eq_of_ofDatum? {x : Datum} {d d' : Decimal} (h : Decimal.ofDatum? x = .ok d)
    (hvalue : x.value? = some d'.value) : d.value = d'.value := by
  cases x with
  | finite negative coefficient exponent hlow hhigh =>
    obtain ⟨m, hloads, hd⟩ := Decimal.exists_loads_of_ofDatum? h
    have heq : sign negative * ((coefficient : Nat) * 10 ^ exponent) = d'.value :=
      Option.some.inj hvalue
    -- the digits of the decimal are those of the datum, whatever the signs
    have habs : (d'.mantissa.natAbs : ℚ) / 10 ^ d'.scale = (coefficient : Nat) * 10 ^ exponent := by
      have hnonneg : (0 : ℚ) ≤ (coefficient : Nat) * 10 ^ exponent := by positivity
      have hpos : (0 : ℚ) < 10 ^ d'.scale := by positivity
      rw [Nat.cast_natAbs, Int.cast_abs, ← abs_of_pos hpos, ← abs_div, ← Decimal.value, ← heq,
        abs_mul, abs_sign, one_mul, abs_of_nonneg hnonneg]
    rw [hd, ← heq, hloads.exact ⟨d'.mantissa_lt, d'.scale_le⟩ habs]
  | infinity negative => cases h
  | nan negative signalling => cases h

end Decimal128.Datum

namespace Decimal

theorem exact_decimal_eq_ok_iff {stored : Decimal128} {d : Decimal} :
    Value.exact (.decimal stored) = .ok d ↔ ofDatum? stored.datum = .ok d := by
  rw [Value.exact_decimal, Value.loadExact, ofDecimal128?_eq]
  cases ofDatum? stored.datum with
  | ok loaded => simp
  | error fault => simp

/-- Nothing else than the number is loaded. -/
def LoadsFaithfully (stored : Decimal128) : Prop :=
  ∀ d, Value.exact (.decimal stored) = .ok d → stored.datum.value? = some d.value

/-- **Loading stored decimals.** Loading is faithful exactly for the numbers that are decimals and
for what is refused. Refused are infinities, NaNs, numbers that round to `2 ^ 96` or above, numbers
below `10 ^ (-28)` and zeros with too large an exponent. Any other number loses digits, by less than
one unit of the last place that is loaded. -/
theorem loadsFaithfully_iff (stored : Decimal128) :
    (LoadsFaithfully stored ↔
      (stored.datum.InReach → ∃ d : Decimal, stored.datum.value? = some d.value)) ∧
    ((∃ d, Value.exact (.decimal stored) = .ok d) ↔ stored.datum.InReach) ∧
    ∀ d, Value.exact (.decimal stored) = .ok d →
      ∃ q, stored.datum.value? = some q ∧ |d.value - q| < 1 / 10 ^ d.scale := by
  simp only [LoadsFaithfully, exact_decimal_eq_ok_iff]
  refine ⟨⟨fun h hreach => ?_, fun h d hd => ?_⟩, stored.datum.exists_ofDatum?_iff,
    fun d hd => Decimal128.Datum.exists_value?_of_ofDatum? hd⟩
  · obtain ⟨d, hd⟩ := stored.datum.exists_ofDatum?_iff.2 hreach
    exact ⟨d, h d hd⟩
  · obtain ⟨d', hd'⟩ := h (stored.datum.exists_ofDatum?_iff.1 ⟨d, hd⟩)
    rw [hd', Decimal128.Datum.value_eq_of_ofDatum? hd hd']

/-- Of thirty digits the last one is dropped, although it is not zero. -/
theorem not_loadsFaithfully_of_thirty_digits :
    ¬ LoadsFaithfully (.canonical
      (.finite false ⟨10 ^ 29 + 1, by decide⟩ (-29) (by decide) (by decide))) := by
  intro h
  have hloaded : ofDatum? (.finite false ⟨10 ^ 29 + 1, by decide⟩ (-29) (by decide) (by decide)) =
      .ok ⟨10 ^ 28, 28, by decide, by decide⟩ := by decide
  have hvalue := Option.some.inj (h _ (exact_decimal_eq_ok_iff.2 hloaded))
  norm_num [Decimal128.Datum.sign, value, zpow_neg] at hvalue

end Decimal

end RecordStore
