import RecordStore.Double.Rounding
/-!
# Doubles nearest to natural numbers

A natural number is taken to a double by rounding to 53 binary digits. Numbers up to `2 ^ 53`
are kept; beyond, rounding keeps the order of numbers but may take different numbers to the
same double.

## Main definitions

* `nearest`: the natural number that a number is rounded to.

## Main results

* `nearest_mono`, `nearest_of_le`: order, and numbers that are kept.
* `Double.ofInt_spec`: the double of a natural number.
-/

namespace RecordStore

/-! ### Rounded quotients -/

theorem div_le_roundDiv (num den : Nat) : num / den ≤ roundDiv num den := by
  unfold roundDiv
  split
  · exact Nat.le_refl _
  · split <;> omega

theorem roundDiv_le (num den : Nat) : roundDiv num den ≤ num / den + 1 := by
  unfold roundDiv
  split
  · omega
  · split <;> omega

theorem roundDiv_mono {a b : Nat} (den : Nat) (h : a ≤ b) : roundDiv a den ≤ roundDiv b den := by
  obtain hlt | heq := Nat.lt_or_eq_of_le (Nat.div_le_div_right (c := den) h)
  · exact Nat.le_trans (roundDiv_le a den) (Nat.le_trans hlt (div_le_roundDiv b den))
  · -- with one quotient the remainders decide
    have ha := Nat.div_add_mod a den
    have hb := Nat.div_add_mod b den
    rw [heq] at ha
    unfold roundDiv
    rw [heq]
    split <;> split <;> (try split) <;> (try split) <;> omega

@[simp] theorem roundDiv_one (num : Nat) : roundDiv num 1 = num := by
  unfold roundDiv
  rw [if_pos (by omega), Nat.div_one]

/-! ### The nearest number with 53 digits -/

/-- The nearest number with at most 53 binary digits before its zeros, an exact half to the one
with an even last digit. -/
def nearest (n : Nat) : Nat :=
  if n.log2 ≤ 52 then n else roundDiv n (2 ^ (n.log2 - 52)) * 2 ^ (n.log2 - 52)

/-- The quotient by the last digit that is kept has 53 digits. -/
theorem div_bounds {n : Nat} (h : 52 ≤ n.log2) :
    2 ^ 52 ≤ n / 2 ^ (n.log2 - 52) ∧ n / 2 ^ (n.log2 - 52) < 2 ^ 53 := by
  have hn : n ≠ 0 := by
    rintro rfl
    simp at h
  have hpos : 0 < 2 ^ (n.log2 - 52) := Nat.two_pow_pos _
  constructor
  · rw [Nat.le_div_iff_mul_le hpos, ← Nat.pow_add, show 52 + (n.log2 - 52) = n.log2 by omega]
    exact Nat.log2_self_le hn
  · rw [Nat.div_lt_iff_lt_mul hpos, ← Nat.pow_add,
      show 53 + (n.log2 - 52) = n.log2 + 1 by omega]
    exact Nat.lt_log2_self

theorem roundDiv_bounds {n : Nat} (h : 52 ≤ n.log2) :
    2 ^ 52 ≤ roundDiv n (2 ^ (n.log2 - 52)) ∧ roundDiv n (2 ^ (n.log2 - 52)) ≤ 2 ^ 53 := by
  obtain ⟨hlow, hhigh⟩ := div_bounds h
  exact ⟨Nat.le_trans hlow (div_le_roundDiv _ _), Nat.le_trans (roundDiv_le _ _) hhigh⟩

theorem two_pow_le_nearest {n : Nat} (hn : n ≠ 0) : 2 ^ n.log2 ≤ nearest n := by
  unfold nearest
  split
  · exact Nat.log2_self_le hn
  · next h =>
    calc 2 ^ n.log2 = 2 ^ 52 * 2 ^ (n.log2 - 52) := by
          rw [← Nat.pow_add, show 52 + (n.log2 - 52) = n.log2 by omega]
      _ ≤ roundDiv n (2 ^ (n.log2 - 52)) * 2 ^ (n.log2 - 52) :=
          Nat.mul_le_mul_right _ (roundDiv_bounds (by omega)).1

theorem nearest_le_two_pow (n : Nat) : nearest n ≤ 2 ^ (n.log2 + 1) := by
  unfold nearest
  split
  · exact Nat.le_of_lt Nat.lt_log2_self
  · next h =>
    calc roundDiv n (2 ^ (n.log2 - 52)) * 2 ^ (n.log2 - 52) ≤ 2 ^ 53 * 2 ^ (n.log2 - 52) :=
          Nat.mul_le_mul_right _ (roundDiv_bounds (by omega)).2
      _ = 2 ^ (n.log2 + 1) := by
          rw [← Nat.pow_add, show 53 + (n.log2 - 52) = n.log2 + 1 by omega]

/-- Rounding keeps the order of numbers. -/
theorem nearest_mono {a b : Nat} (h : a ≤ b) : nearest a ≤ nearest b := by
  obtain rfl | ha := Nat.eq_zero_or_pos a
  · exact Nat.zero_le _
  have hb : b ≠ 0 := by omega
  have hlog : a.log2 ≤ b.log2 :=
    (Nat.le_log2 hb).2 (Nat.le_trans (Nat.log2_self_le (by omega)) h)
  obtain hlt | heq := Nat.lt_or_eq_of_le hlog
  · calc nearest a ≤ 2 ^ (a.log2 + 1) := nearest_le_two_pow a
      _ ≤ 2 ^ b.log2 := Nat.pow_le_pow_right (by omega) hlt
      _ ≤ nearest b := two_pow_le_nearest hb
  · unfold nearest
    rw [heq]
    split
    · exact h
    · exact Nat.mul_le_mul_right _ (roundDiv_mono _ h)

/-- Numbers up to `2 ^ 53` are kept. -/
theorem nearest_of_le {n : Nat} (h : n ≤ 2 ^ 53) : nearest n = n := by
  obtain hlt | rfl := Nat.lt_or_eq_of_le h
  · obtain rfl | hn := Nat.eq_zero_or_pos n
    · rfl
    · have hlog : n.log2 < 53 := (Nat.log2_lt (by omega)).2 hlt
      exact if_pos (by omega)
  · decide +kernel

namespace Double

/-! ### The bits of the nearest double -/

/-- The least positive double is two to the negative of this. -/
def leastExponent : Nat := 1074

/-- The number one as a multiple of the least positive double. -/
def one : Nat := 2 ^ leastExponent

theorem one_pos : 0 < one := Nat.two_pow_pos leastExponent

/-- The double with a given sign, exponent and significand, where a significand that is the next
power of two carries into the exponent. -/
theorem ofMagnitudeBits_spec {e m : Nat} (he : e ≤ 2000) (hlow : 2 ^ 52 ≤ m) (hhigh : m ≤ 2 ^ 53) :
    (ofMagnitudeBits false (e * 2 ^ 52 + m)).isNaN = false ∧
      (ofMagnitudeBits false (e * 2 ^ 52 + m)).units = (m * 2 ^ e : Nat) := by
  have hbits : (ofMagnitudeBits false (e * 2 ^ 52 + m)).bits.toNat = e * 2 ^ 52 + m := by
    simp only [ofMagnitudeBits, Bool.false_eq_true, if_false, Nat.zero_add]
    rw [Nat.min_eq_left (by omega), UInt64.toNat_ofNat', Nat.mod_eq_of_lt (by omega)]
  generalize ofMagnitudeBits false (e * 2 ^ 52 + m) = d at hbits ⊢
  have hsign : d.isNegative = false := by
    simp only [isNegative, hbits, decide_eq_false_iff_not]
    omega
  have hexponent : d.exponentField = if m = 2 ^ 53 then e + 2 else e + 1 := by
    rw [exponentField, hbits]
    split <;> omega
  have hfraction : d.fraction = if m = 2 ^ 53 then 0 else m - 2 ^ 52 := by
    rw [fraction, hbits]
    split <;> omega
  constructor
  · have hfinite : d.exponentField ≠ 2047 := by
      rw [hexponent]
      split <;> omega
    simp [isNaN, hfinite]
  · have hmagnitude : d.magnitude = m * 2 ^ e := by
      by_cases hcarry : m = 2 ^ 53
      · rw [if_pos hcarry] at hexponent hfraction
        rw [magnitude, significand, shift, hexponent, hfraction, if_neg (by omega), hcarry,
          show e + 2 - 1 = e + 1 by omega, Nat.pow_succ]
        omega
      · rw [if_neg hcarry] at hexponent hfraction
        rw [magnitude, significand, shift, hexponent, hfraction, if_neg (by omega),
          show e + 1 - 1 = e by omega, show 2 ^ 52 + (m - 2 ^ 52) = m by omega]
    rw [units, hsign, hmagnitude]
    rfl

/-- A bit pattern that stops at infinity is no NaN. -/
theorem isNaN_ofMagnitudeBits (negative : Bool) (lower : Nat) :
    (ofMagnitudeBits negative lower).isNaN = false := by
  -- the exponent is that of an infinity only at the bound, where the fraction is zero
  have hbits : (ofMagnitudeBits negative lower).bits.toNat =
      (if negative then 2 ^ 63 else 0) + min lower (2047 * 2 ^ 52) := by
    rw [ofMagnitudeBits, UInt64.toNat_ofNat', Nat.mod_eq_of_lt]
    split <;> omega
  rw [isNaN, exponentField, fraction, hbits]
  by_cases hlower : lower < 2047 * 2 ^ 52
  · have hexponent : ((if negative then 2 ^ 63 else 0) + min lower (2047 * 2 ^ 52)) / 2 ^ 52 %
        2 ^ 11 ≠ 2047 := by
      split <;> omega
    simp [hexponent]
  · have hfraction :
        ((if negative then 2 ^ 63 else 0) + min lower (2047 * 2 ^ 52)) % 2 ^ 52 = 0 := by
      split <;> omega
    simp [hfraction]

theorem isNaN_ofInt (i : Int) : (ofInt i).isNaN = false := by
  rw [ofInt, ofRatio]
  split <;> exact isNaN_ofMagnitudeBits _ _

theorem floorLog2_one {n : Nat} (hn : n ≠ 0) : floorLog2 n 1 = n.log2 := by
  have hle := Nat.log2_self_le hn
  simp only [floorLog2, show Nat.log2 1 = 0 by decide]
  rw [if_pos]
  · omega
  · simpa using hle

/-- The double of a positive number in binade `n.log2`. -/
theorem ofInt_eq {n : Nat} (hn : n ≠ 0) :
    ofInt n = ofMagnitudeBits false
      ((n.log2 + 1022) * 2 ^ 52 + roundDiv (n * 2 ^ (52 - n.log2)) (2 ^ (n.log2 - 52))) := by
  have hsign : decide ((n : Int) < 0) = false := by simp
  have he : max ((n.log2 : Int) - 52) (-1074) = (n.log2 : Int) - 52 := by omega
  rw [ofInt, hsign, Int.natAbs_natCast, ofRatio, if_neg hn]
  simp only [floorLog2_one hn, he, Nat.one_mul]
  rw [show ((n.log2 : Int) - 52 + 1074).toNat = n.log2 + 1022 by omega,
    show (-((n.log2 : Int) - 52)).toNat = 52 - n.log2 by omega,
    show ((n.log2 : Int) - 52).toNat = n.log2 - 52 by omega]

/-- The double of a natural number that fits into 64 bits is a number, namely the nearest. -/
theorem ofInt_spec {n : Nat} (h : n < 2 ^ 64) :
    (ofInt n).isNaN = false ∧ (ofInt n).units = (nearest n * one : Nat) := by
  obtain rfl | hn := Nat.eq_zero_or_pos n
  · decide +kernel
  have hne : n ≠ 0 := by omega
  have hlog : n.log2 < 64 := (Nat.log2_lt hne).2 h
  rw [ofInt_eq hne]
  by_cases hsmall : n.log2 ≤ 52
  · -- all digits are kept, with zeros behind them
    have hlow : 2 ^ 52 ≤ n * 2 ^ (52 - n.log2) := by
      calc 2 ^ 52 = 2 ^ n.log2 * 2 ^ (52 - n.log2) := by
            rw [← Nat.pow_add, show n.log2 + (52 - n.log2) = 52 by omega]
        _ ≤ n * 2 ^ (52 - n.log2) := Nat.mul_le_mul_right _ (Nat.log2_self_le hne)
    have hhigh : n * 2 ^ (52 - n.log2) ≤ 2 ^ 53 := by
      calc n * 2 ^ (52 - n.log2) ≤ 2 ^ (n.log2 + 1) * 2 ^ (52 - n.log2) :=
            Nat.mul_le_mul_right _ (Nat.le_of_lt Nat.lt_log2_self)
        _ = 2 ^ 53 := by rw [← Nat.pow_add, show n.log2 + 1 + (52 - n.log2) = 53 by omega]
    rw [show n.log2 - 52 = 0 by omega, Nat.pow_zero, roundDiv_one]
    obtain ⟨hnumber, hunits⟩ := ofMagnitudeBits_spec (e := n.log2 + 1022) (by omega) hlow hhigh
    refine ⟨hnumber, hunits.trans ?_⟩
    rw [nearest, if_pos hsmall, Nat.mul_assoc, ← Nat.pow_add,
      show 52 - n.log2 + (n.log2 + 1022) = leastExponent by unfold leastExponent; omega, one]
  · -- the digits behind the first 53 are rounded away
    obtain ⟨hlow, hhigh⟩ := roundDiv_bounds (n := n) (by omega)
    rw [show 52 - n.log2 = 0 by omega, Nat.pow_zero, Nat.mul_one]
    obtain ⟨hnumber, hunits⟩ := ofMagnitudeBits_spec (e := n.log2 + 1022) (by omega) hlow hhigh
    refine ⟨hnumber, hunits.trans ?_⟩
    rw [nearest, if_neg hsmall, Nat.mul_assoc, one, ← Nat.pow_add,
      show n.log2 - 52 + leastExponent = n.log2 + 1022 by unfold leastExponent; omega]

/-- Doubles of natural numbers compare as the numbers that these are rounded to. -/
theorem compare?_ofInt_eq_gt_iff {a b : Nat} (ha : a < 2 ^ 64) (hb : b < 2 ^ 64) :
    (ofInt a).compare? (ofInt b) = some .gt ↔ nearest b < nearest a := by
  obtain ⟨hanumber, haunits⟩ := ofInt_spec ha
  obtain ⟨hbnumber, hbunits⟩ := ofInt_spec hb
  simp only [compare?, hanumber, hbnumber, Bool.or_self, Bool.false_eq_true, if_false, haunits,
    hbunits, Option.some.injEq, Int.compare_eq_gt, Int.ofNat_lt]
  exact Nat.mul_lt_mul_right one_pos

/-- Doubles of natural numbers are equal if the numbers are rounded to the same one. -/
theorem same_ofInt_iff {a b : Nat} (ha : a < 2 ^ 64) (hb : b < 2 ^ 64) :
    (ofInt a).same (ofInt b) = true ↔ nearest a = nearest b := by
  obtain ⟨hanumber, haunits⟩ := ofInt_spec ha
  obtain ⟨hbnumber, hbunits⟩ := ofInt_spec hb
  simp only [same, hanumber, hbnumber, haunits, hbunits, Bool.not_false, Bool.true_and,
    beq_iff_eq, Int.ofNat_inj]
  exact Nat.mul_right_cancel_iff one_pos

end Double

end RecordStore
