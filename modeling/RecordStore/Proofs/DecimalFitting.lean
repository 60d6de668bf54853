import Mathlib.Algebra.Order.Field.Rat
import Mathlib.Data.Nat.Cast.Order.Field
import Mathlib.Tactic.FieldSimp
import Mathlib.Tactic.Linarith
import Mathlib.Tactic.Positivity
import RecordStore.Decimal.Basic
/-!
# Fitting digits

A number with too many digits loses digits behind the point, as few as it takes to come into
range, and the last digit kept is rounded. So nothing is lost where the digits that go are zeros,
a number in range never loses other digits, and what is lost is never more than half a unit of the
last place kept. Only a number that rounds to `2 ^ 96` or above has no fitting digits.

## Main definitions

* `Decimal.InRange`: a mantissa and a scale that a decimal may have.

## Main results

* `Decimal.exists_of_fit?`: how many digits are dropped.
* `Decimal.fit?_exact`, `Decimal.fit?_error`, `Decimal.fit?_eq_none_iff`: what is lost, and when
  nothing fits.
* `Decimal.dropDigits_mul`, `Decimal.abs_dropDigits_sub_le`: the same where the number of digits to
  drop is given.
-/

namespace RecordStore

namespace Decimal

/-- A mantissa and a scale that a decimal may have. -/
def InRange (mantissa scale : Nat) : Prop :=
  mantissa < 2 ^ 96 ∧ scale ≤ 28

/-- The distance of a number from a fraction, in units of the denominator. -/
theorem abs_div_sub_le_iff {a b v t : ℚ} (ht : 0 < t) :
    |a / t - v| ≤ b / t ↔ |a - v * t| ≤ b := by
  have hsub : a / t - v = (a - v * t) / t := by
    field_simp
  rw [hsub, abs_div, abs_of_pos ht, div_le_div_iff_of_pos_right ht]

theorem half_unit_lt (s : Nat) : ((1 : ℚ) / 2) / 10 ^ s < 1 / 10 ^ s := by
  gcongr
  norm_num

theorem cast_div_bounds (n : Nat) {t : Nat} (ht : 0 < t) :
    ((n / t : Nat) : ℚ) ≤ n / t ∧ (n : ℚ) / t < (n / t : Nat) + 1 := by
  refine ⟨Nat.cast_div_le, ?_⟩
  rw [div_lt_iff₀ (by exact_mod_cast ht), mul_comm]
  exact_mod_cast Nat.lt_mul_div_succ n ht

/-! ### Rounding the last digit kept -/

theorem rounded?_zero (mantissa scale : Nat) :
    rounded? 0 mantissa scale = some (mantissa, scale) :=
  if_pos (by decide)

theorem inRange_of_rounded? {dropped m s m' s' : Nat} (hm : InRange m s)
    (h : rounded? dropped m s = some (m', s')) : InRange m' s' := by
  obtain ⟨hlt, hle⟩ := hm
  rw [rounded?] at h
  split_ifs at h with hdown hup hscale <;> cases h
  · exact ⟨hlt, hle⟩
  · exact ⟨hup, hle⟩
  · exact ⟨by omega, by omega⟩

/-- Rounding by the first digit dropped takes a number to within half a unit of the last place. -/
theorem rounded?_error {r m s m' s' : Nat} {v : ℚ} (hr : r < 10) (hm : m < 2 ^ 96)
    (hlow : (10 * m + r : ℚ) ≤ 10 * (v * 10 ^ s)) (hhigh : 10 * (v * 10 ^ s) < (10 * m + r + 1 : ℚ))
    (h : rounded? r m s = some (m', s')) : |(m' : ℚ) / 10 ^ s' - v| ≤ (1 / 2) / 10 ^ s' := by
  rw [abs_div_sub_le_iff (by positivity), abs_le]
  rw [rounded?] at h
  split_ifs at h with hdown hup hscale <;> cases h
  · have hdown : (r : ℚ) ≤ 4 := by exact_mod_cast Nat.le_of_lt_succ hdown
    have hr : (0 : ℚ) ≤ r := by positivity
    constructor <;> linarith
  · have hup : (5 : ℚ) ≤ r := by exact_mod_cast Nat.le_of_not_lt hdown
    have hr : (r : ℚ) ≤ 9 := by exact_mod_cast Nat.le_of_lt_succ hr
    push_cast
    constructor <;> linarith
  · -- the mantissa is the greatest, and one more digit goes
    obtain ⟨t, rfl⟩ := Nat.exists_eq_succ_of_ne_zero hscale
    have hten : (10 : ℚ) * ((m + 5) / 10 : Nat) = m + 5 := by
      have hnat : 10 * ((m + 5) / 10) = m + 5 := by omega
      exact_mod_cast hnat
    have hup : (5 : ℚ) ≤ r := by exact_mod_cast Nat.le_of_not_lt hdown
    have hr : (r : ℚ) ≤ 9 := by exact_mod_cast Nat.le_of_lt_succ hr
    rw [pow_succ] at hlow hhigh
    rw [Nat.succ_sub_one]
    constructor <;> linarith

/-! ### Dropping digits until the others fit -/

/-- The digits that are dropped are as few as it takes, and the last of them rounds the others. -/
theorem exists_of_fit? {d m s : Nat} {p : Nat × Nat} (hd : d < 10) (h : fit? d m s = some p) :
    ∃ k ≤ s, InRange (m / 10 ^ k) (s - k) ∧ (∀ j < k, ¬ InRange (m / 10 ^ j) (s - j)) ∧
      rounded? ((10 * m + d) / 10 ^ k % 10) (m / 10 ^ k) (s - k) = some p := by
  have hdigit : (10 * m + d) % 10 = d := by omega
  induction s generalizing d m with
  | zero =>
    rw [fit?] at h
    split at h
    · next hm =>
      exact ⟨0, le_rfl, ⟨by simpa using hm, by decide⟩, by simp, by simpa [hdigit] using h⟩
    · cases h
  | succ s ih =>
    rw [fit?] at h
    split at h
    · next hfits =>
      exact ⟨0, Nat.zero_le _, ⟨by simpa using hfits.2, hfits.1⟩, by simp,
        by simpa [hdigit] using h⟩
    · next hfits =>
      obtain ⟨k, hk, hrange, hleast, hrounded⟩ := ih (Nat.mod_lt m (by decide)) h (by omega)
      have hdiv : ∀ j, m / 10 ^ (j + 1) = m / 10 / 10 ^ j := fun j => by
        rw [Nat.pow_succ', Nat.div_div_eq_div_mul]
      refine ⟨k + 1, by omega, ?_, fun j hj => ?_, ?_⟩
      · rw [hdiv, Nat.succ_sub_succ]
        exact hrange
      · cases j with
        | zero => exact fun h0 => hfits ⟨h0.2, by simpa using h0.1⟩
        | succ j =>
          rw [hdiv, Nat.succ_sub_succ]
          exact hleast j (by omega)
      · have hten : (10 * m + d) / 10 ^ (k + 1) = (10 * (m / 10) + m % 10) / 10 ^ k := by
          rw [Nat.pow_succ', ← Nat.div_div_eq_div_mul]
          congr 1
          omega
        rw [hdiv, Nat.succ_sub_succ, hten]
        exact hrounded

theorem inRange_of_fit? {m s m' s' : Nat} (h : fit? 0 m s = some (m', s')) : InRange m' s' := by
  obtain ⟨k, -, hrange, -, hrounded⟩ := exists_of_fit? (by decide) h
  exact inRange_of_rounded? hrange hrounded

/-- A number in range has zeros in its last places, which can go until the others fit. -/
theorem exists_zeros {m s m₀ s₀ : Nat} (hrange : InRange m₀ s₀)
    (heq : (m₀ : ℚ) / 10 ^ s₀ = m / 10 ^ s) :
    ∃ k ≤ s, InRange (m / 10 ^ k) (s - k) ∧ 10 ^ k ∣ m := by
  rw [div_eq_div_iff (by positivity) (by positivity)] at heq
  norm_cast at heq
  obtain hle | hle := Nat.le_total s₀ s
  · obtain ⟨k, rfl⟩ := Nat.exists_eq_add_of_le hle
    rw [Nat.pow_add, Nat.mul_comm (10 ^ s₀), ← Nat.mul_assoc] at heq
    have hm : m₀ * 10 ^ k = m := Nat.eq_of_mul_eq_mul_right (by positivity) heq
    refine ⟨k, by omega, ?_, Dvd.intro_left m₀ hm⟩
    rw [← hm, Nat.mul_div_cancel _ (by positivity), Nat.add_sub_cancel]
    exact hrange
  · obtain ⟨t, rfl⟩ := Nat.exists_eq_add_of_le hle
    rw [Nat.pow_add, Nat.mul_comm (10 ^ s), ← Nat.mul_assoc] at heq
    have hm : m₀ = m * 10 ^ t := Nat.eq_of_mul_eq_mul_right (by positivity) heq
    have hlt : m ≤ m₀ := hm ▸ Nat.le_mul_of_pos_right m (by positivity)
    refine ⟨0, Nat.zero_le s, ⟨?_, ?_⟩, one_dvd m⟩
    · simpa using Nat.lt_of_le_of_lt hlt hrange.1
    · exact Nat.le_trans hle hrange.2

/-- A number in range loses nothing. -/
theorem fit?_exact {m s m₀ s₀ m' s' : Nat} (hrange : InRange m₀ s₀)
    (heq : (m₀ : ℚ) / 10 ^ s₀ = m / 10 ^ s) (h : fit? 0 m s = some (m', s')) :
    (m' : ℚ) / 10 ^ s' = m / 10 ^ s := by
  obtain ⟨k, -, hrange, hdvd⟩ := exists_zeros hrange heq
  obtain ⟨l, hl, -, hleast, hrounded⟩ := exists_of_fit? (by decide) h
  have hle : l ≤ k := by
    by_contra hlt
    exact hleast k (by omega) hrange
  obtain ⟨q, rfl⟩ := (pow_dvd_pow 10 hle).trans hdvd
  have hten : (10 * (10 ^ l * q) + 0) / 10 ^ l = 10 * q := by
    rw [Nat.add_zero, Nat.mul_left_comm, Nat.mul_div_cancel_left _ (by positivity)]
  rw [hten, Nat.mul_mod_right, Nat.mul_div_cancel_left _ (by positivity), rounded?_zero] at hrounded
  cases hrounded
  obtain ⟨t, rfl⟩ := Nat.exists_eq_add_of_le hl
  rw [Nat.add_sub_cancel_left, pow_add]
  push_cast
  field_simp

/-- What is lost is at most half a unit of the last place. -/
theorem fit?_error {m s m' s' : Nat} (h : fit? 0 m s = some (m', s')) :
    |(m' : ℚ) / 10 ^ s' - m / 10 ^ s| ≤ (1 / 2) / 10 ^ s' := by
  obtain ⟨k, hk, hrange, -, hrounded⟩ := exists_of_fit? (by decide) h
  rw [Nat.add_zero] at hrounded
  -- the digits kept and the first one dropped are the digits of the number in front of the rest
  have hdigits : 10 * (m / 10 ^ k) + 10 * m / 10 ^ k % 10 = 10 * m / 10 ^ k := by
    have hdiv : 10 * m / 10 ^ k / 10 = m / 10 ^ k := by
      rw [Nat.div_right_comm, Nat.mul_div_cancel_left m (by decide)]
    omega
  have hscaled : 10 * ((m : ℚ) / 10 ^ s * 10 ^ (s - k)) = (10 * m : Nat) / (10 ^ k : Nat) := by
    obtain ⟨t, rfl⟩ := Nat.exists_eq_add_of_le hk
    rw [Nat.add_sub_cancel_left, pow_add]
    push_cast
    field_simp
  obtain ⟨hlow, hhigh⟩ := cast_div_bounds (10 * m) (t := 10 ^ k) (by positivity)
  rw [← hdigits, ← hscaled] at hlow hhigh
  push_cast at hlow hhigh
  exact rounded?_error (Nat.mod_lt _ (by decide)) hrange.1 hlow hhigh hrounded

theorem rounded?_succ_ne_none (dropped m s : Nat) : rounded? dropped m (s + 1) ≠ none := by
  rw [rounded?]
  split_ifs <;> simp_all

/-- Nothing fits exactly if the number rounds to `2 ^ 96` or above. -/
theorem fit?_eq_none_iff {d m s : Nat} (hd : d < 10) :
    fit? d m s = none ↔ (2 ^ 97 - 1) * 10 ^ (s + 1) ≤ 2 * (10 * m + d) := by
  induction s generalizing d m with
  | zero =>
    rw [fit?, rounded?]
    split_ifs <;> simp <;> omega
  | succ s ih =>
    have hhundred : 10 ^ (s + 1 + 1) = 100 * 10 ^ s := by rw [Nat.pow_succ', Nat.pow_succ']; omega
    have hten : 10 ^ (s + 1) = 10 * 10 ^ s := Nat.pow_succ'
    have hpos : 0 < 10 ^ s := Nat.pow_pos (by decide)
    rw [fit?]
    split
    · next hfits => exact iff_of_false (rounded?_succ_ne_none d m s) (by omega)
    · rw [ih (Nat.mod_lt m (by decide))]
      omega

/-! ### Dropping a number of digits -/

theorem dropDigits_le (m n : Nat) : dropDigits m n ≤ m := by
  cases n with
  | zero => exact le_rfl
  | succ n =>
    rw [dropDigits]
    have hle := Nat.div_le_self m (10 ^ n)
    omega

/-- Zeros are dropped without loss. -/
theorem dropDigits_mul (m n : Nat) : dropDigits (m * 10 ^ n) n = m := by
  cases n with
  | zero => exact Nat.mul_one m
  | succ n =>
    have hdiv : m * 10 ^ (n + 1) / 10 ^ n = m * 10 := by
      rw [Nat.pow_succ', ← Nat.mul_assoc, Nat.mul_div_cancel _ (by positivity)]
    rw [dropDigits, hdiv]
    omega

theorem abs_dropDigits_sub_le (m n : Nat) :
    |(dropDigits m n : ℚ) - m / 10 ^ n| ≤ 1 / 2 := by
  cases n with
  | zero => simp [dropDigits]
  | succ n =>
    obtain ⟨hlow, hhigh⟩ := cast_div_bounds m (t := 10 ^ n) (by positivity)
    rw [dropDigits, pow_succ, ← div_div, abs_le]
    push_cast at hlow hhigh
    have hround : 10 * ((m / 10 ^ n + 5) / 10) ≤ m / 10 ^ n + 5 ∧
        m / 10 ^ n + 5 ≤ 10 * ((m / 10 ^ n + 5) / 10) + 9 := by omega
    have hup : (10 : ℚ) * ((m / 10 ^ n + 5) / 10 : Nat) ≤ (m / 10 ^ n : Nat) + 5 := by
      exact_mod_cast hround.1
    have hdown : ((m / 10 ^ n : Nat) : ℚ) + 5 ≤ 10 * ((m / 10 ^ n + 5) / 10 : Nat) + 9 := by
      exact_mod_cast hround.2
    constructor <;> linarith

/-- What is cut off behind the last place is less than one unit of it, also where the digits were
rounded before. -/
theorem abs_cut_sub_lt {m t : Nat} {v : ℚ} (h : |(m : ℚ) / 10 ^ t - v| ≤ (1 / 2) / 10 ^ t) :
    |(dropDigits m (t - 28) : ℚ) / 10 ^ min 28 t - v| < 1 / 10 ^ min 28 t := by
  obtain hlt | hle := Nat.lt_or_ge 28 t
  · obtain ⟨n, rfl⟩ := Nat.exists_eq_add_of_lt hlt
    rw [Nat.min_eq_left hlt.le, Nat.add_assoc, Nat.add_sub_cancel_left]
    rw [Nat.add_assoc] at h
    have hdropped : |(dropDigits m (n + 1) : ℚ) / 10 ^ 28 - m / 10 ^ (28 + (n + 1))| ≤
        (1 / 2) / 10 ^ 28 := by
      have hmoved : (m : ℚ) / 10 ^ (28 + (n + 1)) * 10 ^ 28 = m / 10 ^ (n + 1) := by
        rw [pow_add]
        field_simp
      rw [abs_div_sub_le_iff (by positivity), hmoved]
      exact abs_dropDigits_sub_le m (n + 1)
    have hrounded : ((1 : ℚ) / 2) / 10 ^ (28 + (n + 1)) < (1 / 2) / 10 ^ 28 := by
      gcongr
      · norm_num
      · omega
    calc |(dropDigits m (n + 1) : ℚ) / 10 ^ 28 - v|
        ≤ (1 / 2) / 10 ^ 28 + (1 / 2) / 10 ^ (28 + (n + 1)) :=
          (abs_sub_le _ _ _).trans (add_le_add hdropped h)
      _ < (1 / 2) / 10 ^ 28 + (1 / 2) / 10 ^ 28 := by gcongr
      _ = 1 / 10 ^ 28 := by rw [← add_div, add_halves]
  · rw [Nat.sub_eq_zero_of_le hle, Nat.min_eq_right hle]
    exact h.trans_lt (half_unit_lt t)

/-- A number that needs no more places than there are loses nothing. -/
theorem cut_exact {m t m₀ s₀ : Nat} (hs : s₀ ≤ 28) (heq : (m₀ : ℚ) / 10 ^ s₀ = m / 10 ^ t) :
    (dropDigits m (t - 28) : ℚ) / 10 ^ min 28 t = m / 10 ^ t := by
  obtain hle | hlt := Nat.le_total t 28
  · rw [Nat.sub_eq_zero_of_le hle, Nat.min_eq_right hle, dropDigits]
  · obtain ⟨n, rfl⟩ := Nat.exists_eq_add_of_le hlt
    obtain ⟨k, hk⟩ := Nat.exists_eq_add_of_le hs
    have hm : m = m₀ * 10 ^ k * 10 ^ n := by
      rw [div_eq_div_iff (by positivity) (by positivity)] at heq
      norm_cast at heq
      rw [hk, Nat.pow_add, Nat.pow_add] at heq
      refine Nat.eq_of_mul_eq_mul_right (show 0 < 10 ^ s₀ by positivity) ?_
      rw [← heq]
      ac_rfl
    rw [Nat.min_eq_left hlt, Nat.add_sub_cancel_left, hm, dropDigits_mul, pow_add]
    push_cast
    field_simp

end Decimal

end RecordStore
