import Mathlib.Algebra.Ring.Nat
import RecordStore.Calendar
/-!
# Dates and day numbers

The year that is found for a day is the one that holds it, so a day number is the day number of
its date, and that date exists.

## Main results

* `Date.toDays_ofDays`, `Date.valid_ofDays`.
-/

namespace RecordStore

theorem daysBeforeYear_succ (year : Int) :
    daysBeforeYear (year + 1) = daysBeforeYear year + ((monthLengths year).sum : Nat) := by
  by_cases h : isLeapYear year = true
  · have hsum : (monthLengths year).sum = 366 := by simp [monthLengths, h]
    rw [hsum]
    simp only [isLeapYear, Bool.and_eq_true, Bool.or_eq_true, beq_iff_eq, bne_iff_ne] at h
    unfold daysBeforeYear
    omega
  · have hsum : (monthLengths year).sum = 365 := by simp [monthLengths, h]
    rw [hsum]
    simp only [isLeapYear, Bool.and_eq_true, Bool.or_eq_true, beq_iff_eq, bne_iff_ne] at h
    unfold daysBeforeYear
    omega

/-- The mean length of a year is 146097 days in 400 years. -/
theorem daysBeforeYear_bounds (year : Int) :
    146097 * year - 400 ≤ 400 * (daysBeforeYear year + 719528) ∧
      400 * (daysBeforeYear year + 719528) ≤ 146097 * year + 700 := by
  unfold daysBeforeYear
  omega

theorem yearOfDay_spec (day : Int) :
    daysBeforeYear (yearOfDay day) ≤ day ∧ day < daysBeforeYear (yearOfDay day + 1) := by
  have hguess : ∀ guess, guess = (day + 719528) * 400 / 146097 →
      daysBeforeYear (guess - 1) ≤ day ∧ day < daysBeforeYear (guess + 2) := by
    intro guess h
    have hlow := daysBeforeYear_bounds (guess - 1)
    have hhigh := daysBeforeYear_bounds (guess + 2)
    omega
  unfold yearOfDay
  have hbounds := hguess _ rfl
  generalize (day + 719528) * 400 / 146097 = guess at hbounds ⊢
  dsimp only
  split
  · next hbefore => exact ⟨hbounds.1, by simpa using hbefore⟩
  · split
    · next hafter => exact ⟨hafter, by simpa [Int.add_assoc] using hbounds.2⟩
    · next hbefore hafter => exact ⟨Int.not_lt.1 hbefore, Int.not_le.1 hafter⟩

/-- The month that is found holds the day: it has that many days, and the months before it
have the rest of the count. -/
theorem monthAndDay_spec {lengths : List Nat} {count : Nat} (h : count < lengths.sum)
    (month : Nat) :
    ∃ i, i < lengths.length ∧ (monthAndDay month lengths count).1 = month + i ∧
      1 ≤ (monthAndDay month lengths count).2 ∧
      (monthAndDay month lengths count).2 ≤ lengths.getD i 0 ∧
      (lengths.take i).sum + ((monthAndDay month lengths count).2 - 1) = count := by
  induction lengths generalizing count month with
  | nil => simp at h
  | cons length rest ih =>
    rw [List.sum_cons] at h
    by_cases hcount : count < length
    · refine ⟨0, by simp, ?_⟩
      simp only [monthAndDay, if_pos hcount, List.getD_cons_zero, List.take_zero, List.sum_nil]
      omega
    · have hrest : count - length < rest.sum := by omega
      obtain ⟨i, hi, hmonth, hone, hday, hsum⟩ := ih hrest (month + 1)
      refine ⟨i + 1, by simpa using hi, ?_⟩
      simp only [monthAndDay, if_neg hcount, List.getD_cons_succ, List.take_succ_cons,
        List.sum_cons]
      exact ⟨by omega, hone, hday, by omega⟩

namespace Date

theorem foldl_add_eq_sum (ns : List Nat) : ns.foldl (· + ·) 0 = ns.sum :=
  List.sum_eq_foldl.symm

/-- What the date of a day number is made of. -/
theorem ofDays_spec (n : Int) :
    ∃ i, i < 12 ∧ (ofDays n).year = yearOfDay n ∧ (ofDays n).month = i + 1 ∧
      1 ≤ (ofDays n).day ∧ (ofDays n).day ≤ (monthLengths (yearOfDay n)).getD i 0 ∧
      daysBeforeYear (yearOfDay n) +
        (((monthLengths (yearOfDay n)).take i).sum + ((ofDays n).day - 1) : Nat) = n := by
  obtain ⟨hlow, hhigh⟩ := yearOfDay_spec n
  rw [daysBeforeYear_succ] at hhigh
  have hcount : (n - daysBeforeYear (yearOfDay n)).toNat < (monthLengths (yearOfDay n)).sum := by
    omega
  obtain ⟨i, hi, hmonth, hone, hday, hsum⟩ := monthAndDay_spec hcount 1
  refine ⟨i, hi, rfl, ?_, hone, hday, ?_⟩
  · rw [Nat.add_comm]
    exact hmonth
  · have hbefore : ((monthLengths (yearOfDay n)).take i).sum + ((ofDays n).day - 1) =
        (n - daysBeforeYear (yearOfDay n)).toNat := hsum
    rw [hbefore]
    omega

theorem monthLength_le (d : Date) : d.monthLength ≤ 31 := by
  have hall : ∀ length ∈ monthLengths d.year, length ≤ 31 := by
    unfold monthLengths
    split <;> decide
  rw [monthLength, List.getD_eq_getElem?_getD]
  cases hmonth : (monthLengths d.year)[d.month - 1]? with
  | none => exact Nat.zero_le 31
  | some length => exact hall length (List.mem_of_getElem? hmonth)

theorem valid_ofDays (n : Int) : (ofDays n).Valid := by
  obtain ⟨i, hi, hyear, hmonth, hone, hday, -⟩ := ofDays_spec n
  refine ⟨by omega, by omega, hone, ?_⟩
  rwa [monthLength, hyear, hmonth, Nat.add_sub_cancel]

theorem toDays_ofDays (n : Int) : (ofDays n).toDays = n := by
  obtain ⟨i, hi, hyear, hmonth, hone, hday, hsum⟩ := ofDays_spec n
  simp only [toDays, hyear, hmonth, Nat.add_sub_cancel, foldl_add_eq_sum]
  omega

end Date

end RecordStore
