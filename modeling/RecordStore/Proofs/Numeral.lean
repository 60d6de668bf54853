import RecordStore.Text.Numeral
/-!
# Reading decimal numerals

A decimal numeral with leading zeros consists of digits, has the width that was asked for if the
number is small enough, and is read as the number.

## Main results

* `Numeral.ofDigits_padded`: what a numeral is read as.
* `Numeral.length_padded`: the width of a numeral.
-/

namespace RecordStore

namespace Numeral

theorem toList_padded (width n : Nat) :
    (padded width n).toList =
      List.replicate (width - (Nat.toDigits 10 n).length) '0' ++ Nat.toDigits 10 n := by
  simp only [padded, zeros, Nat.toString_eq_ofList_toDigits, String.toList_append,
    String.toList_ofList, String.length_ofList]

theorem isDigit_of_mem_padded {width n : Nat} {c : Char} (h : c ∈ (padded width n).toList) :
    c.isDigit = true := by
  rw [toList_padded, List.mem_append] at h
  rcases h with h | h
  · rw [List.eq_of_mem_replicate h]
    rfl
  · exact Nat.isDigit_of_mem_toDigits (by decide) (by decide) h

theorem length_padded {width n : Nat} (hwidth : 0 < width) (hn : n < 10 ^ width) :
    (padded width n).toList.length = width := by
  have hle : (Nat.toDigits 10 n).length ≤ width :=
    (Nat.length_toDigits_le_iff (by decide) hwidth).2 hn
  rw [toList_padded, List.length_append, List.length_replicate]
  omega

theorem padded_ne_nil (width n : Nat) : (padded width n).toList ≠ [] := by
  rw [toList_padded]
  exact List.append_ne_nil_of_right_ne_nil _ Nat.toDigits_ne_nil

/-- Digits are read by their values. -/
theorem ofDigits_filterMap {cs : List Char} (h : ∀ c ∈ cs, c.isDigit = true) :
    ofDigits 10 (cs.filterMap digit?) = Nat.ofDigitChars 10 cs 0 := by
  have hfold : ∀ init, (cs.filterMap digit?).foldl (fun n d => n * 10 + d) init =
      Nat.ofDigitChars 10 cs init := by
    induction cs with
    | nil => intro init; rfl
    | cons c rest ih =>
      intro init
      have hc : digit? c = some (c.toNat - '0'.toNat) := if_pos (h c List.mem_cons_self)
      rw [List.filterMap_cons, hc, Nat.ofDigitChars_cons, Nat.mul_comm 10 init]
      exact ih (fun x hx => h x (List.mem_cons_of_mem _ hx)) _
  exact hfold 0

theorem ofDigits_padded (width n : Nat) :
    ofDigits 10 ((padded width n).toList.filterMap digit?) = n := by
  have hdigits : ∀ c ∈ (padded width n).toList, c.isDigit = true :=
    fun c hc => isDigit_of_mem_padded hc
  rw [ofDigits_filterMap hdigits, toList_padded, Nat.ofDigitChars_append,
    Nat.ofDigitChars_replicate_zero, Nat.mul_zero, Nat.ofDigitChars_ten_toDigits]

end Numeral

end RecordStore
