import RecordStore.Instant.Rfc3339
import RecordStore.Proofs.Calendar
import RecordStore.Proofs.Numeral
/-!
# Instants as text

The text that is written for an instant is read as the same instant. An instant is regular if its
day is among those that are kept and it does not lie in a leap second, as is every instant that a
clock of the system shows.

## Main definitions

* `Instant.Regular`: instants that a clock can show.

## Main results

* `Instant.ofText?_text`: a regular instant is read back from its text.
-/

namespace RecordStore

namespace Instant

/-- The day of the instant is kept, and it is not within a leap second. -/
structure Regular (t : Instant) : Prop where
  /-- The day does not lie before those that are kept. -/
  firstDay_le : firstDay ≤ t.seconds / 86400
  /-- The day does not lie after those that are kept. -/
  le_lastDay : t.seconds / 86400 ≤ lastDay
  /-- The nanoseconds are those of an ordinary second. -/
  nanos_lt : t.nanos < 10 ^ 9

theorem regular_epoch : epoch.Regular where
  firstDay_le := by decide +kernel
  le_lastDay := by decide +kernel
  nanos_lt := by decide

/-! ### Numbers -/

/-- What follows a numeral does not start with a digit. -/
def Ends (rest : List Char) : Prop :=
  ∀ c ∈ rest.head?, c.isDigit = false

theorem ends_cons {c : Char} (h : c.isDigit = false) (rest : List Char) : Ends (c :: rest) := by
  intro x hx
  rw [List.head?_cons, Option.mem_some_iff] at hx
  exact hx ▸ h

theorem takeWhile_of_ends {rest : List Char} (h : Ends rest) (n : Nat) :
    (rest.take n).takeWhile Char.isDigit = [] := by
  cases n with
  | zero => rfl
  | succ n =>
    cases rest with
    | nil => rfl
    | cons c rest =>
      have hc := h c rfl
      simp [hc]

theorem digits_append {most : Nat} {ds rest : List Char} (hds : ∀ c ∈ ds, c.isDigit = true)
    (hne : ds ≠ []) (hmost : ds.length ≤ most) (hrest : Ends rest) :
    digits most (ds ++ rest) = .ok (ds, rest) := by
  have hfound : ((ds ++ rest).take most).takeWhile Char.isDigit = ds := by
    rw [List.take_append, List.take_of_length_le hmost, List.takeWhile_append_of_pos hds,
      takeWhile_of_ends hrest, List.append_nil]
  cases ds with
  | nil => exact absurd rfl hne
  | cons c ds =>
    have hc := hds c List.mem_cons_self
    rw [List.cons_append, digits, if_pos hc, ← List.cons_append]
    simp only [hfound, List.drop_left]

theorem number_padded {most width n : Nat} {rest : List Char}
    (hmost : (Numeral.padded width n).toList.length ≤ most) (hrest : Ends rest) :
    number most ((Numeral.padded width n).toList ++ rest) = .ok (n, rest) := by
  have hdigits := digits_append (fun c hc => Numeral.isDigit_of_mem_padded hc)
    (Numeral.padded_ne_nil width n) hmost hrest
  rw [number, hdigits]
  simp only [bind, Except.bind, Numeral.ofDigits_padded]
  rfl

theorem isBlankChar_of_isDigit {c : Char} (h : c.isDigit = true) : isBlankChar c = false := by
  simp only [Char.isDigit, Bool.and_eq_true, decide_eq_true_eq, UInt32.le_iff_toNat_le] at h
  have hlow : 48 ≤ c.toNat := h.1
  have hhigh : c.toNat ≤ 57 := h.2
  simp only [isBlankChar, Bool.or_eq_false_iff, Bool.and_eq_false_iff, decide_eq_false_iff_not,
    beq_eq_false_iff_ne]
  omega

theorem skipBlanks_cons {c : Char} (h : isBlankChar c = false) (rest : List Char) :
    skipBlanks (c :: rest) = c :: rest := by
  rw [skipBlanks, List.dropWhile_cons_of_neg (by simp [h])]

theorem skipBlanks_padded (width n : Nat) (rest : List Char) :
    skipBlanks ((Numeral.padded width n).toList ++ rest) =
      (Numeral.padded width n).toList ++ rest := by
  obtain ⟨c, ds, hds⟩ := List.exists_cons_of_ne_nil (Numeral.padded_ne_nil width n)
  have hc : c.isDigit = true := Numeral.isDigit_of_mem_padded (hds ▸ List.mem_cons_self)
  rw [hds, List.cons_append, skipBlanks_cons (isBlankChar_of_isDigit hc)]

theorem field_padded {least greatest n : Nat} {rest : List Char} (hleast : least ≤ n)
    (hgreatest : n ≤ greatest) (hn : n < 100) (hrest : Ends rest) :
    field least greatest ((Numeral.padded 2 n).toList ++ rest) = .ok (n, rest) := by
  have hlength : (Numeral.padded 2 n).toList.length ≤ 2 :=
    Nat.le_of_eq (Numeral.length_padded (by decide) hn)
  rw [field, skipBlanks_padded, number_padded hlength hrest]
  simp only [bind, Except.bind, if_pos (And.intro hleast hgreatest)]
  rfl

theorem separator_cons {c : Char} (h : isBlankChar c = false) (rest : List Char) :
    separator c (c :: rest) = .ok rest := by
  rw [separator, skipBlanks_cons h, literal, if_pos rfl]

/-! ### Dates -/

/-- The characters of a year: a sign outside 0 to 9999, and at least four digits. -/
def yearChars (y : Int) : List Char :=
  (if y < 0 then ['-'] else if 9999 < y then ['+'] else []) ++ (Numeral.padded 4 y.natAbs).toList

theorem length_padded_le (width n : Nat) (rest : List Char) :
    (Numeral.padded width n).toList.length ≤ ((Numeral.padded width n).toList ++ rest).length := by
  rw [List.length_append]
  exact Nat.le_add_right _ _

theorem year_minus {n : Nat} {rest : List Char} (hn : n ≤ 2 ^ 31) (hrest : Ends rest) :
    year ('-' :: ((Numeral.padded 4 n).toList ++ rest)) = .ok (-(n : Int), rest) := by
  have hskip := skipBlanks_cons (c := '-') (by decide) ((Numeral.padded 4 n).toList ++ rest)
  have hnumber := number_padded (length_padded_le 4 n rest) hrest
  have hrange : -2 ^ 31 ≤ -(n : Int) ∧ -(n : Int) < 2 ^ 31 := by omega
  rw [year, hskip]
  simp only [hnumber, Except.map, bind, Except.bind, if_pos hrange]
  rfl

theorem year_plus {n : Nat} {rest : List Char} (hn : n < 2 ^ 31) (hrest : Ends rest) :
    year ('+' :: ((Numeral.padded 4 n).toList ++ rest)) = .ok ((n : Int), rest) := by
  have hskip := skipBlanks_cons (c := '+') (by decide) ((Numeral.padded 4 n).toList ++ rest)
  have hnumber := number_padded (length_padded_le 4 n rest) hrest
  have hrange : -2 ^ 31 ≤ (n : Int) ∧ (n : Int) < 2 ^ 31 := by omega
  rw [year, hskip]
  simp only [hnumber, Except.map, bind, Except.bind, if_pos hrange]
  rfl

/-- A year without a sign has four digits. -/
theorem year_plain {n : Nat} {rest : List Char} (hn : n < 10 ^ 4) (hrest : Ends rest) :
    year ((Numeral.padded 4 n).toList ++ rest) = .ok ((n : Int), rest) := by
  have hlength : (Numeral.padded 4 n).toList.length ≤ 4 :=
    Nat.le_of_eq (Numeral.length_padded (by decide) hn)
  have hnumber := number_padded hlength hrest
  have hskip := skipBlanks_padded 4 n rest
  have hrange : -2 ^ 31 ≤ (n : Int) ∧ (n : Int) < 2 ^ 31 := by omega
  -- the reader looks for a sign first, and a digit is none
  obtain ⟨c, ds, hds⟩ := List.exists_cons_of_ne_nil (Numeral.padded_ne_nil 4 n)
  have hc : c.isDigit = true := Numeral.isDigit_of_mem_padded (hds ▸ List.mem_cons_self)
  rw [hds, List.cons_append] at hnumber hskip ⊢
  rw [year, hskip]
  split
  · next heq =>
    cases heq
    simp at hc
  · next heq =>
    cases heq
    simp at hc
  · simp only [hnumber, Except.map, bind, Except.bind, if_pos hrange]
    rfl

theorem year_yearChars {y : Int} {rest : List Char} (hlow : -2 ^ 31 ≤ y) (hhigh : y < 2 ^ 31)
    (hrest : Ends rest) : year (yearChars y ++ rest) = .ok (y, rest) := by
  unfold yearChars
  by_cases hneg : y < 0
  · have habs : -(y.natAbs : Int) = y := by omega
    rw [if_pos hneg, List.append_assoc, List.singleton_append, year_minus (by omega) hrest, habs]
  · have habs : (y.natAbs : Int) = y := by omega
    by_cases hlarge : 9999 < y
    · rw [if_neg hneg, if_pos hlarge, List.append_assoc, List.singleton_append,
        year_plus (by omega) hrest, habs]
    · rw [if_neg hneg, if_neg hlarge, List.nil_append, year_plain (by omega) hrest, habs]

theorem toList_date_text (d : Date) :
    d.text.toList = yearChars d.year ++ '-' :: ((Numeral.padded 2 d.month).toList ++
      '-' :: (Numeral.padded 2 d.day).toList) := by
  have hdash : "-".toList = ['-'] := rfl
  have hplus : "+".toList = ['+'] := rfl
  simp only [Date.text, yearChars, String.toList_append, hdash, List.append_assoc,
    List.singleton_append]
  split
  · rfl
  · split <;> rfl

/-! ### Fractions -/

/-- A fraction of a second is read as nanoseconds whatever number of its digits is written. -/
theorem fraction_padded {width n : Nat} {rest : List Char} (hwidth : 0 < width)
    (hnine : width ≤ 9) (hn : n < 10 ^ width) (hrest : Ends rest) :
    fraction ('.' :: ((Numeral.padded width n).toList ++ rest)) =
      .ok (n * 10 ^ (9 - width), rest) := by
  have hlength := Numeral.length_padded hwidth hn
  have hdigits := digits_append (fun c hc => Numeral.isDigit_of_mem_padded hc)
    (Numeral.padded_ne_nil width n) (hlength.symm ▸ hnine) hrest
  have hdrop : rest.dropWhile Char.isDigit = rest := by
    cases rest with
    | nil => rfl
    | cons c rest => exact List.dropWhile_cons_of_neg (by simp [hrest c rfl])
  rw [fraction, hdigits]
  simp only [bind, Except.bind, Numeral.ofDigits_padded, hlength, hdrop]
  rfl

theorem ends_fractionText (nanos : Nat) (rest : List Char) :
    Ends ((fractionText nanos).toList ++ 'Z' :: rest) := by
  have hpoint : ∀ s : String, ("." ++ s).toList = '.' :: s.toList := by
    intro s
    rw [String.toList_append]
    rfl
  have hends : ∀ s : String, Ends (("." ++ s).toList ++ 'Z' :: rest) := by
    intro s
    rw [hpoint, List.cons_append]
    exact ends_cons (by decide) _
  unfold fractionText
  split
  · exact ends_cons (by decide) rest
  · split
    · exact hends _
    · split
      · exact hends _
      · exact hends _

theorem fraction_fractionText {nanos : Nat} (h : nanos < 10 ^ 9) (rest : List Char) :
    fraction ((fractionText nanos).toList ++ 'Z' :: rest) = .ok (nanos, 'Z' :: rest) := by
  have hrest : Ends ('Z' :: rest) := ends_cons (by decide) rest
  have hpoint : ".".toList = ['.'] := rfl
  by_cases hzero : nanos = 0
  · subst hzero
    rfl
  by_cases hmillis : nanos % 10 ^ 6 = 0
  · have hmul : nanos / 10 ^ 6 * 10 ^ (9 - 3) = nanos := by omega
    rw [fractionText, if_neg hzero, if_pos hmillis, String.toList_append, hpoint,
      List.append_assoc, List.singleton_append,
      fraction_padded (by decide) (by decide) (by omega) hrest, hmul]
  by_cases hmicros : nanos % 10 ^ 3 = 0
  · have hmul : nanos / 10 ^ 3 * 10 ^ (9 - 6) = nanos := by omega
    rw [fractionText, if_neg hzero, if_neg hmillis, if_pos hmicros, String.toList_append, hpoint,
      List.append_assoc, List.singleton_append,
      fraction_padded (by decide) (by decide) (by omega) hrest, hmul]
  · rw [fractionText, if_neg hzero, if_neg hmillis, if_neg hmicros, String.toList_append, hpoint,
      List.append_assoc, List.singleton_append,
      fraction_padded (by decide) (by decide) h hrest, Nat.sub_self, Nat.pow_zero, Nat.mul_one]

/-! ### Instants -/

theorem toList_text {t : Instant} (h : t.nanos < 10 ^ 9) :
    t.text.toList = yearChars t.date.year ++ '-' :: ((Numeral.padded 2 t.date.month).toList ++
      '-' :: ((Numeral.padded 2 t.date.day).toList ++ 'T' ::
        ((Numeral.padded 2 (t.secondOfDay / 3600)).toList ++ ':' ::
          ((Numeral.padded 2 (t.secondOfDay / 60 % 60)).toList ++ ':' ::
            ((Numeral.padded 2 (t.secondOfDay % 60)).toList ++
              ((fractionText t.nanos).toList ++ ['Z'])))))) := by
  have hleap : t.nanos / 10 ^ 9 = 0 := Nat.div_eq_of_lt h
  have hdivider : "T".toList = ['T'] := rfl
  have hcolon : ":".toList = [':'] := rfl
  have hzone : "Z".toList = ['Z'] := rfl
  simp only [text, hleap, Nat.add_zero, Nat.mod_eq_of_lt h, String.toList_append, hdivider, hcolon,
    hzone, toList_date_text, List.append_assoc, List.cons_append, List.nil_append]

/-- The years of the days that are kept. -/
theorem year_bounds_of_regular {t : Instant} (h : t.Regular) :
    -2 ^ 31 ≤ t.date.year ∧ t.date.year < 2 ^ 31 := by
  obtain ⟨i, hi, hyear, -, -, -, -⟩ := Date.ofDays_spec (t.seconds / 86400)
  have hdate : t.date.year = yearOfDay (t.seconds / 86400) := hyear
  obtain ⟨hlow, hhigh⟩ := yearOfDay_spec (t.seconds / 86400)
  have hfirst : firstDay = -96465292 := by decide +kernel
  have hlast : lastDay = 95026236 := by decide +kernel
  have hfirstDay := h.firstDay_le
  have hlastDay := h.le_lastDay
  have hbound := daysBeforeYear_bounds (yearOfDay (t.seconds / 86400))
  have hbound' := daysBeforeYear_bounds (yearOfDay (t.seconds / 86400) + 1)
  rw [hfirst] at hfirstDay
  rw [hlast] at hlastDay
  rw [hdate]
  omega

/-- The clock reading of an instant. -/
def clock (t : Instant) : Reading :=
  ⟨t.date, t.secondOfDay / 3600, t.secondOfDay / 60 % 60, t.secondOfDay % 60, t.nanos, 0⟩

theorem reading_text {t : Instant} (h : t.Regular) : reading t.text.toList = .ok (t.clock, []) := by
  obtain ⟨hlow, hhigh⟩ := year_bounds_of_regular h
  obtain ⟨hmonth, htwelve, hday, hlength⟩ : t.date.Valid := Date.valid_ofDays _
  have hthirty : t.date.day ≤ 31 := Nat.le_trans hlength (Date.monthLength_le _)
  have hseconds : t.secondOfDay < 86400 := by
    unfold secondOfDay
    omega
  have hdash : ∀ rest, Ends ('-' :: rest) := ends_cons (by decide)
  have hcolon : ∀ rest, Ends (':' :: rest) := ends_cons (by decide)
  have hdivider : ∀ rest, Ends ('T' :: rest) := ends_cons (by decide)
  have hdash' : isBlankChar '-' = false := by decide
  have hcolon' : isBlankChar ':' = false := by decide
  have hzone : offset (skipBlanks ['Z']) = .ok (0, []) := rfl
  -- from left to right, each part is read from its own characters and leaves the others
  rw [toList_text h.nanos_lt, reading, year_yearChars hlow hhigh (hdash _)]
  simp only [bind, Except.bind, separator_cons hdash', separator_cons hcolon', divider,
    true_or, if_true,
    field_padded hmonth htwelve (Nat.lt_of_le_of_lt htwelve (by decide)) (hdash _),
    field_padded hday hthirty (Nat.lt_of_le_of_lt hthirty (by decide)) (hdivider _),
    field_padded (Nat.zero_le (t.secondOfDay / 3600)) (show _ ≤ 23 by omega) (by omega) (hcolon _),
    field_padded (Nat.zero_le (t.secondOfDay / 60 % 60)) (show _ ≤ 59 by omega) (by omega)
      (hcolon _),
    field_padded (Nat.zero_le (t.secondOfDay % 60)) (show _ ≤ 60 by omega) (by omega)
      (ends_fractionText t.nanos []),
    fraction_fractionText h.nanos_lt, hzone]
  rfl

theorem instant_clock {t : Instant} (h : t.Regular) : t.clock.instant = .ok t := by
  have hdate : t.date.Valid := Date.valid_ofDays _
  have hday : t.date.toDays = t.seconds / 86400 := Date.toDays_ofDays _
  have hfirst := h.firstDay_le
  have hlast := h.le_lastDay
  have hnanos := h.nanos_lt
  have hleap : t.secondOfDay % 60 / 60 = 0 := by omega
  have hseconds : t.seconds / 86400 * 86400 + ((t.secondOfDay / 3600 * 3600 +
      t.secondOfDay / 60 % 60 * 60 + t.secondOfDay % 60 : Nat) : Int) = t.seconds := by
    unfold secondOfDay
    omega
  have hbound : t.nanos < 2 * 10 ^ 9 := by omega
  have hkept : ¬ (¬ t.date.Valid ∨ t.seconds / 86400 < firstDay ∨
      lastDay < t.seconds / 86400) := by
    rintro (hinvalid | hbefore | hafter)
    · exact hinvalid hdate
    · exact Int.not_lt.2 hfirst hbefore
    · exact Int.not_lt.2 hlast hafter
  simp only [Reading.instant, clock, hday, hleap, Nat.zero_mul, Nat.add_zero, Nat.sub_zero,
    Int.sub_zero, hseconds]
  rw [if_neg hkept, if_neg (by decide), if_neg (by omega), dif_pos hbound]

/-- **Instants are read back.** The text of a regular instant denotes the instant. -/
theorem ofText?_text {t : Instant} (h : t.Regular) : ofText? t.text = .ok t := by
  rw [ofText?, reading_text h]
  exact instant_clock h

end Instant

end RecordStore
