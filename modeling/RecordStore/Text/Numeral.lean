/-!
# Numerals

Decimal and hexadecimal numerals with a fixed least width, digits with a point among them, and the
reading of both.

## Main definitions

* `Numeral.padded`, `Numeral.hex`: digits of a least width.
* `Numeral.positional`, `Numeral.pointed?`: digits with a point.
* `Numeral.decimal?`, `Numeral.integer?` and others: numbers without one.

## Main results

* `Numeral.decimal?_toDigits`: digits are read as the number that they are of.
* `Numeral.splitPoint_positional`, `Numeral.pointed?_positional`: the point is found again.
-/

-- Powers stay `Nat.pow` and `Int.pow` where an algebra library is imported that has powers in every
-- monoid, so limits such as `2 ^ 64` are the same terms in the lemmas as in the definitions.
attribute [instance(high), default_instance(high + 1)] instPowNat

namespace RecordStore

namespace Numeral

/-- As many zeros as asked for. -/
def zeros (n : Nat) : String :=
  String.ofList (List.replicate n '0')

/-- The decimal numeral of `n`, filled with leading zeros up to `width` digits. -/
def padded (width n : Nat) : String :=
  let digits := toString n
  zeros (width - digits.length) ++ digits

/-- The hexadecimal numeral of `n` in lower case, filled up to `width` digits. -/
def hex (width n : Nat) : String :=
  let digits := String.ofList (Nat.toDigits 16 n)
  zeros (width - digits.length) ++ digits

/-- The value of a decimal digit. -/
def digit? (c : Char) : Option Nat :=
  if c.isDigit then some (c.toNat - '0'.toNat) else none

/-- The value of a hexadecimal digit of either case. -/
def hexDigit? (c : Char) : Option Nat :=
  if c.isDigit then some (c.toNat - '0'.toNat)
  else if 'a' ≤ c ∧ c ≤ 'f' then some (c.toNat - 'a'.toNat + 10)
  else if 'A' ≤ c ∧ c ≤ 'F' then some (c.toNat - 'A'.toNat + 10)
  else none

/-- The number that a list of digits denotes, most significant first. -/
def ofDigits (base : Nat) (digits : List Nat) : Nat :=
  digits.foldl (fun n d => n * base + d) 0

/-- The natural number that the characters write in decimal, if they are digits, at
least one. -/
def decimal? (cs : List Char) : Option Nat :=
  if cs.isEmpty then none else (cs.mapM digit?).map (ofDigits 10)

/-- The natural number that the characters write in hexadecimal. -/
def hexadecimal? (cs : List Char) : Option Nat :=
  if cs.isEmpty then none else (cs.mapM hexDigit?).map (ofDigits 16)

/-- The natural number that the characters write in decimal, after an optional plus sign. -/
def unsigned? : List Char → Option Nat
  | '+' :: cs => decimal? cs
  | cs => decimal? cs

/-- The integer that the characters write in decimal, after an optional minus sign. -/
def integer? : List Char → Option Int
  | '-' :: cs => (decimal? cs).map fun n => -(n : Int)
  | cs => (decimal? cs).map fun n => (n : Int)

/-- The integer that the characters write in decimal, after an optional sign. -/
def signed? : List Char → Option Int
  | '+' :: cs => (decimal? cs).map fun n => (n : Int)
  | cs => integer? cs

/-! ### Digits with a point -/

/-- Digits with enough zeros in front for `places` of them to stand behind a point and one before
it. -/
def filled (digits : List Char) (places : Nat) : List Char :=
  List.replicate (places + 1 - digits.length) '0' ++ digits

/-- Digits with the point `places` before their end. -/
def positional (digits : List Char) (places : Nat) : List Char :=
  let all := filled digits places
  all.take (all.length - places) ++
    if places = 0 then [] else '.' :: all.drop (all.length - places)

/-- A power of ten with its sign, of which zero has none. -/
def power (e : Int) : List Char :=
  (if e < 0 then ['-'] else if 0 < e then ['+'] else []) ++ Nat.toDigits 10 e.natAbs

/-- The natural number of 32 bits that the characters write, after an optional plus sign. -/
def exponent? (cs : List Char) : Option Nat :=
  (unsigned? cs).filter (· < 2 ^ 32)

/-- The power of ten that the characters write, after an optional sign. -/
def power? : List Char → Option Int
  | '-' :: cs => (exponent? cs).map fun n : Nat => -(n : Int)
  | cs => (exponent? cs).map fun n : Nat => (n : Int)

/-- The characters before the first point and those behind it. -/
def splitPoint (cs : List Char) : List Char × List Char :=
  let whole := cs.takeWhile (· != '.')
  (whole, cs.drop (whole.length + 1))

/-- Whether a minus sign stands in front, and the characters behind the sign, if there is one. -/
def takeSign : List Char → Bool × List Char
  | '-' :: cs => (true, cs)
  | '+' :: cs => (false, cs)
  | cs => (false, cs)

/-- A minus sign in front of characters, or none. -/
def signed (negative : Bool) (cs : List Char) : List Char :=
  (if negative then ['-'] else []) ++ cs

/-- What digits with at most one point write: the number without the point, and how many of them
stand behind it. -/
def pointed? (cs : List Char) : Option (Nat × Nat) :=
  let (whole, part) := splitPoint cs
  (decimal? (whole ++ part)).map fun n => (n, part.length)

/-! ### What is read from digits -/

theorem mapM_digit?_of_isDigit {cs : List Char} (h : ∀ c ∈ cs, c.isDigit = true) :
    cs.mapM digit? = some (cs.map fun c => c.toNat - '0'.toNat) := by
  induction cs with
  | nil => rfl
  | cons c rest ih =>
    obtain ⟨hc, hrest⟩ := List.forall_mem_cons.1 h
    rw [List.mapM_cons, digit?, if_pos hc, ih hrest]
    rfl

theorem ofDigits_map (cs : List Char) (init : Nat) :
    (cs.map fun c => c.toNat - '0'.toNat).foldl (fun n d => n * 10 + d) init =
      Nat.ofDigitChars 10 cs init := by
  induction cs generalizing init with
  | nil => rfl
  | cons c rest ih =>
    rw [List.map_cons, List.foldl_cons, ih, Nat.ofDigitChars_cons, Nat.mul_comm]

theorem decimal?_of_isDigit {cs : List Char} (hne : cs ≠ []) (h : ∀ c ∈ cs, c.isDigit = true) :
    decimal? cs = some (Nat.ofDigitChars 10 cs 0) := by
  have hempty : ¬cs.isEmpty = true := by simpa using hne
  rw [decimal?, if_neg hempty, mapM_digit?_of_isDigit h, Option.map_some, ofDigits, ofDigits_map]

theorem decimal?_eq_none_of_mem {cs : List Char} {c : Char} (hc : c ∈ cs)
    (hdigit : c.isDigit = false) : decimal? cs = none := by
  have hmapM : cs.mapM digit? = none := by
    induction cs with
    | nil => cases hc
    | cons first rest ih =>
      rw [List.mapM_cons]
      obtain rfl | hc := List.mem_cons.1 hc
      · rw [digit?, if_neg (by simp [hdigit])]
        rfl
      · rw [ih hc]
        cases digit? first <;> rfl
  rw [decimal?, hmapM]
  split <;> rfl

theorem isDigit_toDigits (n : Nat) : ∀ c ∈ Nat.toDigits 10 n, c.isDigit = true := fun _ h =>
  Nat.isDigit_of_mem_toDigits (by decide) (by decide) h

/-- Digits are read as the number that they are of. -/
theorem decimal?_toDigits (n : Nat) : decimal? (Nat.toDigits 10 n) = some n := by
  rw [decimal?_of_isDigit Nat.toDigits_ne_nil (isDigit_toDigits n), Nat.ofDigitChars_ten_toDigits]

theorem unsigned?_toDigits (n : Nat) : unsigned? (Nat.toDigits 10 n) = some n := by
  have hdigits := decimal?_toDigits n
  unfold unsigned?
  split
  · next cs hplus =>
    have hdigit : '+'.isDigit = true := isDigit_toDigits n '+' (hplus ▸ List.mem_cons_self)
    cases hdigit
  · exact hdigits

theorem integer?_toDigits (n : Nat) : integer? (Nat.toDigits 10 n) = some (n : Int) := by
  unfold integer?
  split
  · next cs hminus =>
    have hdigit : '-'.isDigit = true := isDigit_toDigits n '-' (hminus ▸ List.mem_cons_self)
    cases hdigit
  · rw [decimal?_toDigits]
    rfl

/-- Only zero has a zero in front. -/
theorem dropWhile_toDigits {n : Nat} (hn : 0 < n) :
    (Nat.toDigits 10 n).dropWhile (· == '0') = Nat.toDigits 10 n := by
  have hhead : ∃ c rest, Nat.toDigits 10 n = c :: rest ∧ c ≠ '0' := by
    induction n using Nat.strongRecOn with
    | ind n ih =>
      by_cases hsmall : n < 10
      · refine ⟨n.digitChar, [], Nat.toDigits_of_lt_base hsmall, ?_⟩
        have hdigits : ∀ k < 10, 0 < k → Nat.digitChar k ≠ '0' := by decide
        exact hdigits n hsmall hn
      · obtain ⟨c, rest, htoDigits, hc⟩ := ih (n / 10) (by omega) (by omega)
        refine ⟨c, rest ++ [(n % 10).digitChar], ?_, hc⟩
        rw [Nat.toDigits_of_base_le (by decide) (by omega), htoDigits, List.cons_append]
  obtain ⟨c, rest, htoDigits, hc⟩ := hhead
  rw [htoDigits, List.dropWhile_cons, if_neg (by simpa using hc)]

/-! ### What is read from digits with a point -/

theorem length_filled (digits : List Char) (places : Nat) :
    places < (filled digits places).length := by
  rw [filled, List.length_append, List.length_replicate]
  omega

theorem dropWhile_filled (digits : List Char) (places : Nat) :
    (filled digits places).dropWhile (· == '0') = digits.dropWhile (· == '0') := by
  refine List.dropWhile_append_of_pos fun c hc => ?_
  rw [List.eq_of_mem_replicate hc]
  rfl

theorem isDigit_of_mem_filled {digits : List Char} (h : ∀ c ∈ digits, c.isDigit = true)
    (places : Nat) : ∀ c ∈ filled digits places, c.isDigit = true := by
  intro c hc
  obtain hc | hc := List.mem_append.1 hc
  · rw [List.eq_of_mem_replicate hc]
    rfl
  · exact h c hc

theorem isDigit_or_eq_of_mem_positional {digits : List Char} (h : ∀ c ∈ digits, c.isDigit = true)
    (places : Nat) : ∀ c ∈ positional digits places, c.isDigit = true ∨ c = '.' := by
  intro c hc
  have hdigits := isDigit_of_mem_filled h places
  rw [positional] at hc
  obtain hc | hc := List.mem_append.1 hc
  · exact .inl (hdigits c (List.mem_of_mem_take hc))
  · split at hc
    · cases hc
    · obtain rfl | hc := List.mem_cons.1 hc
      · exact .inr rfl
      · exact .inl (hdigits c (List.mem_of_mem_drop hc))

/-- A search for a character that is neither a digit nor a point passes over all of them. -/
theorem takeWhile_positional {p : Char → Bool}
    (hp : ∀ c : Char, c.isDigit = true ∨ c = '.' → p c = true) (n places : Nat) (cs : List Char) :
    (positional (Nat.toDigits 10 n) places ++ cs).takeWhile p =
      positional (Nat.toDigits 10 n) places ++ cs.takeWhile p :=
  List.takeWhile_append_of_pos fun c hc =>
    hp c (isDigit_or_eq_of_mem_positional (isDigit_toDigits n) places c hc)

/-- A digit stands in front. -/
theorem exists_positional_eq_cons {digits : List Char} (h : ∀ c ∈ digits, c.isDigit = true)
    (places : Nat) :
    ∃ c rest, positional digits places = c :: rest ∧ c.isDigit = true := by
  have hlength := length_filled digits places
  have hdigits := isDigit_of_mem_filled h places
  rw [positional]
  cases hfilled : filled digits places with
  | nil =>
    rw [hfilled] at hlength
    cases hlength
  | cons c all =>
    rw [hfilled] at hlength hdigits
    obtain ⟨k, hwhole⟩ : ∃ k, (c :: all).length - places = k + 1 :=
      ⟨(c :: all).length - places - 1, by omega⟩
    simp only [hwhole, List.take_succ_cons, List.cons_append]
    exact ⟨c, _, rfl, hdigits c List.mem_cons_self⟩

/-- The sign is found again. -/
theorem takeSign_signed (negative : Bool) {digits : List Char}
    (h : ∀ c ∈ digits, c.isDigit = true) (places : Nat) (cs : List Char) :
    takeSign (signed negative (positional digits places ++ cs)) =
      (negative, positional digits places ++ cs) := by
  cases negative with
  | true => rfl
  | false =>
    obtain ⟨c, rest, hcons, hc⟩ := exists_positional_eq_cons h places
    rw [signed, if_neg Bool.false_ne_true, List.nil_append, hcons, List.cons_append]
    unfold takeSign
    split
    · next heq =>
      obtain rfl := (List.cons.inj heq).1
      cases hc
    · next heq =>
      obtain rfl := (List.cons.inj heq).1
      cases hc
    · rfl

theorem splitPoint_cons (c : Char) (cs : List Char) :
    splitPoint (c :: cs) =
      if c = '.' then ([], cs) else (c :: (splitPoint cs).1, (splitPoint cs).2) := by
  rw [splitPoint, List.takeWhile_cons]
  by_cases hc : c = '.'
  · simp [hc]
  · simp [hc, splitPoint]

theorem splitPoint_append {whole : List Char} (h : ∀ c ∈ whole, c.isDigit = true)
    (cs : List Char) :
    splitPoint (whole ++ cs) = (whole ++ (splitPoint cs).1, (splitPoint cs).2) := by
  induction whole with
  | nil => rfl
  | cons c rest ih =>
    obtain ⟨hc, hrest⟩ := List.forall_mem_cons.1 h
    have hpoint : c ≠ '.' := by
      rintro rfl
      exact absurd hc (by decide)
    rw [List.cons_append, splitPoint_cons, if_neg hpoint, ih hrest]
    rfl

theorem mem_splitPoint {cs : List Char} {c : Char} (hc : c ∈ cs) (hpoint : c ≠ '.') :
    c ∈ (splitPoint cs).1 ++ (splitPoint cs).2 := by
  induction cs with
  | nil => cases hc
  | cons first rest ih =>
    rw [splitPoint_cons]
    obtain rfl | hc := List.mem_cons.1 hc
    · rw [if_neg hpoint]
      exact List.mem_cons_self
    · split
      · exact hc
      · exact List.mem_cons_of_mem first (ih hc)

/-- The point is found again. -/
theorem splitPoint_positional {digits : List Char} (h : ∀ c ∈ digits, c.isDigit = true)
    (places : Nat) :
    splitPoint (positional digits places) =
      ((filled digits places).take ((filled digits places).length - places),
        (filled digits places).drop ((filled digits places).length - places)) := by
  have hdigits := isDigit_of_mem_filled h places
  rw [positional]
  generalize filled digits places = all at hdigits ⊢
  by_cases hplaces : places = 0
  · simp only [hplaces, Nat.sub_zero, List.take_length, List.drop_length, if_true]
    rw [splitPoint_append hdigits, show splitPoint [] = ([], []) from rfl, List.append_nil]
  · simp only [if_neg hplaces]
    rw [splitPoint_append fun c hc => hdigits c (List.mem_of_mem_take hc), splitPoint_cons,
      if_pos rfl, List.append_nil]

/-- The digits behind the point are those there are to be. -/
theorem length_drop_filled (digits : List Char) (places : Nat) :
    ((filled digits places).drop ((filled digits places).length - places)).length = places := by
  have hlength := length_filled digits places
  rw [List.length_drop]
  omega

/-- A number is read from its digits with a point, and so is how many stand behind it. -/
theorem pointed?_positional (n places : Nat) :
    pointed? (positional (Nat.toDigits 10 n) places) = some (n, places) := by
  have hdigits := isDigit_toDigits n
  have hnumber : decimal? (filled (Nat.toDigits 10 n) places) = some n := by
    have hne : filled (Nat.toDigits 10 n) places ≠ [] :=
      List.length_pos_iff.1 (Nat.zero_lt_of_lt (length_filled _ places))
    rw [decimal?_of_isDigit hne (isDigit_of_mem_filled hdigits places), filled,
      Nat.ofDigitChars_append, Nat.ofDigitChars_replicate_zero, Nat.mul_zero,
      Nat.ofDigitChars_ten_toDigits]
  rw [pointed?, splitPoint_positional hdigits]
  simp only [List.take_append_drop, hnumber, Option.map_some, length_drop_filled]

theorem exponent?_toDigits {n : Nat} (h : n < 2 ^ 32) : exponent? (Nat.toDigits 10 n) = some n := by
  rw [exponent?, unsigned?_toDigits, Option.filter_some, if_pos (decide_eq_true h)]

/-- A power of ten is read with its sign. -/
theorem power?_power {e : Int} (h : e.natAbs < 2 ^ 32) : power? (power e) = some e := by
  have hdigits := exponent?_toDigits h
  by_cases hneg : e < 0
  · rw [power, if_pos hneg, List.singleton_append, power?, hdigits, Option.map_some,
      show -(e.natAbs : Int) = e by omega]
  · by_cases hpos : 0 < e
    · have hplus : exponent? ('+' :: Nat.toDigits 10 e.natAbs) = some e.natAbs := by
        rw [exponent?, unsigned?, decimal?_toDigits, Option.filter_some,
          if_pos (decide_eq_true h)]
      rw [power, if_neg hneg, if_pos hpos, List.singleton_append, power?, hplus,
        Option.map_some, show (e.natAbs : Int) = e by omega]
      simp
    · obtain rfl : e = 0 := by omega
      rfl

/-- A character that is neither a digit nor a point makes a text unreadable. -/
theorem pointed?_eq_none_of_mem {cs : List Char} {c : Char} (hc : c ∈ cs) (hpoint : c ≠ '.')
    (hdigit : c.isDigit = false) : pointed? cs = none := by
  rw [pointed?]
  simp only [decimal?_eq_none_of_mem (mem_splitPoint hc hpoint) hdigit, Option.map_none]

end Numeral

end RecordStore
