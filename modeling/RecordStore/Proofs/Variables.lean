import RecordStore.Proofs.Except
import RecordStore.Settings.Lookup
/-!
# Which variables make settings

Settings can be read from variables if and only if the address is there, neither name is blank,
every number is missing, empty or written in digits below its bound, and the bounds of the pool do
not cross. They then hold what the variables say, and they are valid.

## Main definitions

* `Numeral.Writes`: the digits of a number behind an optional plus sign.
* `Settings.Given`: what a variable says about a number.
* `Settings.Acceptable`, `Settings.Describes`: variables that make settings, and those that make
  given ones.

## Main results

* `Settings.number_eq_ok_iff`: which texts are read as numbers.
* `Settings.ofLookup_accepts`: which variables make settings, and which settings.
-/

namespace RecordStore

/-! ### Numerals -/

namespace Numeral

variable {cs : List Char} {n : Nat}

/-- Digits, at least one, that denote a number. There may be zeros in front. -/
structure Denotes (cs : List Char) (n : Nat) : Prop where
  /-- There is a digit. -/
  ne_nil : cs ≠ []
  /-- There is nothing else. -/
  isDigit : ∀ c ∈ cs, c.isDigit = true
  /-- The number. -/
  value : Nat.ofDigitChars 10 cs 0 = n

/-- An optional plus sign with the digits of a number behind it. -/
def Writes (cs : List Char) (n : Nat) : Prop :=
  Denotes cs n ∨ ∃ ds, cs = '+' :: ds ∧ Denotes ds n

theorem not_denotes_plus : ¬ Denotes ('+' :: cs) n := fun h =>
  absurd (h.isDigit '+' List.mem_cons_self) (by decide)

theorem writes_plus_iff : Writes ('+' :: cs) n ↔ Denotes cs n := by
  unfold Writes
  simp only [not_denotes_plus, List.cons.injEq, true_and, exists_eq_left', false_or]

theorem writes_iff_of_ne (h : ∀ ds, cs ≠ '+' :: ds) : Writes cs n ↔ Denotes cs n :=
  or_iff_left fun ⟨ds, hds, _⟩ => h ds hds

theorem Writes.ne_nil (h : Writes cs n) : cs ≠ [] := by
  obtain h | ⟨ds, rfl, -⟩ := h
  · exact h.ne_nil
  · exact List.cons_ne_nil '+' ds

theorem le_ofDigitChars (cs : List Char) (init : Nat) : init ≤ Nat.ofDigitChars 10 cs init := by
  induction cs generalizing init with
  | nil => exact Nat.le_refl init
  | cons c rest ih =>
    rw [Nat.ofDigitChars_cons]
    have hrest := ih (10 * init + (c.toNat - '0'.toNat))
    omega

end Numeral

namespace Settings

variable {lookup : String → Option String} {name s : String} {bound n : Nat} {n? : Option Nat}

/-! ### Numbers -/

/-- Digits are read up to the first number that is too large, so a number is read if and only if
the last one is not. -/
theorem digits_eq_ok_iff {read : Nat} {cs : List Char} (hread : read < bound) :
    digits bound read cs = .ok n ↔
      (∀ c ∈ cs, c.isDigit = true) ∧ Nat.ofDigitChars 10 cs read = n ∧ n < bound := by
  induction cs generalizing read with
  | nil =>
    rw [digits, Nat.ofDigitChars_nil, Except.ok.injEq]
    constructor
    · rintro rfl
      exact ⟨fun c hc => absurd hc List.not_mem_nil, rfl, hread⟩
    · exact fun h => h.2.1
  | cons c rest ih =>
    rw [digits, Nat.ofDigitChars_cons, List.forall_mem_cons, Nat.mul_comm 10 read]
    by_cases hc : c.isDigit = true
    · simp only [Numeral.digit?, if_pos hc]
      split
      · next hlt => rw [ih hlt, and_iff_right hc]
      · next hlt =>
        have hle := Numeral.le_ofDigitChars rest (read * 10 + (c.toNat - '0'.toNat))
        refine iff_of_false (by simp) ?_
        rintro ⟨-, rfl, hbound⟩
        omega
    · simp only [Numeral.digit?, if_neg hc]
      exact iff_of_false (by simp) fun h => hc h.1.1

theorem digits_zero_eq_ok_iff {cs : List Char} (hbound : 0 < bound) (hcs : cs ≠ []) :
    digits bound 0 cs = .ok n ↔ Numeral.Denotes cs n ∧ n < bound := by
  rw [digits_eq_ok_iff hbound, ← and_assoc]
  refine and_congr_left fun _ => ⟨fun h => ⟨hcs, h.1, h.2⟩, fun h => ⟨h.isDigit, h.value⟩⟩

/-- A text is read as the number that it writes, if that is below the bound. -/
theorem number_eq_ok_iff (hbound : 0 < bound) :
    number bound s = .ok n ↔ Numeral.Writes s.toList n ∧ n < bound := by
  unfold number
  split
  · next hs =>
    rw [hs, Numeral.writes_iff_of_ne fun ds h => by cases h]
    exact iff_of_false (by simp) fun h => h.1.ne_nil rfl
  · next hs =>
    rw [hs, Numeral.writes_plus_iff]
    exact iff_of_false (by simp) fun h => h.1.ne_nil rfl
  · next cs hcs hs =>
    rw [hs, Numeral.writes_plus_iff]
    exact digits_zero_eq_ok_iff hbound hcs
  · next cs hne _ hplus =>
    rw [Numeral.writes_iff_of_ne hplus]
    exact digits_zero_eq_ok_iff hbound hne

/-- What a variable says about a number below a bound. -/
inductive Given (lookup : String → Option String) (name : String) (bound : Nat) :
    Option Nat → Prop
  /-- The variable is missing. -/
  | missing (h : lookup name = none) : Given lookup name bound none
  /-- The variable is empty, which counts as missing. -/
  | empty (h : lookup name = some "") : Given lookup name bound none
  /-- The variable writes a number. -/
  | number {s : String} {n : Nat} (h : lookup name = some s) (hs : Numeral.Writes s.toList n)
      (hn : n < bound) : Given lookup name bound (some n)

theorem present_eq_some_iff :
    present lookup name = some s ↔ lookup name = some s ∧ s ≠ "" := by
  unfold present
  rw [Option.filter_eq_some_iff]
  simp

theorem present_eq_none_iff :
    present lookup name = none ↔ lookup name = none ∨ lookup name = some "" := by
  unfold present
  cases lookup name <;> simp

/-- A number is read from a variable as the variable says. -/
theorem numberIn_eq_ok_iff (hbound : 0 < bound) :
    numberIn lookup name bound = .ok n? ↔ Given lookup name bound n? := by
  unfold numberIn
  cases hpresent : present lookup name with
  | none =>
    have habsent := present_eq_none_iff.1 hpresent
    constructor
    · rintro ⟨⟩
      exact habsent.elim .missing .empty
    · rintro (_ | _ | ⟨hs, hwrites, -⟩)
      · rfl
      · rfl
      · rw [hs] at habsent
        obtain h | h := habsent
        · cases h
        · cases h
          exact absurd rfl hwrites.ne_nil
  | some s =>
    obtain ⟨hs, hne⟩ := present_eq_some_iff.1 hpresent
    have hnumber := fun n => number_eq_ok_iff (s := s) (n := n) hbound
    dsimp only
    constructor
    · intro h
      split at h
      · next n hn =>
        cases h
        obtain ⟨hwrites, hlt⟩ := (hnumber n).1 hn
        exact .number hs hwrites hlt
      · cases h
    · rintro (h | h | ⟨h, hwrites, hlt⟩)
      · rw [hs] at h
        cases h
      · rw [hs] at h
        cases h
        exact absurd rfl hne
      · rw [hs] at h
        cases h
        rw [(hnumber _).2 ⟨hwrites, hlt⟩]

/-- What else is in the variable is a fault of the settings. -/
theorem exists_of_numberIn_eq_error {e : StorageError} (h : numberIn lookup name bound = .error e) :
    ∃ fault, e = .configuration fault := by
  unfold numberIn at h
  split at h
  · cases h
  · split at h
    · cases h
    · cases h
      exact ⟨_, rfl⟩

/-! ### Settings -/

/-- Settings are valid if neither name is blank and the bounds of the pool do not cross. -/
theorem validate_eq_ok_iff {s : Settings} :
    s.validate = .ok () ↔ isBlank s.address = false ∧ isBlank s.database = false ∧
      ∀ min max, s.minPoolSize = some min → s.maxPoolSize = some max → min ≤ max := by
  unfold validate
  cases isBlank s.address <;> cases isBlank s.database <;>
    cases s.minPoolSize <;> cases s.maxPoolSize <;> simp

theorem exists_of_validate_eq_error {s : Settings} {e : StorageError} (h : s.validate = .error e) :
    ∃ fault, e = .configuration fault := by
  unfold validate at h
  split at h
  · cases h
    exact ⟨_, rfl⟩
  · split at h
    · cases h
      exact ⟨_, rfl⟩
    · split at h
      · split at h
        · cases h
          exact ⟨_, rfl⟩
        · cases h
      · cases h

/-- Variables that make settings. -/
structure Acceptable (lookup : String → Option String) : Prop where
  /-- The address is there and not blank. -/
  address : ∃ s, lookup addressVariable = some s ∧ isBlank s = false
  /-- The name of the database is not blank if it is there. -/
  database : ∀ s, lookup databaseVariable = some s → isBlank s = false
  /-- The greatest size of the pool is a number if it is there. -/
  maxPoolSize : ∃ n?, Given lookup maxPoolSizeVariable (2 ^ 32) n?
  /-- The least size of the pool is a number if it is there. -/
  minPoolSize : ∃ n?, Given lookup minPoolSizeVariable (2 ^ 32) n?
  /-- The idle time is a number if it is there. -/
  maxIdleSeconds : ∃ n?, Given lookup maxIdleSecondsVariable (2 ^ 64) n?
  /-- The bounds of the pool do not cross. -/
  min_le_max : ∀ min max, Given lookup minPoolSizeVariable (2 ^ 32) (some min) →
    Given lookup maxPoolSizeVariable (2 ^ 32) (some max) → min ≤ max

/-- Settings hold what variables say. -/
structure Describes (lookup : String → Option String) (s : Settings) : Prop where
  /-- The address is as it stands. -/
  address : lookup addressVariable = some s.address
  /-- So is the name of the database, which has a default. -/
  database : s.database = (lookup databaseVariable).getD "test"
  /-- The greatest size of the pool is the number, or absent. -/
  maxPoolSize : Given lookup maxPoolSizeVariable (2 ^ 32) (s.maxPoolSize.map UInt32.toNat)
  /-- The least size of the pool is the number, or absent. -/
  minPoolSize : Given lookup minPoolSizeVariable (2 ^ 32) (s.minPoolSize.map UInt32.toNat)
  /-- The idle time is the number, or absent. -/
  maxIdleSeconds : Given lookup maxIdleSecondsVariable (2 ^ 64) (s.maxIdleSeconds.map UInt64.toNat)
  /-- The name of the application is as it stands, or absent if it is empty. -/
  appName : ∀ name, s.appName = some name ↔ lookup appNameVariable = some name ∧ name ≠ ""

theorem Given.lt (h : Given lookup name bound (some n)) : n < bound := by
  cases h with
  | number _ _ hn => exact hn

/-- A variable says one thing about a number. -/
theorem Given.unique {m? : Option Nat} (hbound : 0 < bound) (h : Given lookup name bound n?)
    (h' : Given lookup name bound m?) : n? = m? := by
  rw [← numberIn_eq_ok_iff hbound] at h h'
  rw [h] at h'
  exact Except.ok.inj h'

theorem addressIn_eq_ok_iff :
    addressIn lookup = .ok s ↔ lookup addressVariable = some s ∧ isBlank s = false := by
  unfold addressIn
  cases lookup addressVariable with
  | none => simp
  | some address =>
    simp only [Option.some.injEq]
    split
    · next hblank =>
      refine iff_of_false (by simp) ?_
      rintro ⟨rfl, h⟩
      rw [hblank] at h
      cases h
    · next hblank =>
      rw [Except.ok.injEq]
      refine ⟨fun h => ⟨h, ?_⟩, fun h => h.1⟩
      rwa [← h, ← Bool.not_eq_true]

theorem exists_of_addressIn_eq_error {e : StorageError} (h : addressIn lookup = .error e) :
    ∃ fault, e = .configuration fault := by
  unfold addressIn at h
  split at h
  · cases h
    exact ⟨_, rfl⟩
  · split at h
    · cases h
      exact ⟨_, rfl⟩
    · cases h

/-- A number that a variable gives is kept by a word with room for all numbers below the bound. -/
theorem Given.map_map {α : Type} {toNat : α → Nat} {ofNat : Nat → α}
    (h : Given lookup name bound n?) (hword : ∀ n < bound, toNat (ofNat n) = n) :
    (n?.map ofNat).map toNat = n? := by
  cases n? with
  | none => rfl
  | some n => exact congrArg some (hword n h.lt)

theorem Given.map_uint32 (h : Given lookup name (2 ^ 32) n?) :
    (n?.map UInt32.ofNat).map UInt32.toNat = n? :=
  h.map_map fun _ hn => UInt32.toNat_ofNat_of_lt' hn

theorem Given.map_uint64 (h : Given lookup name (2 ^ 64) n?) :
    (n?.map UInt64.ofNat).map UInt64.toNat = n? :=
  h.map_map fun _ hn => UInt64.toNat_ofNat_of_lt' hn

/-- The settings that are read are those that the variables describe, if they are valid. -/
theorem ofLookup_eq_ok_iff {s : Settings} :
    ofLookup lookup = .ok s ↔ Describes lookup s ∧ s.validate = .ok () := by
  constructor
  · intro h
    obtain ⟨address, haddress, h⟩ := Except.exists_of_bind h
    obtain ⟨max, hmax, h⟩ := Except.exists_of_bind h
    obtain ⟨min, hmin, h⟩ := Except.exists_of_bind h
    obtain ⟨idle, hidle, h⟩ := Except.exists_of_bind h
    obtain ⟨⟨⟩, hvalid, h⟩ := Except.exists_of_bind h
    cases h
    rw [numberIn_eq_ok_iff (by decide)] at hmax hmin hidle
    refine ⟨⟨(addressIn_eq_ok_iff.1 haddress).1, rfl, ?_, ?_, ?_, fun name => present_eq_some_iff⟩,
      hvalid⟩
    · simpa only [hmax.map_uint32] using hmax
    · simpa only [hmin.map_uint32] using hmin
    · simpa only [hidle.map_uint64] using hidle
  · rintro ⟨h, hvalid⟩
    have haddress := addressIn_eq_ok_iff.2 ⟨h.address, (validate_eq_ok_iff.1 hvalid).1⟩
    have hmax := (numberIn_eq_ok_iff (by decide)).2 h.maxPoolSize
    have hmin := (numberIn_eq_ok_iff (by decide)).2 h.minPoolSize
    have hidle := (numberIn_eq_ok_iff (by decide)).2 h.maxIdleSeconds
    have happName : present lookup appNameVariable = s.appName :=
      Option.ext fun name => present_eq_some_iff.trans (h.appName name).symm
    have hsmall (m? : Option UInt32) : (m?.map UInt32.toNat).map UInt32.ofNat = m? := by
      cases m? <;> simp
    have hlarge (m? : Option UInt64) : (m?.map UInt64.toNat).map UInt64.ofNat = m? := by
      cases m? <;> simp
    have hread : ofLookup lookup = s.validate >>= fun _ => .ok s := by
      simp only [ofLookup, haddress, hmax, hmin, hidle, happName, ← h.database, hsmall, hlarge,
        bind, Except.bind]
      rfl
    rw [hread, hvalid]
    rfl

/-- Variables make settings if and only if they describe valid ones. -/
theorem acceptable_iff : Acceptable lookup ↔ ∃ s, Describes lookup s ∧ s.validate = .ok () := by
  constructor
  · rintro ⟨⟨address, haddress, hblank⟩, hdatabase, ⟨max, hmax⟩, ⟨min, hmin⟩, ⟨idle, hidle⟩, hle⟩
    let s : Settings :=
      { address
        database := (lookup databaseVariable).getD "test"
        maxPoolSize := max.map UInt32.ofNat
        minPoolSize := min.map UInt32.ofNat
        maxIdleSeconds := idle.map UInt64.ofNat
        appName := present lookup appNameVariable }
    have hdescribes : Describes lookup s :=
      { address := haddress
        database := rfl
        maxPoolSize := hmax.map_uint32.symm ▸ hmax
        minPoolSize := hmin.map_uint32.symm ▸ hmin
        maxIdleSeconds := hidle.map_uint64.symm ▸ hidle
        appName := fun name => present_eq_some_iff }
    refine ⟨s, hdescribes, validate_eq_ok_iff.2 ⟨hblank, ?_, ?_⟩⟩
    · change isBlank ((lookup databaseVariable).getD "test") = false
      cases hname : lookup databaseVariable with
      | none => decide
      | some name => exact hdatabase name hname
    · intro least greatest hleast hgreatest
      refine UInt32.le_iff_toNat_le.2 (hle _ _ ?_ ?_)
      · have hgiven := hdescribes.minPoolSize
        rwa [hleast] at hgiven
      · have hgiven := hdescribes.maxPoolSize
        rwa [hgreatest] at hgiven
  · rintro ⟨s, h, hvalid⟩
    obtain ⟨hblank, hdatabase, hle⟩ := validate_eq_ok_iff.1 hvalid
    refine ⟨⟨s.address, h.address, hblank⟩, fun name hname => ?_, ⟨_, h.maxPoolSize⟩,
      ⟨_, h.minPoolSize⟩, ⟨_, h.maxIdleSeconds⟩, fun min max hmin hmax => ?_⟩
    · rwa [h.database, hname] at hdatabase
    · obtain ⟨least, hleast, rfl⟩ :=
        Option.map_eq_some_iff.1 (h.minPoolSize.unique (by decide) hmin)
      obtain ⟨greatest, hgreatest, rfl⟩ :=
        Option.map_eq_some_iff.1 (h.maxPoolSize.unique (by decide) hmax)
      exact UInt32.le_iff_toNat_le.1 (hle least greatest hleast hgreatest)

theorem exists_of_ofLookup_eq_error {e : StorageError} (h : ofLookup lookup = .error e) :
    ∃ fault, e = .configuration fault := by
  obtain h | ⟨address, -, h⟩ := Except.error_or_exists_of_bind h
  · exact exists_of_addressIn_eq_error h
  obtain h | ⟨max, -, h⟩ := Except.error_or_exists_of_bind h
  · exact exists_of_numberIn_eq_error h
  obtain h | ⟨min, -, h⟩ := Except.error_or_exists_of_bind h
  · exact exists_of_numberIn_eq_error h
  obtain h | ⟨idle, -, h⟩ := Except.error_or_exists_of_bind h
  · exact exists_of_numberIn_eq_error h
  obtain h | ⟨-, -, h⟩ := Except.error_or_exists_of_bind h
  · exact exists_of_validate_eq_error h
  · cases h

/-- **Settings from variables.** Variables make settings if and only if the address is there and
not blank, the name of the database is not blank, every number is missing, empty or written in
digits below its bound, and the bounds of the pool do not cross. The settings hold what the
variables say, and they are valid. Any other variables are a fault of the settings. -/
theorem ofLookup_accepts (lookup : String → Option String) :
    ((∃ s, ofLookup lookup = .ok s) ↔ Acceptable lookup) ∧
      (∀ s, ofLookup lookup = .ok s → Describes lookup s ∧ s.validate = .ok ()) ∧
      (¬ Acceptable lookup → ∃ fault, ofLookup lookup = .error (.configuration fault)) := by
  have haccepts : (∃ s, ofLookup lookup = .ok s) ↔ Acceptable lookup := by
    simp only [ofLookup_eq_ok_iff, acceptable_iff]
  refine ⟨haccepts, fun s => ofLookup_eq_ok_iff.1, fun hrefused => ?_⟩
  cases hread : ofLookup lookup with
  | ok s => exact absurd (haccepts.1 ⟨s, hread⟩) hrefused
  | error e =>
    obtain ⟨fault, rfl⟩ := exists_of_ofLookup_eq_error hread
    exact ⟨fault, rfl⟩

/-- A sign and zeros in front of a number do no harm. -/
example :
    (ofLookup fun name =>
      if name = addressVariable then some "mongodb://db"
      else if name = maxPoolSizeVariable then some "+007"
      else none).map maxPoolSize = .ok (some 7) := by
  decide +kernel

end Settings

end RecordStore
