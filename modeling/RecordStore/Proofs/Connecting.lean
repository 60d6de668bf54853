import RecordStore.Client
import RecordStore.Proofs.Variables
/-!
# Settings that can be used

Settings that are read from variables are valid, but only a driver can say whether a client can be
set up from them. Beside addresses that it cannot parse, a driver is expected to refuse a pool that
may hold no connection. Zero is a valid limit of the pool, and a variable can write it. So settings
with an address that the driver parses can be used if and only if the limit that counts is not
zero: their own one or, where they have none, that of the address.

## Main definitions

* `Driver.RefusesOnlyEmptyPools`: what is expected of a driver.

## Main results

* `Client.setUp_of_parse`: setting up is left to the driver.
* `Settings.ofLookup_usable_iff`: when settings from variables can be used.
-/

namespace RecordStore

/-- Whatever the address, the driver refuses options that limit the pool to none, and no others. -/
structure Driver.RefusesOnlyEmptyPools (driver : Driver) : Prop where
  /-- The limit alone decides. -/
  check_eq_ok_iff : ∀ options, driver.check options = .ok () ↔ options.maxPoolSize ≠ some 0

theorem Driver.refusesOnlyEmptyPools_standard : Driver.standard.RefusesOnlyEmptyPools where
  check_eq_ok_iff options := by
    by_cases h : options.maxPoolSize = some 0
    · simp [Driver.standard, h]
    · simp [Driver.standard, h]

namespace Client

variable {driver : Driver} {s : Settings} {options : ClientOptions}

theorem setUp_of_parse (hblank : isBlank s.database = false)
    (hparse : driver.parse s.address = .ok options) :
    setUp s driver =
      match driver.check (options.overriddenBy s) with
      | .ok () => .ok ⟨s⟩
      | .error fault => .error (.configuration fault) := by
  rw [setUp, if_neg (by simp [hblank]), hparse]
  cases hcheck : driver.check (options.overriddenBy s) with
  | ok _ => simp [Except.mapError, bind, Except.bind, pure, Except.pure, hcheck]
  | error fault => simp [Except.mapError, bind, Except.bind, hcheck]

theorem ofSettings_of_valid (h : s.validate = .ok ()) : ofSettings s driver = setUp s driver := by
  rw [ofSettings, h]
  rfl

end Client

namespace Settings

/-- **Settings that can be used.** Settings from variables with an address that the driver parses
make a client for their database, unless the limit of the pool that counts is zero. Then the driver
refuses them, which is a fault of the settings. -/
theorem ofLookup_usable_iff {driver : Driver} (hdriver : driver.RefusesOnlyEmptyPools)
    {lookup : String → Option String} {s : Settings} (hread : ofLookup lookup = .ok s)
    {options : ClientOptions} (hparse : driver.parse s.address = .ok options) :
    ((∃ c, Client.ofSettings s driver = .ok c ∧ c.databaseName = s.database) ↔
        (s.maxPoolSize <|> options.maxPoolSize) ≠ some 0) ∧
      ((s.maxPoolSize <|> options.maxPoolSize) = some 0 →
        ∃ fault, Client.ofSettings s driver = .error (.configuration fault)) := by
  have hvalid := (ofLookup_eq_ok_iff.1 hread).2
  have hblank := (validate_eq_ok_iff.1 hvalid).2.1
  have hset := (Client.ofSettings_of_valid hvalid).trans (Client.setUp_of_parse hblank hparse)
  have hcheck := hdriver.check_eq_ok_iff (options.overriddenBy s)
  change driver.check (options.overriddenBy s) = .ok () ↔
    (s.maxPoolSize <|> options.maxPoolSize) ≠ some 0 at hcheck
  cases hanswer : driver.check (options.overriddenBy s) with
  | ok _ =>
    have hlimit := hcheck.1 hanswer
    rw [hanswer] at hset
    exact ⟨iff_of_true ⟨⟨s⟩, hset, rfl⟩ hlimit, fun hzero => absurd hzero hlimit⟩
  | error fault =>
    have hlimit : ¬ (s.maxPoolSize <|> options.maxPoolSize) ≠ some 0 := by
      rw [← hcheck, hanswer]
      exact nofun
    rw [hanswer] at hset
    refine ⟨iff_of_false ?_ hlimit, fun _ => ⟨fault, hset⟩⟩
    rintro ⟨c, hc, -⟩
    rw [hset] at hc
    cases hc

/-- Variables with an address and a greatest size of the pool. -/
def poolVariables (size : String) : String → Option String := fun name =>
  if name = addressVariable then some "mongodb://127.0.0.1:1"
  else if name = maxPoolSizeVariable then some size
  else none

/-- A pool of up to fifty connections can be used. -/
theorem ofLookup_usable_of_fifty :
    Driver.standard.RefusesOnlyEmptyPools ∧
      ofLookup (poolVariables "+050") =
        .ok { address := "mongodb://127.0.0.1:1", maxPoolSize := some 50 } ∧
      Driver.standard.parse "mongodb://127.0.0.1:1" = .ok {} ∧
      ∃ c,
        Client.ofSettings { address := "mongodb://127.0.0.1:1", maxPoolSize := some 50 } = .ok c ∧
        c.databaseName = "test" := by
  have hdriver := Driver.refusesOnlyEmptyPools_standard
  have hread : ofLookup (poolVariables "+050") =
      .ok { address := "mongodb://127.0.0.1:1", maxPoolSize := some 50 } := by
    decide +kernel
  have hparse : Driver.standard.parse "mongodb://127.0.0.1:1" = .ok {} := by
    decide +kernel
  exact ⟨hdriver, hread, hparse, (ofLookup_usable_iff hdriver hread hparse).1.2 (by decide)⟩

/-- A pool of none is read from variables, and the driver refuses it. -/
theorem not_usable_of_zero :
    Driver.standard.RefusesOnlyEmptyPools ∧
      ofLookup (poolVariables "0") =
        .ok { address := "mongodb://127.0.0.1:1", maxPoolSize := some 0 } ∧
      Driver.standard.parse "mongodb://127.0.0.1:1" = .ok {} ∧
      ¬ ∃ c,
        Client.ofSettings { address := "mongodb://127.0.0.1:1", maxPoolSize := some 0 } = .ok c ∧
        c.databaseName = "test" := by
  refine ⟨Driver.refusesOnlyEmptyPools_standard, by decide +kernel, by decide +kernel, ?_⟩
  rintro ⟨c, hc, -⟩
  have hrefused : Client.ofSettings { address := "mongodb://127.0.0.1:1", maxPoolSize := some 0 } =
      .error (.configuration (.client .emptyPool)) := by
    decide +kernel
  rw [hrefused] at hc
  cases hc

end Settings

end RecordStore
