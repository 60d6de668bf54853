import RecordStore.Settings.Basic
import RecordStore.Text.Numeral
/-!
# Settings from variables

Settings are looked up by the names of variables. The address has to be there; a number or the
name of the application is absent if its variable is missing or empty. A number is written
in digits, with an optional plus sign in front. Numbers are read in the order greatest size,
least size, idle time, and the first fault counts; only then the settings are validated.

## Main definitions

* `Settings.ofLookup`.
-/

namespace RecordStore

namespace Settings

/-- The number that digits write behind a number already read, below a bound. A character
that is no digit and a number that is too large are faults where they arise. -/
def digits (bound : Nat) (read : Nat) : List Char → Except NumberFault Nat
  | [] => .ok read
  | c :: rest =>
    match Numeral.digit? c with
    | none => .error .invalidDigit
    | some d =>
      if read * 10 + d < bound then digits bound (read * 10 + d) rest else .error .tooLarge

/-- The natural number below a bound that a text writes. -/
def number (bound : Nat) (s : String) : Except NumberFault Nat :=
  match s.toList with
  | [] => .error .invalidDigit
  | ['+'] => .error .invalidDigit
  | '+' :: cs => digits bound 0 cs
  | cs => digits bound 0 cs

/-- The text of a variable, if there is one that is not empty. -/
def present (lookup : String → Option String) (name : String) : Option String :=
  (lookup name).filter fun s => !s.isEmpty

/-- The number below a bound in a variable, if there is one. -/
def numberIn (lookup : String → Option String) (name : String) (bound : Nat) :
    Except StorageError (Option Nat) :=
  match present lookup name with
  | none => .ok none
  | some s =>
    match number bound s with
    | .ok n => .ok (some n)
    | .error fault => .error (.configuration (.number name fault))

/-- The variable with the address of the server. -/
def addressVariable : String := "MONGO_ATLAS_CONN_STR"

/-- The variable with the name of the database. -/
def databaseVariable : String := "MONGO_DATABASE"

/-- The variable with the greatest size of the pool. -/
def maxPoolSizeVariable : String := "MONGO_MAX_POOL_SIZE"

/-- The variable with the least size of the pool. -/
def minPoolSizeVariable : String := "MONGO_MIN_POOL_SIZE"

/-- The variable with the idle time. -/
def maxIdleSecondsVariable : String := "MONGO_MAX_IDLE_TIME_SECS"

/-- The variable with the name of the application. -/
def appNameVariable : String := "MONGO_APP_NAME"

/-- The address of the server, which has to be there and not blank. -/
def addressIn (lookup : String → Option String) : Except StorageError String :=
  match lookup addressVariable with
  | none => .error (.configuration (.notSet addressVariable))
  | some address =>
    if isBlank address then .error (.configuration (.notSet addressVariable)) else .ok address

/-- The settings in a set of variables. -/
def ofLookup (lookup : String → Option String) : Except StorageError Settings := do
  let address ← addressIn lookup
  let maxPoolSize ← numberIn lookup maxPoolSizeVariable (2 ^ 32)
  let minPoolSize ← numberIn lookup minPoolSizeVariable (2 ^ 32)
  let maxIdleSeconds ← numberIn lookup maxIdleSecondsVariable (2 ^ 64)
  let settings : Settings :=
    { address
      database := (lookup databaseVariable).getD "test"
      maxPoolSize := maxPoolSize.map UInt32.ofNat
      minPoolSize := minPoolSize.map UInt32.ofNat
      maxIdleSeconds := maxIdleSeconds.map UInt64.ofNat
      appName := present lookup appNameVariable }
  settings.validate
  pure settings

end Settings

end RecordStore
