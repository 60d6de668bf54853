import RecordStore.Error
import RecordStore.Text.Characters
/-!
# Settings of a connection

Settings name a server and a database and may bound the pool of connections. They can be
used if both names are not blank and the bounds do not cross.

## Main definitions

* `Settings`, `Settings.validate`.
-/

namespace RecordStore

/-- How to reach a database. -/
structure Settings where
  /-- The address of the server. -/
  address : String := "mongodb://localhost:27017"
  /-- The name of the database. -/
  database : String := "test"
  /-- The greatest number of connections in the pool. -/
  maxPoolSize : Option UInt32 := none
  /-- The least number of connections in the pool. -/
  minPoolSize : Option UInt32 := none
  /-- How long a connection may be idle, in seconds. -/
  maxIdleSeconds : Option UInt64 := none
  /-- The name under which connections are made. -/
  appName : Option String := none
deriving DecidableEq, Repr

namespace Settings

/-- Refuses settings that name no server or no database, or whose bounds cross. -/
def validate (s : Settings) : Except StorageError Unit :=
  if isBlank s.address then .error (.configuration .emptyAddress)
  else if isBlank s.database then .error (.configuration .emptyDatabase)
  else
    match s.minPoolSize, s.maxPoolSize with
    | some min, some max =>
      if max < min then .error (.configuration (.poolSizes min max)) else .ok ()
    | _, _ => .ok ()

end Settings

end RecordStore
