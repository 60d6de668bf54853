import RecordStore.Settings.Address
/-!
# Clients

A `Client` is set up for one database from settings, without a word to the server. A `Driver`
parses the address into options, settings that are there take their place one by one, and the
driver takes the options or refuses them. Setting a client up takes settings as they are;
`Client.ofSettings` validates them before.

## Main definitions

* `ClientOptions`, `ClientOptions.overriddenBy`: options, and what settings make of them.
* `Driver`, `Driver.standard`.
* `Client.setUp`, `Client.ofSettings`.
* `Client.fullName`: the name of a collection within the server.
-/

namespace RecordStore

/-- What a driver is told about connections, as far as settings have a say in it. -/
structure ClientOptions where
  /-- The greatest number of connections in the pool. -/
  maxPoolSize : Option UInt32 := none
  /-- The least number of connections in the pool. -/
  minPoolSize : Option UInt32 := none
  /-- How long a connection may be idle, in seconds. -/
  maxIdleSeconds : Option UInt64 := none
  /-- The name under which connections are made. -/
  appName : Option String := none
deriving DecidableEq, Repr

/-- The options with the settings in their place that are there. -/
def ClientOptions.overriddenBy (options : ClientOptions) (s : Settings) : ClientOptions where
  maxPoolSize := s.maxPoolSize <|> options.maxPoolSize
  minPoolSize := s.minPoolSize <|> options.minPoolSize
  maxIdleSeconds := s.maxIdleSeconds <|> options.maxIdleSeconds
  appName := s.appName <|> options.appName

/-- The part of a driver that does not talk to a server. -/
structure Driver where
  /-- The options in an address. -/
  parse : String → Except ConfigurationFault ClientOptions
  /-- Refuses options with which no connection could be made. -/
  check : ClientOptions → Except ConfigurationFault Unit

/-- The driver that is in use. An address has to name a protocol, and the pool may not be limited
to none. Of the options in an address nothing else shows. -/
def Driver.standard : Driver where
  parse address :=
    if !Address.hasProtocol address then .error (.client .noScheme)
    else if Address.emptyPool address then .error (.client .emptyPool)
    else .ok {}
  check options :=
    if options.maxPoolSize == some 0 then .error (.client .emptyPool) else .ok ()

/-- Access to one database. -/
structure Client where
  /-- How the database is reached. -/
  settings : Settings
deriving DecidableEq, Repr

namespace Client

/-- The client with the given settings. Their bounds of the pool are not compared, and what the
driver refuses is a fault of the settings. -/
def setUp (s : Settings) (driver : Driver := .standard) : Except StorageError Client :=
  if isBlank s.database then .error (.configuration .emptyDatabase)
  else do
    let options ← (driver.parse s.address).mapError .configuration
    (driver.check (options.overriddenBy s)).mapError .configuration
    pure ⟨s⟩

/-- The client with the given settings, which are validated first. -/
def ofSettings (s : Settings) (driver : Driver := .standard) : Except StorageError Client := do
  s.validate
  setUp s driver

/-- The name of the database. -/
def databaseName (c : Client) : String :=
  c.settings.database

/-- The name of a collection within the server. -/
def fullName (c : Client) (collection : String) : String :=
  c.databaseName ++ "." ++ collection

end Client

end RecordStore
