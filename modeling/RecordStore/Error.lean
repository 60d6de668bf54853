import RecordStore.Reading
/-!
# Errors of a store

A `StorageError` says which kind of failure occurred and carries its cause. Causes that this
library finds itself are constructors; a cause that comes from elsewhere (a server, a
step of a migration) is kept as the text that was `reported`.

## Main definitions

* `StorageError` and the causes `StoreFault`, `ConfigurationFault`, `SerializationFault`,
  `RequestFault`.
* `StorageError.message`: the wording.
-/

namespace RecordStore

/-- Why a store refuses an operation. -/
inductive StoreFault
  /-- The operand of `$in` is no array. -/
  | membershipNeedsArray
  /-- A filter uses an operator that is not known. -/
  | unsupportedOperator (name : String)
  /-- An update is no single `$set`. -/
  | onlySetUpdates
  /-- The direction given for a field is no number. -/
  | sortDirection (field : String)
  /-- A stage of a pipeline has no operator. -/
  | emptyStage
  /-- A stage of a pipeline is not known, or its argument has the wrong type. -/
  | unsupportedStage (name : String)
  /-- The argument of a counting stage is no natural number. -/
  | countNeeded (stage : String)
  /-- A collection is already in use. -/
  | collectionExists (name : String)
  /-- A cause given as text. -/
  | reported (text : String)
deriving DecidableEq, Repr

namespace StoreFault

/-- The wording of a cause. -/
def message : StoreFault → String
  | membershipNeedsArray => "$in needs an array"
  | unsupportedOperator name => "unsupported filter operator '" ++ name ++ "'"
  | onlySetUpdates => "only $set updates are supported"
  | sortDirection field => "invalid sort direction for '" ++ field ++ "'"
  | emptyStage => "empty pipeline stage"
  | unsupportedStage name => "unsupported pipeline stage '" ++ name ++ "'"
  | countNeeded stage => stage ++ " needs a non-negative integer"
  | collectionExists name => "collection '" ++ name ++ "' already exists"
  | reported text => text

end StoreFault

/-- Why a text is no natural number of the wanted width. -/
inductive NumberFault
  /-- It has a character that is no digit, or no digit at all. -/
  | invalidDigit
  /-- It does not fit. -/
  | tooLarge
deriving DecidableEq, Repr

namespace NumberFault

/-- The wording of a fault. -/
def message : NumberFault → String
  | invalidDigit => "invalid digit found in string"
  | tooLarge => "number too large to fit in target type"

end NumberFault

/-- Why a client refuses to be set up. -/
inductive ClientFault
  /-- The address does not say which protocol to use. -/
  | noScheme
  /-- The pool of connections may hold none. -/
  | emptyPool
deriving DecidableEq, Repr

namespace ClientFault

/-- What is wrong with the argument. -/
def cause : ClientFault → String
  | noScheme => "connection string contains no scheme"
  | emptyPool => "cannot specify maxPoolSize=0"

/-- The wording of a fault. -/
def message (fault : ClientFault) : String :=
  "Kind: An invalid argument was provided: " ++ fault.cause ++
    ", labels: \x7b\x7d, source: None, server response: None"

end ClientFault

/-- Why settings cannot be used. -/
inductive ConfigurationFault
  /-- A setting is missing or blank. -/
  | notSet (setting : String)
  /-- A setting does not hold a number. -/
  | number (setting : String) (fault : NumberFault)
  /-- The address of the server is blank. -/
  | emptyAddress
  /-- The name of the database is blank. -/
  | emptyDatabase
  /-- The least size of the pool exceeds the greatest. -/
  | poolSizes (min max : UInt32)
  /-- The client refuses them. -/
  | client (fault : ClientFault)
  /-- A cause given as text. -/
  | reported (text : String)
deriving DecidableEq, Repr

namespace ConfigurationFault

/-- The wording of a cause. -/
def message : ConfigurationFault → String
  | notSet name => name ++ " is not set"
  | number name fault => name ++ ": " ++ fault.message
  | emptyAddress => "connection string is empty"
  | emptyDatabase => "database name is empty"
  | poolSizes min max =>
    "min pool size " ++ toString min.toNat ++ " exceeds max pool size " ++ toString max.toNat
  | client fault => fault.message
  | reported text => text

end ConfigurationFault

/-- Why a record and a document do not correspond. -/
inductive SerializationFault
  /-- The document does not hold the record. -/
  | unreadable (fault : ReadError)
  /-- A natural number exceeds the greatest integer that can be stored. -/
  | unsignedTooLarge (n : UInt64)
  /-- A cause given as text. -/
  | reported (text : String)
deriving DecidableEq, Repr

namespace SerializationFault

/-- The wording of a cause. -/
def message : SerializationFault → String
  | unreadable fault => fault.report
  | unsignedTooLarge n =>
    "BSON error. Kind: Unsigned integer " ++ toString n.toNat ++ " cannot fit into BSON."
  | reported text => text

end SerializationFault

/-- Why a request makes no sense. -/
inductive RequestFault
  /-- An update of several records names none. -/
  | noIdentities (collection : String)
  /-- The version of a migration is not positive. -/
  | versionNotPositive (version : Int64)
  /-- No migration has the version. -/
  | notRegistered (version : Int64)
  /-- A cause given as text. -/
  | reported (text : String)
deriving DecidableEq, Repr

namespace RequestFault

/-- The wording of a cause. -/
def message : RequestFault → String
  | noIdentities collection =>
    "update_many on '" ++ collection ++ "' requires at least one id"
  | versionNotPositive version =>
    "migration version must be positive, got " ++ toString version.toInt
  | notRegistered version => "migration " ++ toString version.toInt ++ " is not registered"
  | reported text => text

end RequestFault

/-- A failure of a store, a repository or a migration. -/
inductive StorageError
  /-- The document that was asked for does not exist. -/
  | notFound
  /-- The identity of a new document is already taken. -/
  | duplicateKey (detail : String)
  /-- The store refuses the operation. -/
  | store (fault : StoreFault)
  /-- The settings cannot be used. -/
  | configuration (fault : ConfigurationFault)
  /-- A record cannot be written as a document or read from one. -/
  | serialization (fault : SerializationFault)
  /-- The request makes no sense. -/
  | invalidRequest (fault : RequestFault)
  /-- The forward step of a migration failed, or could not be recorded. -/
  | migrationFailure (version : Int64) (description reason : String)
  /-- Two migrations have the same version. -/
  | duplicateVersion (version : Int64)
  /-- The migration has no reverse step. -/
  | irreversible (version : Int64)
deriving DecidableEq, Repr

namespace StorageError

/-- The wording of an error. -/
def message : StorageError → String
  | notFound => "Document not found"
  | duplicateKey detail => "Duplicate key: " ++ detail
  | store fault => "Store error: " ++ fault.message
  | configuration fault => "Configuration error: " ++ fault.message
  | serialization fault => "Serialization error: " ++ fault.message
  | invalidRequest fault => "Invalid request: " ++ fault.message
  | migrationFailure version description reason =>
    "Migration " ++ toString version.toInt ++ " (" ++ description ++ ") failed: " ++ reason
  | duplicateVersion version =>
    "Migration version '" ++ toString version.toInt ++ "' already exists"
  | irreversible version => "Migration " ++ toString version.toInt ++ " has no reverse step"

/-- Whether a document that was asked for does not exist. -/
def isNotFound : StorageError → Bool
  | notFound => true
  | _ => false

/-- Whether an identity is already taken. -/
def isDuplicateKey : StorageError → Bool
  | duplicateKey _ => true
  | _ => false

/-- Whether a record and a document do not correspond. -/
def isSerialization : StorageError → Bool
  | serialization _ => true
  | _ => false

end StorageError

end RecordStore
