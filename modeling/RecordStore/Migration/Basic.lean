import RecordStore.Action
import RecordStore.Text.Characters
/-!
# Migrations

A migration takes a store from one version to the next by its forward step, and may have a
reverse step that takes it back.

## Main definitions

* `Migration`, `Migration.id`, `Migration.isReversible`, `Migration.text`.
-/

namespace RecordStore

/-- A versioned change of a state. -/
structure Migration (σ : Type) where
  /-- The version that the forward step leads to. -/
  version : Int64
  /-- What the change is for. -/
  description : String
  /-- The forward step. -/
  up : Action σ Unit
  /-- The reverse step, if there is one. -/
  down : Option (Action σ Unit) := none

namespace Migration

variable {σ : Type}

/-- The decimal text of a version. -/
def versionText (version : Int64) : String :=
  toString version.toInt

/-- The identity of the migration in the log. -/
def id (m : Migration σ) : String :=
  versionText m.version

/-- Whether there is a reverse step. -/
def isReversible (m : Migration σ) : Bool :=
  m.down.isSome

/-- A description of the migration on one line. -/
def text (m : Migration σ) : String :=
  "Migration \x7b version: " ++ versionText m.version ++ ", description: " ++
    quoted m.description ++ ", reversible: " ++ toString m.isReversible ++ " \x7d"

end Migration

end RecordStore
