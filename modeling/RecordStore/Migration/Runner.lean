import RecordStore.Migration.Catalog
import RecordStore.Migration.Log
import RecordStore.Repository
/-!
# Running migrations

A run reads the highest version in the log and takes the forward steps of all migrations
above it, by ascending version. A step is recorded only after it has succeeded, and the first
failure ends the run. Nothing guards against two runs at the same time.

A reversal takes the reverse step of one migration that the log holds and removes its entry
afterwards. It is never part of a run.

## Main definitions

* `Runner.currentVersion`, `Runner.applied`: what the log says.
* `Runner.run`, `Runner.Report`: all migrations that are pending.
* `Runner.revert`: the way back from one migration.
-/

namespace RecordStore

namespace Runner

/-- What a run has done. -/
structure Report where
  /-- The highest version before the run. -/
  starting : Int64
  /-- The versions applied by the run, ascending. -/
  applied : List Int64
deriving DecidableEq

/-- The highest version after the run. -/
def Report.current (r : Report) : Int64 :=
  r.applied.getLast?.getD r.starting

variable {σ : Type} [Backend σ]

/-- A scan of the log ordered by version. -/
def byVersion (direction : SortDirection) : FindOptions :=
  ({} : FindOptions).withSort [("version", .int32 direction.sign)]

/-- The highest version in the log, 0 if it is empty. -/
def currentVersion : Action σ Int64 := do
  let latest ← Repository.find LogEntry [] ((byVersion .descending).withLimit 1)
  pure ((latest.head?.map LogEntry.version).getD 0)

/-- The entries of the log by ascending version. -/
def applied : Action σ (List LogEntry) :=
  Repository.find LogEntry [] (byVersion .ascending)

/-- The failure of a migration for a reason. -/
def failure (m : Migration σ) (reason : String) : StorageError :=
  .migrationFailure m.version m.description reason

/-- Takes the forward step of a migration and records it. -/
def apply (finishedAt : Int64 → Instant) (m : Migration σ) : Action σ Unit := do
  m.up.mapError fun e => failure m e.message
  (Repository.insertOne (LogEntry.applied m (finishedAt m.version))).mapError fun e =>
    failure m ("recording applied version: " ++ e.message)

/-- Applies migrations one after the other and answers with their versions. -/
def applyAll (finishedAt : Int64 → Instant) : List (Migration σ) → Action σ (List Int64)
  | [] => pure []
  | m :: rest => do
    apply finishedAt m
    let versions ← applyAll finishedAt rest
    pure (m.version :: versions)

/-- Applies all migrations of a catalog that are above the highest version in the log. The
instants at which steps are finished are given by version. -/
def run (finishedAt : Int64 → Instant) (catalog : Catalog σ) : Action σ Report := do
  let starting ← currentVersion
  let versions ← applyAll finishedAt (catalog.pendingAfter starting)
  pure ⟨starting, versions⟩

/-- Takes the reverse step of a migration that the log holds and removes its entry. -/
def revert (catalog : Catalog σ) (version : Int64) : Action σ Unit := do
  match catalog.get? version with
  | none => throw (.invalidRequest (.notRegistered version))
  | some m =>
    match m.down with
    | none => throw (.irreversible version)
    | some down => do
      let _ ← Repository.findById LogEntry m.id
      down
      let _ ← Repository.deleteById LogEntry m.id

end Runner

end RecordStore
