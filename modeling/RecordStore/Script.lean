import RecordStore.Migration.Basic
import RecordStore.Recorder
/-!
# Scripts

A `Script` is a list of things to do with a backend, which ends at the first that fails. The
steps of a migration can be written as scripts.

## Main definitions

* `Script`, `Script.run`.
* `Script.migration`: a migration that plays scripts and leaves notes.
-/

namespace RecordStore

/-- One thing to do with a backend. -/
inductive Script.Step
  /-- A request to a collection. -/
  | request (collection : String) (r : Request)
  /-- The test of health. -/
  | healthCheck
  /-- A failure. -/
  | fail (error : StorageError)

/-- Things to do one after the other. -/
abbrev Script := List Script.Step

namespace Script

/-- Does one thing. -/
def Step.run {σ : Type} [Backend σ] : Step → Action σ Unit
  | request collection r => do
    let _ ← Backend.perform collection r
  | healthCheck => Backend.healthCheck
  | fail error => throw error

/-- Does all things. -/
def run {σ : Type} [Backend σ] (script : Script) : Action σ Unit :=
  script.forM Step.run

/-- Plays a script after a note that names it. -/
def noted (name : String) (version : Int64) (script : Script) : Action Recorder Unit := do
  Recorder.note (name ++ " " ++ Migration.versionText version)
  script.run

/-- The migration whose steps are scripts. -/
def migration (version : Int64) (description : String) (up : Script) (down : Option Script) :
    Migration Recorder where
  version
  description
  up := noted "up" version up
  down := down.map (noted "down" version)

end Script

end RecordStore
