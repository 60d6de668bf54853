import RecordStore.Filter
import RecordStore.Order
/-!
# Pipelines

A pipeline is a list of stages that documents pass through. A stage is written as a
document; its first name says what it does and the rest is not looked at. Searching needs an
engine of its own, so a `$search` stage lets all documents pass.

## Main definitions

* `Stage`, `Stage.ofDocument`: what a stage does.
* `Pipeline.run`: documents after all stages.
-/

namespace RecordStore

/-- What a stage does with the documents. -/
inductive Stage
  /-- Lets all pass. -/
  | search
  /-- Keeps those that match. -/
  | keep (filter : Document)
  /-- Sorts them. -/
  | sort (directions : Document)
  /-- Leaves out the first ones. -/
  | skip (n : Nat)
  /-- Keeps the first ones only. -/
  | limit (n : Nat)

namespace Stage

/-- The number that a counting stage is given. -/
def count (stage : String) (v : Value) : Except StorageError Nat :=
  let natural := fun i : Int =>
    if 0 ≤ i then .ok i.toNat else .error (.store (.countNeeded stage))
  match v with
  | .int32 i => natural i.toInt
  | .int64 i => natural i.toInt
  | _ => .error (.store (.countNeeded stage))

/-- The stage with a name and an argument. -/
def ofNamed (name : String) (argument : Value) : Except StorageError Stage :=
  match name, argument with
  | "$search", _ => .ok search
  | "$match", .document filter => .ok (keep filter)
  | "$sort", .document directions => .ok (sort directions)
  | "$skip", n => (count "$skip" n).map skip
  | "$limit", n => (count "$limit" n).map limit
  | _, _ => .error (.store (.unsupportedStage name))

/-- The stage that a document describes. -/
def ofDocument : Document → Except StorageError Stage
  | [] => .error (.store .emptyStage)
  | (name, argument) :: _ => ofNamed name argument

/-- The documents behind the stage. -/
def run : Stage → List Document → Except StorageError (List Document)
  | search, ds => .ok ds
  | keep filter, ds => Filter.select filter ds
  | sort directions, ds => sortDocuments directions ds
  | skip n, ds => .ok (ds.drop n)
  | limit n, ds => .ok (ds.take n)

end Stage

/-- The documents behind all stages, each of which is read when it is reached. -/
def Pipeline.run : List Document → List Document → Except StorageError (List Document)
  | [], ds => .ok ds
  | first :: rest, ds => do
    let stage ← Stage.ofDocument first
    let passed ← stage.run ds
    Pipeline.run rest passed

end RecordStore
