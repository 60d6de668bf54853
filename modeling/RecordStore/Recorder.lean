import RecordStore.Store
/-!
# Recorded stores

A `Recorder` is a store in memory that keeps a list of the requests made to it and can be told
to refuse one of them. It also has a journal, in which actions leave notes of their own.

## Main definitions

* `Recorder`, `Refusal`, and its `Backend`.
* `Recorder.note`: an entry in the journal.
-/

namespace RecordStore

/-- The order to refuse a request. -/
structure Refusal where
  /-- The collection that the request is made to. -/
  collection : String
  /-- The name of the request. -/
  method : String
  /-- How many such requests are let through before. -/
  skip : Nat
  /-- The answer to the request that is refused. -/
  error : StorageError

/-- A store with a record of what is asked of it. -/
structure Recorder where
  /-- The store. -/
  store : Store := {}
  /-- The requests in order, those that failed included. -/
  calls : List (String × Request) := []
  /-- The request that will be refused. -/
  refusal : Option Refusal := none
  /-- Notes in order. -/
  journal : List String := []

namespace Recorder

/-- Leaves a note in the journal. -/
def note (text : String) : Action Recorder Unit :=
  modify fun r => { r with journal := r.journal ++ [text] }

/-- Performs an action on the store, unrecorded. -/
def onStore {α : Type} (x : Action Store α) : Action Recorder α :=
  Action.ofFunction fun r =>
    let (answer, store) := x.outcome r.store
    (answer, { r with store })

/-- The same recorder without calls and notes. -/
def cleared (r : Recorder) : Recorder :=
  { r with calls := [], journal := [] }

/-- Whether a request is the one to refuse, and what is to be refused after it. -/
def screen (collection : String) (r : Request) :
    Option Refusal → Option StorageError × Option Refusal
  | none => (none, none)
  | some refusal =>
    if refusal.collection = collection ∧ refusal.method = r.method then
      match refusal.skip with
      | 0 => (some refusal.error, none)
      | skip + 1 => (none, some { refusal with skip })
    else (none, some refusal)

instance : Backend Recorder where
  perform collection request := do
    let r ← get
    let (refused, refusal) := screen collection request r.refusal
    set { r with calls := r.calls ++ [(collection, request)], refusal }
    match refused with
    | some error => throw error
    | none => onStore (Backend.perform collection request)
  healthCheck := onStore Backend.healthCheck

end Recorder

end RecordStore
