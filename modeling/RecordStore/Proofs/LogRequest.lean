import RecordStore.Proofs.CurrentVersion
import RecordStore.Proofs.StoreRequest
import RecordStore.Proofs.World
/-!
# Requests to the log

What the runner's own requests do to a store in memory: reading the current version leaves the
store as it is, and adding the record of a migration adds its document at the end of the log,
unless the identity of the record is there. The identity field is that of the store, whatever its
name.

## Main definitions

* `Store.withLog`: the store with other documents in its log.
* `Collection.ofLog`: a log by its identity field and its documents.
* `Action.KeepsLog`: actions that leave the documents of the log alone.

## Main results

* `Runner.outcome_currentVersion`, `Runner.outcome_insertOne`: the two requests of a run.
-/

namespace RecordStore

/-- The store with other documents in its log. -/
abbrev Store.withLog (s : Store) (ds : List Document) : Store :=
  s.withDocuments LogEntry ds

theorem Store.log_withLog (s : Store) (ds : List Document) : (s.withLog ds).log = ds :=
  documents_withDocuments LogEntry s ds

/-- A log by its identity field and its documents. -/
def Collection.ofLog (field : String) (ds : List Document) : Collection where
  documents := ds
  name := Record.collection LogEntry
  idField := field

/-- The action leaves the documents of the log alone, and the store its identity field. -/
def Action.KeepsLog {ω α : Type} (x : Action (World Store ω) α) : Prop :=
  ∀ w, (x.outcome w).2.backend.log = w.backend.log ∧
    (x.outcome w).2.backend.idField = w.backend.idField

/-- The entry that is written for a migration. -/
def Migration.entry {σ : Type} (finishedAt : Int64 → Instant) (m : Migration σ) : LogEntry :=
  LogEntry.applied m (finishedAt m.version)

/-- The document that is added to the log for a migration. -/
def Migration.record {σ : Type} (finishedAt : Int64 → Instant) (m : Migration σ) : Document :=
  (m.entry finishedAt).toDocument

namespace Runner

open RecordStore.Action

/-- Reading the current version leaves the store as it is. -/
theorem outcome_currentVersion (s : Store) :
    ((currentVersion : Action Store Int64).outcome s).2 = s := by
  have hfind : ∀ options : FindOptions, ((Repository.request LogEntry (.find [] options) :
      Action Store (List Document)).outcome s).2 = s := by
    intro options
    rw [Store.outcome_request, Collection.perform, Collection.outcome_find]
    exact Store.put_contents s _
  have hlatest := hfind ((byVersion .descending).withLimit 1)
  simp only [currentVersion, Repository.find, outcome_bind]
  generalize (Repository.request LogEntry (.find [] ((byVersion .descending).withLimit 1)) :
    Action Store (List Document)).outcome s = r at hlatest ⊢
  obtain ⟨answer, t⟩ := r
  cases answer with
  | error e => exact hlatest
  | ok ds =>
    simp only [outcome_lift]
    cases ds.mapM (m := Except StorageError) (Record.decode (ρ := LogEntry)) <;> exact hlatest

/-- Adding the record of a migration to the log. -/
theorem outcome_insertOne (s : Store) (e : LogEntry) :
    (Repository.insertOne e : Action Store Unit).outcome s =
      match (Collection.ofLog s.idField s.log).checkNew e.toDocument with
      | .error f => (.error f, s)
      | .ok _ => (.ok (), s.withLog (s.log ++ [e.toDocument])) := by
  have hrequest : (Repository.insertOne e : Action Store Unit) =
      Repository.request LogEntry (.insertOne e.toDocument) := rfl
  have hcheck : (s.collection (Record.collection LogEntry)).checkNew e.toDocument =
      (Collection.ofLog s.idField s.log).checkNew e.toDocument := rfl
  rw [hrequest, Store.outcome_request, Collection.perform, Collection.outcome_insertOne, hcheck]
  cases (Collection.ofLog s.idField s.log).checkNew e.toDocument with
  | error f => exact congrArg _ (Store.put_contents s _)
  | ok u => rfl

end Runner

end RecordStore
