import RecordStore.Migration.Runner
import RecordStore.Proofs.Simulation
/-!
# Backends in a world

What the step of a migration does may depend on more than the store, and may differ from one call
to the next. A `World` is a backend together with all the rest that steps may read and change.
Requests reach the backend alone, so whatever the runner does itself, it does to the backend.

To tell which steps were taken, migrations are watched: every forward step puts its outcome on a
list when it ends. Apart from this list a watched run is the run without it.

## Main definitions

* `World`, `World.onBackend`: a backend in its world, and an action on the backend alone.
* `Taken`, `Migration.watched`, `Catalog.watched`: forward steps on record.

## Main results

* `Runner.simulates_run_watched`: watching changes neither the answer nor the state.
-/

namespace RecordStore

/-- A backend and the rest of the world, which requests do not reach. -/
structure World (σ ω : Type) where
  /-- The backend. -/
  backend : σ
  /-- All else that steps may read and change. -/
  rest : ω

namespace World

open RecordStore.Action

variable {σ ω α β : Type}

/-- An action on the backend alone. -/
def onBackend (x : Action σ α) : Action (World σ ω) α :=
  Action.ofFunction fun w =>
    let (answer, backend) := x.outcome w.backend
    (answer, { w with backend })

instance [Backend σ] : Backend (World σ ω) where
  perform name r := onBackend (Backend.perform name r)
  healthCheck := onBackend Backend.healthCheck

@[simp] theorem outcome_onBackend (x : Action σ α) (w : World σ ω) :
    (onBackend x).outcome w = ((x.outcome w.backend).1, ⟨(x.outcome w.backend).2, w.rest⟩) := rfl

/-- The world that has a given backend and a given rest. -/
def At (rest : ω) (w : World σ ω) (s : σ) : Prop :=
  w = ⟨s, rest⟩

variable [Backend σ]

theorem simulates_request {ρ ι : Type} [Record ρ ι] (r : Request) (rest : ω) :
    Simulates (At rest) (Repository.request ρ r : Action (World σ ω) r.Reply)
      (Repository.request ρ r : Action σ r.Reply) := by
  rintro w s rfl
  exact ⟨rfl, rfl⟩

theorem simulates_find {ρ ι : Type} [Record ρ ι] (filter : Document) (options : FindOptions)
    (rest : ω) :
    Simulates (At rest) (Repository.find ρ filter options : Action (World σ ω) (List ρ))
      (Repository.find ρ filter options : Action σ (List ρ)) :=
  (simulates_request _ rest).bind fun _ => simulates_lift _

theorem simulates_insertOne {ρ ι : Type} [Record ρ ι] (record : ρ) (rest : ω) :
    Simulates (At rest) (Repository.insertOne record : Action (World σ ω) Unit)
      (Repository.insertOne record : Action σ Unit) :=
  (simulates_lift _).bind fun _ => simulates_request _ rest

theorem simulates_findById {ρ ι : Type} [Record ρ ι] (id : ι) (rest : ω) :
    Simulates (At rest) (Repository.findById ρ id : Action (World σ ω) ρ)
      (Repository.findById ρ id : Action σ ρ) := by
  refine (simulates_lift _).bind fun filter => (simulates_request _ rest).bind fun found => ?_
  cases found with
  | none => exact fun w s h => ⟨rfl, h⟩
  | some d => exact simulates_lift _

theorem simulates_deleteById {ρ ι : Type} [Record ρ ι] (id : ι) (rest : ω) :
    Simulates (At rest) (Repository.deleteById ρ id : Action (World σ ω) Nat)
      (Repository.deleteById ρ id : Action σ Nat) :=
  (simulates_lift _).bind fun _ => simulates_request _ rest

theorem simulates_currentVersion (rest : ω) :
    Simulates (At rest) (Runner.currentVersion : Action (World σ ω) Int64)
      (Runner.currentVersion : Action σ Int64) :=
  (simulates_find _ _ rest).bind fun _ => simulates_pure _

omit [Backend σ] in
/-- What is simulated at every rest of the world happens to the backend alone. -/
theorem outcome_of_simulates {x : Action (World σ ω) α} {y : Action σ α}
    (h : ∀ rest, Simulates (At rest) x y) (w : World σ ω) :
    x.outcome w = (onBackend y).outcome w := by
  obtain ⟨hanswer, hstate⟩ := h w.rest w w.backend rfl
  exact Prod.ext hanswer hstate

end World

/-! ### Steps on record -/

/-- A forward step that was taken. -/
structure Taken where
  /-- The version of the migration. -/
  version : Int64
  /-- Why the step failed, if it did. -/
  failure : Option StorageError
deriving DecidableEq

/-- The failure in an answer. -/
def failure? {α : Type} : Except StorageError α → Option StorageError
  | .ok _ => none
  | .error e => some e

variable {σ : Type}

/-- The migration with its forward step put on record. -/
def Migration.watched (m : Migration σ) : Migration (World σ (List Taken)) where
  version := m.version
  description := m.description
  up := Action.ofFunction fun w =>
    let (answer, backend) := m.up.outcome w.backend
    (answer, ⟨backend, w.rest ++ [⟨m.version, failure? answer⟩]⟩)
  down := m.down.map World.onBackend

/-- The catalog with all forward steps put on record. -/
def Catalog.watched (c : Catalog σ) : Catalog (World σ (List Taken)) where
  migrations := c.migrations.map Migration.watched
  ascending := List.pairwise_map.2 c.ascending
  positive := by
    intro m hm
    obtain ⟨n, hn, rfl⟩ := List.mem_map.1 hm
    exact c.positive n hn

@[simp] theorem Catalog.pendingAfter_watched (c : Catalog σ) (version : Int64) :
    c.watched.pendingAfter version = (c.pendingAfter version).map Migration.watched :=
  List.filter_map

namespace Runner

open RecordStore.Action World

variable [Backend σ] (finishedAt : Int64 → Instant)

/-- The record that is kept in the rest of the world does not matter. -/
def Unwatched {ω : Type} (w : World σ ω) (s : σ) : Prop :=
  w.backend = s

omit [Backend σ] in
theorem simulates_unwatched {ω α : Type} {x : Action (World σ ω) α} {y : Action σ α}
    (h : ∀ rest, Simulates (At rest) x y) : Simulates Unwatched x y := by
  rintro w s rfl
  rw [outcome_of_simulates h]
  exact ⟨rfl, rfl⟩

theorem simulates_apply_watched (m : Migration σ) :
    Simulates Unwatched (apply finishedAt m.watched) (apply finishedAt m) := by
  have hup : Simulates Unwatched m.watched.up m.up := by
    rintro w s rfl
    exact ⟨rfl, rfl⟩
  have hrecord := simulates_unwatched (σ := σ) (ω := List Taken)
    (simulates_insertOne (LogEntry.applied m (finishedAt m.version)))
  exact (hup.mapError _).bind fun _ => hrecord.mapError _

theorem simulates_applyAll_watched (ms : List (Migration σ)) :
    Simulates Unwatched (applyAll finishedAt (ms.map Migration.watched))
      (applyAll finishedAt ms) := by
  induction ms with
  | nil => exact simulates_pure _
  | cons m rest ih =>
    refine (simulates_apply_watched finishedAt m).bind fun _ => ih.bind fun _ => ?_
    exact simulates_pure _

/-- Watching changes neither the answer of a run nor the state that it leaves. -/
theorem simulates_run_watched (catalog : Catalog σ) :
    Simulates Unwatched (run finishedAt catalog.watched) (run finishedAt catalog) := by
  refine (simulates_unwatched simulates_currentVersion).bind fun starting => ?_
  rw [Catalog.pendingAfter_watched]
  exact (simulates_applyAll_watched finishedAt _).bind fun _ => simulates_pure _

end Runner

end RecordStore
