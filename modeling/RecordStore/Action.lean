import RecordStore.Error
/-!
# Actions on a state

An `Action` changes a state and answers with a value or an error. The state is there after an
error too: what was done before the error stays done.

## Main definitions

* `Action`, `Action.outcome`: an action, and its answer with the state it leaves.
* `Action.mapError`: changes the error.
-/

namespace RecordStore

/-- A computation that changes a state of type `σ` and answers or fails. -/
abbrev Action (σ α : Type) := ExceptT StorageError (StateM σ) α

namespace Action

variable {σ α β : Type}

/-- The answer of an action and the state it leaves. -/
def outcome (x : Action σ α) (s : σ) : Except StorageError α × σ :=
  x.run.run s

/-- The action that applies a function to the state. -/
def ofFunction (f : σ → Except StorageError α × σ) : Action σ α :=
  ExceptT.mk f

/-- The same action with another error. -/
def mapError (f : StorageError → StorageError) (x : Action σ α) : Action σ α :=
  ofFunction fun s =>
    match x.outcome s with
    | (.ok a, t) => (.ok a, t)
    | (.error e, t) => (.error (f e), t)

@[simp] theorem outcome_ofFunction (f : σ → Except StorageError α × σ) (s : σ) :
    (ofFunction f).outcome s = f s := rfl

@[simp] theorem outcome_pure (a : α) (s : σ) :
    (pure a : Action σ α).outcome s = (.ok a, s) := rfl

@[simp] theorem outcome_throw (e : StorageError) (s : σ) :
    (throw e : Action σ α).outcome s = (.error e, s) := rfl

@[simp] theorem outcome_get (s : σ) : (get : Action σ σ).outcome s = (.ok s, s) := rfl

@[simp] theorem outcome_modify (f : σ → σ) (s : σ) :
    (modify f : Action σ Unit).outcome s = (.ok (), f s) := rfl

@[simp] theorem outcome_lift (r : Except StorageError α) (s : σ) :
    (liftM r : Action σ α).outcome s = (r, s) := rfl

theorem outcome_bind (x : Action σ α) (f : α → Action σ β) (s : σ) :
    (x >>= f).outcome s =
      match x.outcome s with
      | (.ok a, t) => (f a).outcome t
      | (.error e, t) => (.error e, t) := by
  simp only [outcome, ExceptT.run, bind, ExceptT.bind, ExceptT.mk, StateT.bind, StateT.run]
  generalize x s = r
  obtain ⟨_ | _, _⟩ := r <;> rfl

@[simp] theorem outcome_mapError (f : StorageError → StorageError) (x : Action σ α) (s : σ) :
    (x.mapError f).outcome s = ((x.outcome s).1.mapError f, (x.outcome s).2) := by
  simp only [mapError, outcome_ofFunction]
  generalize x.outcome s = r
  obtain ⟨_ | _, _⟩ := r <;> rfl

end Action

end RecordStore
