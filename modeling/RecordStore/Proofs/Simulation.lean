import RecordStore.Action
/-!
# Simulation of actions

An action simulates another if the two give the same answers from related states and leave
related states. Simulation is kept when actions are composed.

## Main definitions

* `Action.Simulates`: two actions that answer alike and keep a relation between their states.
-/

namespace RecordStore

/-- Two actions give the same answers from related states and leave related states. -/
def Action.Simulates {σ τ α : Type} (R : σ → τ → Prop) (x : Action σ α) (y : Action τ α) : Prop :=
  ∀ s t, R s t → (x.outcome s).1 = (y.outcome t).1 ∧ R (x.outcome s).2 (y.outcome t).2

namespace Action

variable {σ τ α β : Type} {R : σ → τ → Prop}

theorem simulates_lift (r : Except StorageError α) :
    Simulates R (liftM r : Action σ α) (liftM r : Action τ α) :=
  fun _ _ h => ⟨rfl, h⟩

theorem simulates_pure (a : α) : Simulates R (pure a : Action σ α) (pure a : Action τ α) :=
  fun _ _ h => ⟨rfl, h⟩

/-- Simulation is kept by composition; what follows may use that the first part succeeded. -/
theorem Simulates.bind {x : Action σ α} {y : Action τ α} {f : α → Action σ β}
    {g : α → Action τ β} (hxy : Simulates R x y) (hfg : ∀ a, Simulates R (f a) (g a)) :
    Simulates R (x >>= f) (y >>= g) := by
  intro s t h
  obtain ⟨hanswer, hstate⟩ := hxy s t h
  rw [outcome_bind, outcome_bind]
  generalize x.outcome s = left at hanswer hstate ⊢
  generalize y.outcome t = right at hanswer hstate ⊢
  obtain ⟨answer, s'⟩ := left
  obtain ⟨answer', t'⟩ := right
  cases hanswer
  cases answer with
  | error e => exact ⟨rfl, hstate⟩
  | ok a => exact hfg a s' t' hstate

theorem simulates_forM {γ : Type} {f : γ → Action σ Unit} {g : γ → Action τ Unit}
    (cs : List γ) (h : ∀ c ∈ cs, Simulates R (f c) (g c)) :
    Simulates R (cs.forM f) (cs.forM g) := by
  induction cs with
  | nil => exact simulates_pure ()
  | cons c rest ih =>
    obtain ⟨hc, hrest⟩ := List.forall_mem_cons.1 h
    exact hc.bind fun _ => ih hrest

theorem Simulates.mapError {x : Action σ α} {y : Action τ α} (h : Simulates R x y)
    (f : StorageError → StorageError) : Simulates R (x.mapError f) (y.mapError f) := by
  intro s t hst
  obtain ⟨hanswer, hstate⟩ := h s t hst
  rw [outcome_mapError, outcome_mapError]
  exact ⟨congrArg (Except.mapError f) hanswer, hstate⟩

end Action

end RecordStore
