import RecordStore.Migration.Basic
/-!
# Catalogs of migrations

A `Catalog` lists migrations by ascending version, whatever the order of their registration.
Versions are positive and none occurs twice; a registration that would break this is refused.

## Main definitions

* `Catalog`, `Catalog.empty`, `Catalog.register`.
* `Catalog.get?`, `Catalog.pendingAfter`, `Catalog.latest?`: what a catalog holds.
-/

namespace RecordStore

/-- Migrations by ascending version. -/
structure Catalog (σ : Type) where
  /-- The migrations. -/
  migrations : List (Migration σ)
  /-- The versions ascend. -/
  ascending : migrations.Pairwise fun m n => m.version < n.version
  /-- The versions are positive. -/
  positive : ∀ m ∈ migrations, 0 < m.version

namespace Catalog

variable {σ : Type}

/-- The catalog without migrations. -/
def empty : Catalog σ where
  migrations := []
  ascending := .nil
  positive := by simp

/-- Puts a migration in front of the first with a higher version. -/
def place (m : Migration σ) : List (Migration σ) → List (Migration σ)
  | [] => [m]
  | n :: rest => if m.version < n.version then m :: n :: rest else n :: place m rest

theorem mem_place {m n : Migration σ} {ms : List (Migration σ)} :
    n ∈ place m ms ↔ n = m ∨ n ∈ ms := by
  induction ms with
  | nil => simp [place]
  | cons k rest ih => by_cases h : m.version < k.version <;> grind [place]

theorem pairwise_place {m : Migration σ} {ms : List (Migration σ)}
    (ascending : ms.Pairwise fun a b => a.version < b.version)
    (new : ∀ n ∈ ms, n.version ≠ m.version) :
    (place m ms).Pairwise fun a b => a.version < b.version := by
  induction ms with
  | nil => simp [place]
  | cons k rest ih =>
    rw [List.pairwise_cons] at ascending
    by_cases h : m.version < k.version
    · simp only [place, h, if_true, List.pairwise_cons, List.mem_cons]
      refine ⟨fun n hn => ?_, ascending⟩
      rcases hn with rfl | hn
      · exact h
      · exact Int64.lt_trans h (ascending.1 n hn)
    · simp only [place, h, if_false, List.pairwise_cons]
      refine ⟨fun n hn => ?_, ih ascending.2 fun n hn => new n (by simp [hn])⟩
      rcases mem_place.1 hn with rfl | hn
      · exact Int64.lt_of_le_of_ne (Int64.not_lt.1 h) (new k (by simp))
      · exact ascending.1 n hn

/-- Adds a migration, whose version has to be positive and new. -/
def register (c : Catalog σ) (m : Migration σ) : Except StorageError (Catalog σ) :=
  if positive : 0 < m.version then
    if new : ∀ n ∈ c.migrations, n.version ≠ m.version then
      .ok
        { migrations := place m c.migrations
          ascending := pairwise_place c.ascending new
          positive := fun n hn => by
            rcases mem_place.1 hn with rfl | hn
            · exact positive
            · exact c.positive n hn }
    else .error (.duplicateVersion m.version)
  else .error (.invalidRequest (.versionNotPositive m.version))

/-- The migration of a version. -/
def get? (c : Catalog σ) (version : Int64) : Option (Migration σ) :=
  c.migrations.find? fun m => m.version == version

/-- The migrations above a version, by ascending version. -/
def pendingAfter (c : Catalog σ) (version : Int64) : List (Migration σ) :=
  c.migrations.filter fun m => version < m.version

/-- The highest version. -/
def latest? (c : Catalog σ) : Option Int64 :=
  c.migrations.getLast?.map Migration.version

/-- How many migrations there are. -/
def size (c : Catalog σ) : Nat :=
  c.migrations.length

/-- Whether there are no migrations. -/
def isEmpty (c : Catalog σ) : Bool :=
  c.migrations.isEmpty

end Catalog

end RecordStore
