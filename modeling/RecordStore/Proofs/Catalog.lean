import Mathlib.Data.List.Induction
import Mathlib.Data.List.Nodup
import RecordStore.Migration.Catalog
/-!
# What catalogs hold

A catalog is filled by registrations, of which those are refused that have no positive version or
one that is there. What it holds after any number of them is the first migration of every positive
version, by ascending version; the order in which different versions came does not show. Since the
versions ascend, a migration is found by its version alone, those above a version are the last ones
of the catalog, and the highest version is that of the very last.

## Main definitions

* `Catalog.tryRegister`: a registration as an action, which leaves the catalog alone if it fails.
* `Catalog.registered`: the catalog after a list of registrations.
* `Catalog.Indexed`, `Catalog.HoldsFirsts`: what a catalog answers, and what it holds.

## Main results

* `Catalog.indexed`: a catalog answers by its list.
* `Catalog.HoldsFirsts.tryRegister`: what one more registration does.
* `Catalog.registered_firsts`: catalogs after any registrations.
-/

namespace RecordStore

/-- Lists that ascend by a key and have the same entries are equal. -/
theorem eq_of_ascending {α : Type} (key : α → Int64) {l m : List α}
    (hl : l.Pairwise fun a b => key a < key b) (hm : m.Pairwise fun a b => key a < key b)
    (h : ∀ a, a ∈ l ↔ a ∈ m) : l = m := by
  have hdistinct : ∀ {k : List α}, (k.Pairwise fun a b => key a < key b) → k.Nodup := fun hk =>
    hk.imp fun hlt heq => Int64.ne_of_lt hlt (congrArg key heq)
  have hperm : l.Perm m := (List.perm_ext_iff_of_nodup (hdistinct hl) (hdistinct hm)).2 h
  exact hperm.eq_of_pairwise (fun a b _ _ hab hba => absurd hba (Int64.lt_asymm hab)) hl hm

/-- In a list that ascends by a key nothing is above the last entry. -/
theorem le_of_ascending {α : Type} (key : α → Int64) {before : List α} {last : α}
    (h : (before ++ [last]).Pairwise fun a b => key a < key b) :
    ∀ a ∈ before ++ [last], key a ≤ key last := by
  intro a ha
  obtain ha | rfl := List.mem_append.1 ha |>.imp_right List.mem_singleton.1
  · exact Int64.le_of_lt ((List.pairwise_append.1 h).2.2 a ha last (by simp))
  · exact Int64.le_refl _

variable {σ : Type} {c : Catalog σ} {ms : List (Migration σ)} {m : Migration σ} {v : Int64}

/-- Where no version occurs twice, a migration is found by its version. -/
theorem Migration.find?_eq_some_iff (h : (ms.map Migration.version).Nodup) :
    (ms.find? fun n => n.version == v) = some m ↔ m ∈ ms ∧ m.version = v := by
  constructor
  · intro hfound
    exact ⟨List.mem_of_find?_eq_some hfound, by simpa using List.find?_some hfound⟩
  · rintro ⟨hm, rfl⟩
    cases hfound : ms.find? fun n => n.version == m.version with
    | none =>
      have hother := List.find?_eq_none.1 hfound m hm
      simp at hother
    | some n =>
      have hversion : n.version = m.version := by simpa using List.find?_some hfound
      rw [List.inj_on_of_nodup_map h (List.mem_of_find?_eq_some hfound) hm hversion]

namespace Catalog

/-! ### Answers -/

theorem nodup_versions (c : Catalog σ) : (c.migrations.map Migration.version).Nodup :=
  List.pairwise_map.2 (c.ascending.imp Int64.ne_of_lt)

theorem get?_eq_some_iff : c.get? v = some m ↔ m ∈ c.migrations ∧ m.version = v :=
  Migration.find?_eq_some_iff c.nodup_versions

/-- A list that ascends has what is above a version at its end. -/
theorem filter_append_filter_of_ascending (v : Int64)
    (h : ms.Pairwise fun m n => m.version < n.version) :
    ms.filter (fun m => !decide (v < m.version)) ++ ms.filter (fun m => decide (v < m.version)) =
      ms := by
  induction ms with
  | nil => rfl
  | cons m rest ih =>
    obtain ⟨hm, hrest⟩ := List.pairwise_cons.1 h
    by_cases hv : v < m.version
    · -- all behind the first that is above the version are above it as well
      have habove : ∀ n ∈ m :: rest, decide (v < n.version) = true := by
        intro n hn
        obtain rfl | hn := List.mem_cons.1 hn
        · exact decide_eq_true hv
        · exact decide_eq_true (Int64.lt_trans hv (hm n hn))
      have hnone : (m :: rest).filter (fun n => !decide (v < n.version)) = [] :=
        List.filter_eq_nil_iff.2 fun n hn => by rw [habove n hn]; decide
      rw [hnone, List.filter_eq_self.2 habove, List.nil_append]
    · rw [List.filter_cons_of_pos (by simp [hv]), List.filter_cons_of_neg (by simp [hv]),
        List.cons_append, ih hrest]

theorem exists_append_pendingAfter (c : Catalog σ) (v : Int64) :
    ∃ before, c.migrations = before ++ c.pendingAfter v ∧ (∀ m ∈ before, m.version ≤ v) ∧
      ∀ m ∈ c.pendingAfter v, v < m.version := by
  refine ⟨_, (filter_append_filter_of_ascending v c.ascending).symm, fun m hm => ?_, fun m hm => ?_⟩
  · simpa [Int64.not_lt] using (List.mem_filter.1 hm).2
  · simpa using (List.mem_filter.1 hm).2

theorem pendingAfter_eq_of_append {done todo : List (Migration σ)}
    (h : c.migrations = done ++ todo) (hdone : ∀ m ∈ done, m.version ≤ v)
    (htodo : ∀ m ∈ todo, v < m.version) : c.pendingAfter v = todo := by
  have hnone : ∀ m ∈ done, ¬ decide (v < m.version) = true := fun m hm => by
    rw [decide_eq_true_iff, Int64.not_lt]
    exact hdone m hm
  have hall : ∀ m ∈ todo, decide (v < m.version) = true := fun m hm => decide_eq_true (htodo m hm)
  rw [pendingAfter, h, List.filter_append, List.filter_eq_nil_iff.2 hnone,
    List.filter_eq_self.2 hall, List.nil_append]

theorem latest?_eq_some_iff : c.latest? = some v ↔
    (∃ m ∈ c.migrations, m.version = v) ∧ ∀ m ∈ c.migrations, m.version ≤ v := by
  have hascending := c.ascending
  rw [latest?]
  obtain hnil | ⟨before, last, hsplit⟩ := c.migrations.eq_nil_or_concat'
  · simp [hnil]
  rw [hsplit] at hascending ⊢
  have hle := le_of_ascending Migration.version hascending
  rw [List.getLast?_concat, Option.map_some, Option.some_inj]
  constructor
  · rintro rfl
    exact ⟨⟨last, by simp, rfl⟩, hle⟩
  · rintro ⟨⟨m, hm, rfl⟩, hmax⟩
    exact Int64.le_antisymm (hmax last (by simp)) (hle m hm)

/-- What a catalog answers, in terms of the list of its migrations. -/
structure Indexed (c : Catalog σ) : Prop where
  /-- The versions ascend. -/
  ascending : c.migrations.Pairwise fun m n => m.version < n.version
  /-- The migration of a version is the one that has it. -/
  get : ∀ v m, c.get? v = some m ↔ m ∈ c.migrations ∧ m.version = v
  /-- The pending migrations are the last ones, from the first above the version on. -/
  pending : ∀ v, ∃ before, c.migrations = before ++ c.pendingAfter v ∧
    (∀ m ∈ before, m.version ≤ v) ∧ ∀ m ∈ c.pendingAfter v, v < m.version
  /-- The highest version is the last one. -/
  latest : c.latest? = (c.migrations.map Migration.version).getLast?
  /-- No version is above it. -/
  greatest : ∀ v, c.latest? = some v ↔
    (∃ m ∈ c.migrations, m.version = v) ∧ ∀ m ∈ c.migrations, m.version ≤ v
  size : c.size = c.migrations.length

theorem indexed (c : Catalog σ) : c.Indexed where
  ascending := c.ascending
  get _ _ := get?_eq_some_iff
  pending := c.exists_append_pendingAfter
  latest := List.getLast?_map.symm
  greatest _ := latest?_eq_some_iff
  size := rfl

/-! ### Registrations -/

theorem not_pos_iff_lt_one {v : Int64} : ¬ 0 < v ↔ v < 1 := by
  rw [Int64.lt_iff_toInt_lt, Int64.lt_iff_toInt_lt]
  change ¬ 0 < v.toInt ↔ v.toInt < 1
  omega

/-- Everything that can become of a migration that is to be registered. -/
theorem register_cases (c : Catalog σ) (m : Migration σ) :
    (m.version < 1 ∧ c.register m = .error (.invalidRequest (.versionNotPositive m.version))) ∨
    (0 < m.version ∧ m.version ∈ c.migrations.map Migration.version ∧
      c.register m = .error (.duplicateVersion m.version)) ∨
    (0 < m.version ∧ m.version ∉ c.migrations.map Migration.version ∧
      ∃ next : Catalog σ, c.register m = .ok next ∧ next.migrations = place m c.migrations) := by
  rw [register]
  by_cases hpositive : 0 < m.version
  · rw [dif_pos hpositive]
    by_cases hnew : ∀ n ∈ c.migrations, n.version ≠ m.version
    · have hmem : m.version ∉ c.migrations.map Migration.version := by simpa using hnew
      rw [dif_pos hnew]
      exact .inr (.inr ⟨hpositive, hmem, _, rfl, rfl⟩)
    · have hmem : m.version ∈ c.migrations.map Migration.version := by simpa using hnew
      rw [dif_neg hnew]
      exact .inr (.inl ⟨hpositive, hmem, rfl⟩)
  · rw [dif_neg hpositive]
    exact .inl ⟨not_pos_iff_lt_one.1 hpositive, rfl⟩

/-- A registration. A catalog that refuses it stays as it is. -/
def tryRegister (m : Migration σ) : Action (Catalog σ) Unit := do
  let next ← (← get).register m
  set next

theorem outcome_tryRegister (c : Catalog σ) (m : Migration σ) :
    (tryRegister m).outcome c =
      match c.register m with
      | .error e => (.error e, c)
      | .ok next => (.ok (), next) := by
  simp only [tryRegister, Action.outcome_bind, Action.outcome_get, Action.outcome_lift]
  cases c.register m <;> rfl

/-- A registration is refused if the version is below 1, else if it is there. -/
theorem outcome_tryRegister_eq_ite (c : Catalog σ) (m : Migration σ) :
    (tryRegister m).outcome c =
      if m.version < 1 then (.error (.invalidRequest (.versionNotPositive m.version)), c)
      else if m.version ∈ c.migrations.map Migration.version then
        (.error (.duplicateVersion m.version), c)
      else (.ok (), ((tryRegister m).outcome c).2) := by
  rw [outcome_tryRegister]
  obtain ⟨hlow, herror⟩ | ⟨hpositive, hold, herror⟩ | ⟨hpositive, hnew, next, hnext, -⟩ :=
    register_cases c m
  · rw [if_pos hlow, herror]
  · rw [if_neg (not_pos_iff_lt_one.not_right.1 hpositive), if_pos hold, herror]
  · rw [if_neg (not_pos_iff_lt_one.not_right.1 hpositive), if_neg hnew, hnext]

/-- The catalog after registrations, one after the other. -/
def registered (ms : List (Migration σ)) : Catalog σ :=
  ms.foldl (fun c m => ((tryRegister m).outcome c).2) empty

theorem registered_append_singleton (ms : List (Migration σ)) (m : Migration σ) :
    registered (ms ++ [m]) = ((tryRegister m).outcome (registered ms)).2 := by
  rw [registered, List.foldl_append]
  rfl

/-- A registration adds the migration if its version is positive and new, and nothing else. -/
theorem mem_tryRegister_iff {n : Migration σ} :
    n ∈ ((tryRegister m).outcome c).2.migrations ↔ n ∈ c.migrations ∨
      n = m ∧ 0 < m.version ∧ m.version ∉ c.migrations.map Migration.version := by
  rw [outcome_tryRegister]
  obtain ⟨hlow, herror⟩ | ⟨-, hold, herror⟩ | ⟨hpositive, hnew, next, hnext, hplace⟩ :=
    register_cases c m
  · have hnot : ¬ 0 < m.version := not_pos_iff_lt_one.2 hlow
    simp [herror, hnot]
  · simp [herror, hold]
  · simp [hnext, hplace, hpositive, hnew, mem_place, or_comm]

/-- A catalog holds the first migration of each positive version in a list. -/
def HoldsFirsts (c : Catalog σ) (ms : List (Migration σ)) : Prop :=
  ∀ m, m ∈ c.migrations ↔ 0 < m.version ∧ (ms.find? fun n => n.version == m.version) = some m

theorem HoldsFirsts.mem_versions_iff (h : c.HoldsFirsts ms) :
    v ∈ c.migrations.map Migration.version ↔ 0 < v ∧ v ∈ ms.map Migration.version := by
  constructor
  · intro hv
    obtain ⟨m, hm, rfl⟩ := List.mem_map.1 hv
    obtain ⟨hpositive, hfirst⟩ := (h m).1 hm
    exact ⟨hpositive, List.mem_map_of_mem (List.mem_of_find?_eq_some hfirst)⟩
  · rintro ⟨hpositive, hv⟩
    obtain ⟨n, hn, rfl⟩ := List.mem_map.1 hv
    have hsome : (ms.find? fun k => k.version == n.version).isSome :=
      List.find?_isSome.2 ⟨n, hn, beq_self_eq_true _⟩
    obtain ⟨m, hfirst⟩ := Option.isSome_iff_exists.1 hsome
    have hversion : m.version = n.version := by simpa using List.find?_some hfirst
    rw [← hversion] at hfirst hpositive ⊢
    exact List.mem_map_of_mem ((h m).2 ⟨hpositive, hfirst⟩)

/-- Whatever is registered, and whether or not it is refused, the catalog holds what came first. -/
theorem HoldsFirsts.tryRegister (h : c.HoldsFirsts ms) (last : Migration σ) :
    (((tryRegister last).outcome c).2).HoldsFirsts (ms ++ [last]) := by
  intro m
  rw [mem_tryRegister_iff, h m, h.mem_versions_iff, List.find?_append]
  by_cases hversion : last.version = m.version
  · have hlast : ([last].find? fun n => n.version == m.version) = some last := by
      rw [List.find?_singleton, if_pos (beq_iff_eq.2 hversion)]
    rw [hversion, hlast]
    cases hfirst : ms.find? fun n => n.version == m.version with
    | none =>
      -- nothing was registered for the version, so the new one is the first
      have hnew : m.version ∉ ms.map Migration.version := by
        simpa using List.find?_eq_none.1 hfirst
      rw [Option.none_or]
      grind
    | some first =>
      have hold : m.version ∈ ms.map Migration.version := by
        have hmem := List.mem_of_find?_eq_some hfirst
        have hsame : first.version = m.version := by simpa using List.find?_some hfirst
        exact hsame ▸ List.mem_map_of_mem hmem
      rw [Option.some_or]
      grind
  · have hother : m ≠ last := fun heq => hversion (heq ▸ rfl)
    simp [hversion, hother]

/-- A catalog holds the first migration that was registered for each positive version. -/
theorem holdsFirsts_registered (ms : List (Migration σ)) : (registered ms).HoldsFirsts ms := by
  induction ms using List.reverseRecOn with
  | nil => simp [HoldsFirsts, registered, empty]
  | append_singleton ms last ih =>
    rw [registered_append_singleton]
    exact ih.tryRegister last

/-- The order in which different versions are registered does not show. -/
theorem registered_eq_of_perm {others : List (Migration σ)} (hperm : others.Perm ms)
    (hdistinct : (ms.map Migration.version).Nodup) :
    (registered others).migrations = (registered ms).migrations := by
  refine eq_of_ascending Migration.version (registered others).ascending (registered ms).ascending
    fun m => ?_
  have hothers : (others.map Migration.version).Nodup :=
    ((hperm.map Migration.version).nodup_iff).2 hdistinct
  rw [holdsFirsts_registered others m, holdsFirsts_registered ms m,
    Migration.find?_eq_some_iff hothers, Migration.find?_eq_some_iff hdistinct, hperm.mem_iff]

/-! ### Main result -/

/-- Whatever has been registered, and in whatever order, a catalog holds the first migration of
each positive version by ascending version, and answers accordingly. A registration is refused
for a version below 1 or one that is there, and then changes nothing. The order in which different
versions come does not show. -/
theorem registered_firsts (ms : List (Migration σ)) :
    (registered ms).Indexed ∧ (registered ms).HoldsFirsts ms ∧
    (∀ m, (tryRegister m).outcome (registered ms) =
      if m.version < 1 then
        (.error (.invalidRequest (.versionNotPositive m.version)), registered ms)
      else if m.version ∈ (registered ms).migrations.map Migration.version then
        (.error (.duplicateVersion m.version), registered ms)
      else (.ok (), registered (ms ++ [m]))) ∧
    ∀ others, others.Perm ms → (ms.map Migration.version).Nodup →
      (registered others).migrations = (registered ms).migrations := by
  refine ⟨indexed _, holdsFirsts_registered ms, fun m => ?_, fun _ => registered_eq_of_perm⟩
  rw [registered_append_singleton]
  exact outcome_tryRegister_eq_ite (registered ms) m

/-- Three versions in two orders, with a fourth one that is refused. -/
theorem registered_firsts_of_two_orders :
    ∃ others ms : List (Migration Unit), others.Perm ms ∧ (ms.map Migration.version).Nodup ∧
      ms.map Migration.version = [3, 1, 2, -4] ∧ others.map Migration.version = [2, -4, 1, 3] ∧
      (registered ms).migrations.map Migration.version = [1, 2, 3] ∧
      (registered others).migrations = (registered ms).migrations := by
  let plain (v : Int64) : Migration Unit := { version := v, description := "", up := pure () }
  have hperm : ([2, -4, 1, 3].map plain).Perm ([3, 1, 2, -4].map plain) :=
    (by decide : [(2 : Int64), -4, 1, 3].Perm [3, 1, 2, -4]).map plain
  have hdistinct : (([3, 1, 2, -4].map plain).map Migration.version).Nodup := by decide
  exact ⟨_, _, hperm, hdistinct, rfl, rfl, by decide,
    (registered_firsts _).2.2.2 _ hperm hdistinct⟩

end Catalog

end RecordStore
