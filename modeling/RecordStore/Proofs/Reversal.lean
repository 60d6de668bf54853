import RecordStore.Proofs.Catalog
import RecordStore.Proofs.Equality
import RecordStore.Proofs.FirstMatch
import RecordStore.Proofs.Identity
import RecordStore.Proofs.LogRequest
/-!
# Reversals

A reversal first makes sure that the migration is registered, has a reverse step and is held by
the log in a form that can be read. Only then is the reverse step started, and only after it has
succeeded is anything removed from the log: the first document that has the identity of the
version, which is also the one that was read. So a reversal that fails leaves the log as it is,
whatever else the log may hold, and the other documents stay in their order if it succeeds.

To tell whether a reverse step was started, migrations are tracked: every reverse step puts its
version on a list when it starts. Apart from this list a tracked reversal is the one without it.

## Main definitions

* `Catalog.tracked`: the starts of reverse steps on record.
* `Document.Names`, `Store.FirstEntry`: documents of the log that have the identity of a version.
* `Runner.Starts`, `Runner.Ready`: what a reversal makes sure of before the reverse step, on any
  backend and on a store.
* `Runner.AllOrNothing`: what is promised of a reversal.

## Main results

* `Runner.simulates_revert_tracked`: tracking changes neither the answer nor the state.
* `Runner.Ready.outcome_revert`, `Runner.exists_refusal`: a reversal that starts the reverse step,
  and one that does not.
* `Runner.allOrNothing`: every reversal.
-/

namespace RecordStore

variable {σ ω : Type}

/-! ### Reverse steps on record -/

/-- The migration with the start of its reverse step put on record. -/
def Migration.tracked (m : Migration σ) : Migration (World σ (List Int64)) where
  version := m.version
  description := m.description
  up := World.onBackend m.up
  down := m.down.map fun down => do
    modify fun w => { w with rest := w.rest ++ [m.version] }
    World.onBackend down

/-- The catalog with the starts of all reverse steps put on record. -/
def Catalog.tracked (c : Catalog σ) : Catalog (World σ (List Int64)) where
  migrations := c.migrations.map Migration.tracked
  ascending := List.pairwise_map.2 c.ascending
  positive := List.forall_mem_map.2 c.positive

@[simp] theorem Migration.down_tracked (m : Migration σ) :
    m.tracked.down = m.down.map fun down => (do
      modify fun w => { w with rest := w.rest ++ [m.version] }
      World.onBackend down) := rfl

@[simp] theorem Catalog.get?_tracked (c : Catalog σ) (v : Int64) :
    c.tracked.get? v = (c.get? v).map Migration.tracked :=
  List.find?_map

namespace Runner

open RecordStore.Action World

section Tracked

variable [Backend σ] {catalog : Catalog σ} {v : Int64} {m : Migration σ} {down : Action σ Unit}

theorem revert_of_get?_eq_none (hget : catalog.get? v = none) :
    revert catalog v = throw (.invalidRequest (.notRegistered v)) := by
  simp only [revert, hget]

theorem revert_of_down_eq_none (hget : catalog.get? v = some m) (hdown : m.down = none) :
    revert catalog v = throw (.irreversible v) := by
  simp only [revert, hget, hdown]

theorem revert_of_down (hget : catalog.get? v = some m) (hdown : m.down = some down) :
    revert catalog v = (do
      let _ ← Repository.findById LogEntry (Migration.versionText v)
      down
      let _ ← Repository.deleteById LogEntry (Migration.versionText v)) := by
  obtain ⟨-, rfl⟩ := Catalog.get?_eq_some_iff.1 hget
  simp only [revert, hget, hdown]
  rfl

omit [Backend σ] in
theorem get?_tracked_of_down (hget : catalog.get? v = some m) (hdown : m.down = some down) :
    catalog.tracked.get? v = some m.tracked ∧ m.tracked.down = some (do
      modify fun w => { w with rest := w.rest ++ [v] }
      onBackend down) := by
  obtain ⟨-, rfl⟩ := Catalog.get?_eq_some_iff.1 hget
  simp [hget, hdown]

/-- Tracking changes neither the answer of a reversal nor the state that it leaves. -/
theorem simulates_revert_tracked (catalog : Catalog σ) (v : Int64) :
    Simulates Unwatched (revert catalog.tracked v) (revert catalog v) := by
  cases hget : catalog.get? v with
  | none =>
    rw [revert_of_get?_eq_none hget, revert_of_get?_eq_none (by simp [hget])]
    exact simulates_lift (.error _)
  | some m =>
    cases hdown : m.down with
    | none =>
      rw [revert_of_down_eq_none hget hdown, revert_of_down_eq_none
        (by simp [hget] : catalog.tracked.get? v = some m.tracked) (by simp [hdown])]
      exact simulates_lift (.error _)
    | some down =>
      obtain ⟨hget', hdown'⟩ := get?_tracked_of_down hget hdown
      rw [revert_of_down hget hdown, revert_of_down hget' hdown']
      have hstep : Simulates Unwatched (do
          modify fun w => { w with rest := w.rest ++ [v] }
          onBackend down) down := by
        rintro w s rfl
        exact ⟨rfl, rfl⟩
      refine (simulates_unwatched (simulates_findById _)).bind fun _ => hstep.bind fun _ => ?_
      exact (simulates_unwatched (simulates_deleteById _)).bind fun _ => simulates_pure _

/-- The reverse step of a version is started: the migration is registered and has one, and the
log holds an entry of it that can be read. -/
def Starts (catalog : Catalog σ) (v : Int64) (s : σ) : Prop :=
  ∃ m down e, catalog.get? v = some m ∧ m.down = some down ∧
    ((Repository.findById LogEntry (Migration.versionText v) : Action σ LogEntry).outcome s).1 =
      .ok e

/-- A reversal puts the version on record once if the reverse step is started. -/
theorem rest_revert_tracked {w : World σ (List Int64)} (h : Starts catalog v w.backend) :
    ((revert catalog.tracked v).outcome w).2.rest = w.rest ++ [v] := by
  obtain ⟨m, down, e, hget, hdown, hfound⟩ := h
  obtain ⟨hget', hdown'⟩ := get?_tracked_of_down hget hdown
  rw [revert_of_down hget' hdown']
  simp only [outcome_bind, outcome_of_simulates (simulates_findById _), outcome_onBackend, hfound,
    outcome_of_simulates (simulates_deleteById _), outcome_modify]
  -- the record is complete once the step has started, whatever becomes of it
  generalize ((Repository.findById LogEntry (Migration.versionText v) :
    Action σ LogEntry).outcome w.backend).2 = found
  cases (down.outcome found).1 with
  | error e => rfl
  | ok u =>
    dsimp only
    cases ((Repository.deleteById LogEntry (Migration.versionText v) :
      Action σ Nat).outcome (down.outcome found).2).1 with
    | error e => rfl
    | ok n => rfl

/-- A reversal that does not start the reverse step puts nothing on record. -/
theorem rest_revert_tracked_of_not {w : World σ (List Int64)} (h : ¬ Starts catalog v w.backend) :
    ((revert catalog.tracked v).outcome w).2.rest = w.rest := by
  cases hget : catalog.get? v with
  | none =>
    rw [revert_of_get?_eq_none (by simp [hget])]
    rfl
  | some m =>
    cases hdown : m.down with
    | none =>
      rw [revert_of_down_eq_none (by simp [hget] : catalog.tracked.get? v = some m.tracked)
        (by simp [hdown])]
      rfl
    | some down =>
      obtain ⟨hget', hdown'⟩ := get?_tracked_of_down hget hdown
      rw [revert_of_down hget' hdown', outcome_bind, outcome_of_simulates (simulates_findById _),
        outcome_onBackend]
      cases hfound : ((Repository.findById LogEntry (Migration.versionText v) :
          Action σ LogEntry).outcome w.backend).1 with
      | error e => rfl
      | ok e => exact absurd ⟨m, down, e, hget, hdown, hfound⟩ h

end Tracked

end Runner

/-! ### Entries of a version -/

/-- The document has the identity of a version. -/
def Document.Names (d : Document) (v : Int64) : Prop :=
  d.get? (Record.idField LogEntry) = some (.string (Migration.versionText v))

/-- The filter that the runner uses for a version. -/
abbrev versionFilter (v : Int64) : Document :=
  [(Record.idField LogEntry, .string (Migration.versionText v))]

theorem Document.decides_versionFilter (v : Int64) (d : Document) :
    Filter.Decides (versionFilter v) d := by
  rw [Filter.decides_iff_fault?_eq_none, Filter.fault?, Filter.test_singleton,
    Filter.meets_of_not_isOperators rfl]

theorem Document.accepts_versionFilter_iff {d : Document} {v : Int64} :
    Filter.accepts (versionFilter v) d = true ↔ d.Names v := by
  rw [Filter.accepts_value rfl, Document.has, Document.Names]
  cases d.get? (Record.idField LogEntry) with
  | none => simp
  | some found => simp [Value.same_string_iff]

namespace Store

/-- The place of the first document in the log that has the identity of a version. -/
structure FirstEntry (s : Store) (v : Int64) (p : Filter.Place) : Prop where
  log : s.log = p.before ++ p.document :: p.after
  names : p.document.Names v
  first : ∀ d ∈ p.before, ¬ d.Names v

variable {s : Store} {v : Int64} {p : Filter.Place}

theorem FirstEntry.first?_eq (h : s.FirstEntry v p) :
    Filter.first? (versionFilter v) s.log = .ok (some p) := by
  refine Filter.first?_eq_some_iff.2
    ⟨h.log, Document.accepts_versionFilter_iff.2 h.names, fun d hd => ?_⟩
  rw [← Bool.not_eq_true, Document.accepts_versionFilter_iff]
  exact h.first d hd

theorem first?_eq_none_of_absent (h : ∀ d ∈ s.log, ¬ d.Names v) :
    Filter.first? (versionFilter v) s.log = .ok none := by
  rw [Filter.first?_eq_none_iff]
  intro d hd
  rw [Filter.test_eq_false_iff (d.decides_versionFilter v), Document.accepts_versionFilter_iff]
  exact h d hd

theorem FirstEntry.congr {t : Store} (h : s.FirstEntry v p) (hlog : t.log = s.log) :
    t.FirstEntry v p :=
  { h with log := hlog.trans h.log }

/-- Whatever the log holds, there is a first document with the identity unless there is none. -/
theorem absent_or_exists_firstEntry (s : Store) (v : Int64) :
    (∀ d ∈ s.log, ¬ d.Names v) ∨ ∃ p, s.FirstEntry v p := by
  cases hfind : s.log.find? (Filter.accepts (versionFilter v)) with
  | none =>
    refine .inl fun d hd hnames => ?_
    exact List.find?_eq_none.1 hfind d hd (Document.accepts_versionFilter_iff.2 hnames)
  | some first =>
    obtain ⟨haccepts, before, after, hlog, hbefore⟩ := List.find?_eq_some_iff_append.1 hfind
    refine .inr ⟨⟨before, first, after⟩, hlog, Document.accepts_versionFilter_iff.1 haccepts, ?_⟩
    intro d hd hnames
    simpa [Document.accepts_versionFilter_iff.2 hnames] using hbefore d hd

end Store

/-! ### Reversals on a store -/

namespace Runner

open RecordStore.Action World

variable {catalog : Catalog (World Store ω)} {v : Int64} {w : World Store ω}
  {down : Action (World Store ω) Unit} {p : Filter.Place}

theorem outcome_findById_of_firstEntry (h : w.backend.FirstEntry v p) :
    (Repository.findById LogEntry (Migration.versionText v) :
      Action (World Store ω) LogEntry).outcome w = (LogEntry.ofDocument p.document, w) := by
  rw [outcome_of_simulates (simulates_findById _), outcome_onBackend,
    Repository.outcome_findById (ρ := LogEntry) rfl, h.first?_eq]

theorem outcome_findById_of_absent (h : ∀ d ∈ w.backend.log, ¬ d.Names v) :
    (Repository.findById LogEntry (Migration.versionText v) :
      Action (World Store ω) LogEntry).outcome w = (.error .notFound, w) := by
  rw [outcome_of_simulates (simulates_findById _), outcome_onBackend,
    Repository.outcome_findById (ρ := LogEntry) rfl, Store.first?_eq_none_of_absent h]

/-- The document that is removed is the first with the identity, which is the one that is found. -/
theorem outcome_deleteById_of_firstEntry (h : w.backend.FirstEntry v p) :
    (Repository.deleteById LogEntry (Migration.versionText v) :
      Action (World Store ω) Nat).outcome w =
        (.ok 1, ⟨w.backend.withLog (p.before ++ p.after), w.rest⟩) := by
  rw [outcome_of_simulates (simulates_deleteById _), outcome_onBackend,
    Repository.outcome_deleteById (ρ := LogEntry) rfl, h.first?_eq]
  rfl

/-- The reverse step of a version is all that is missing: there is one, and the first document in
the log that has the identity of the version can be read. -/
structure Ready (catalog : Catalog (World Store ω)) (v : Int64) (s : Store)
    (down : Action (World Store ω) Unit) (p : Filter.Place) : Prop where
  step : ∃ m, catalog.get? v = some m ∧ m.down = some down
  entry : s.FirstEntry v p
  readable : ∃ e, LogEntry.ofDocument p.document = .ok e

/-- What becomes of a reversal that is ready. -/
theorem Ready.outcome_revert (h : Ready catalog v w.backend down p) (hkeeps : down.KeepsLog) :
    (revert catalog v).outcome w =
      match down.outcome w with
      | (.error e, left) => (.error e, left)
      | (.ok _, left) => (.ok (), ⟨left.backend.withLog (p.before ++ p.after), left.rest⟩) := by
  obtain ⟨⟨m, hget, hdown⟩, hentry, e, he⟩ := h
  have hlog := (hkeeps w).1
  rw [revert_of_down hget hdown, outcome_bind, outcome_findById_of_firstEntry hentry, he]
  simp only [outcome_bind]
  rcases hstep : down.outcome w with ⟨answer, left⟩
  rw [hstep] at hlog
  cases answer with
  | error e => rfl
  | ok _ =>
    simp only [outcome_deleteById_of_firstEntry (hentry.congr hlog)]
    rfl

theorem starts_iff_ready : Starts catalog v w ↔ ∃ down p, Ready catalog v w.backend down p := by
  constructor
  · rintro ⟨m, down, e, hget, hdown, hfound⟩
    obtain habsent | ⟨p, hp⟩ := w.backend.absent_or_exists_firstEntry v
    · rw [outcome_findById_of_absent habsent] at hfound
      cases hfound
    · rw [outcome_findById_of_firstEntry hp] at hfound
      exact ⟨down, p, ⟨m, hget, hdown⟩, hp, e, hfound⟩
  · rintro ⟨down, p, ⟨m, hget, hdown⟩, hentry, e, he⟩
    exact ⟨m, down, e, hget, hdown, by rw [outcome_findById_of_firstEntry hentry, he]⟩

theorem outcome_revert_of_absent {m : Migration (World Store ω)} (hget : catalog.get? v = some m)
    (hdown : m.down = some down) (habsent : ∀ d ∈ w.backend.log, ¬ d.Names v) :
    (revert catalog v).outcome w = (.error .notFound, w) := by
  rw [revert_of_down hget hdown, outcome_bind, outcome_findById_of_absent habsent]

theorem outcome_revert_of_unreadable {m : Migration (World Store ω)} {e : StorageError}
    (hget : catalog.get? v = some m) (hdown : m.down = some down)
    (hentry : w.backend.FirstEntry v p) (he : LogEntry.ofDocument p.document = .error e) :
    (revert catalog v).outcome w = (.error e, w) := by
  rw [revert_of_down hget hdown, outcome_bind, outcome_findById_of_firstEntry hentry, he]

/-- A reversal that is not ready is refused and changes nothing. -/
theorem exists_refusal (h : ¬ ∃ down p, Ready catalog v w.backend down p) :
    ∃ e, (revert catalog v).outcome w = (.error e, w) := by
  cases hget : catalog.get? v with
  | none => exact ⟨_, by rw [revert_of_get?_eq_none hget, outcome_throw]⟩
  | some m =>
    cases hdown : m.down with
    | none => exact ⟨_, by rw [revert_of_down_eq_none hget hdown, outcome_throw]⟩
    | some down =>
      obtain habsent | ⟨p, hp⟩ := w.backend.absent_or_exists_firstEntry v
      · exact ⟨_, outcome_revert_of_absent hget hdown habsent⟩
      · cases hread : LogEntry.ofDocument p.document with
        | error e => exact ⟨e, outcome_revert_of_unreadable hget hdown hp hread⟩
        | ok e => exact absurd ⟨down, p, ⟨m, hget, hdown⟩, hp, e, hread⟩ h

/-- What is promised of the reversal of a version. -/
structure AllOrNothing (catalog : Catalog (World Store ω)) (v : Int64) (w : World Store ω) :
    Prop where
  unregistered : catalog.get? v = none →
    (revert catalog v).outcome w = (.error (.invalidRequest (.notRegistered v)), w)
  irreversible : ∀ m, catalog.get? v = some m → m.down = none →
    (revert catalog v).outcome w = (.error (.irreversible v), w)
  absent : ∀ m down, catalog.get? v = some m → m.down = some down →
    (∀ d ∈ w.backend.log, ¬ d.Names v) → (revert catalog v).outcome w = (.error .notFound, w)
  unreadable : ∀ m down p e, catalog.get? v = some m → m.down = some down →
    w.backend.FirstEntry v p → LogEntry.ofDocument p.document = .error e →
      e.isSerialization = true ∧ (revert catalog v).outcome w = (.error e, w)
  /-- The error of the reverse step is passed on, with the state that the step leaves. If the step
  succeeds, the document that was read is removed as well. -/
  ready : ∀ down p, Ready catalog v w.backend down p →
    (revert catalog v).outcome w =
      match down.outcome w with
      | (.error e, left) => (.error e, left)
      | (.ok _, left) => (.ok (), ⟨left.backend.withLog (p.before ++ p.after), left.rest⟩)
  /-- The reverse step is started once if everything is ready. -/
  started : (∃ down p, Ready catalog v w.backend down p) → ∀ record : List Int64,
    (revert catalog.tracked v).outcome ⟨w, record⟩ =
      (((revert catalog v).outcome w).1, ⟨((revert catalog v).outcome w).2, record ++ [v]⟩)
  /-- It is not started otherwise. -/
  unstarted : (¬ ∃ down p, Ready catalog v w.backend down p) → ∀ record : List Int64,
    (revert catalog.tracked v).outcome ⟨w, record⟩ =
      (((revert catalog v).outcome w).1, ⟨((revert catalog v).outcome w).2, record⟩)
  /-- The log stays as it is if the reversal fails. -/
  kept : ∀ e, ((revert catalog v).outcome w).1 = .error e →
    ((revert catalog v).outcome w).2.backend.log = w.backend.log
  /-- The first document of the version is removed from the log if the reversal succeeds. -/
  removed : ((revert catalog v).outcome w).1 = .ok () →
    ∃ p, w.backend.FirstEntry v p ∧
      ((revert catalog v).outcome w).2.backend.log = p.before ++ p.after

/-- A reversal that fails leaves the log as it is, and one that succeeds removes the first document
of the version. -/
theorem log_revert (hkeeps : ∀ m down, catalog.get? v = some m → m.down = some down →
    down.KeepsLog) (w : World Store ω) :
    ((∃ e, ((revert catalog v).outcome w).1 = .error e) ∧
        ((revert catalog v).outcome w).2.backend.log = w.backend.log) ∨
      (((revert catalog v).outcome w).1 = .ok () ∧ ∃ p, w.backend.FirstEntry v p ∧
        ((revert catalog v).outcome w).2.backend.log = p.before ++ p.after) := by
  by_cases hready : ∃ down p, Ready catalog v w.backend down p
  · obtain ⟨down, p, h⟩ := hready
    obtain ⟨m, hget, hdown⟩ := h.step
    have hlog := (hkeeps m down hget hdown w).1
    rw [h.outcome_revert (hkeeps m down hget hdown)]
    rcases hstep : down.outcome w with ⟨answer, left⟩
    rw [hstep] at hlog
    cases answer with
    | error e => exact .inl ⟨⟨e, rfl⟩, hlog⟩
    | ok _ => exact .inr ⟨rfl, p, h.entry, Store.log_withLog _ _⟩
  · obtain ⟨e, hrefused⟩ := exists_refusal hready
    rw [hrefused]
    exact .inl ⟨⟨e, rfl⟩, rfl⟩

/-- A tracked reversal is the reversal with another record. -/
theorem outcome_revert_tracked {record after : List Int64}
    (h : ((revert catalog.tracked v).outcome ⟨w, record⟩).2.rest = after) :
    (revert catalog.tracked v).outcome ⟨w, record⟩ =
      (((revert catalog v).outcome w).1, ⟨((revert catalog v).outcome w).2, after⟩) := by
  obtain ⟨hanswer, hstate⟩ := simulates_revert_tracked catalog v ⟨w, record⟩ w rfl
  rw [← hanswer, ← hstate, ← h]

/-- A reversal is all or nothing, whatever the log holds, if the reverse step leaves the log
alone. -/
theorem allOrNothing (hkeeps : ∀ m down, catalog.get? v = some m → m.down = some down →
    down.KeepsLog) (w : World Store ω) : AllOrNothing catalog v w where
  unregistered hget := by rw [revert_of_get?_eq_none hget, outcome_throw]
  irreversible m hget hdown := by rw [revert_of_down_eq_none hget hdown, outcome_throw]
  absent m down hget hdown := outcome_revert_of_absent hget hdown
  unreadable m down p e hget hdown hentry he :=
    ⟨Record.serialization_decode he, outcome_revert_of_unreadable hget hdown hentry he⟩
  ready down p h := by
    obtain ⟨m, hget, hdown⟩ := h.step
    exact h.outcome_revert (hkeeps m down hget hdown)
  started hready record :=
    outcome_revert_tracked (rest_revert_tracked (starts_iff_ready.2 hready))
  unstarted hready record :=
    outcome_revert_tracked (rest_revert_tracked_of_not (mt starts_iff_ready.1 hready))
  kept e herror := by
    obtain ⟨-, hlog⟩ | ⟨hok, -⟩ := log_revert hkeeps w
    · exact hlog
    · rw [hok] at herror
      cases herror
  removed hok := by
    obtain ⟨⟨e, herror⟩, -⟩ | ⟨-, hremoved⟩ := log_revert hkeeps w
    · rw [hok] at herror
      cases herror
    · exact hremoved

end Runner

/-- A migration whose reverse step adds a document to another collection. -/
def Catalog.noting : Catalog (World Store Unit) where
  migrations :=
    [{ version := 1, description := "a", up := pure ()
       down := some (Backend.perform "notes" (.insertOne [("id", .string "reverted")])) }]
  ascending := by decide
  positive := by decide

theorem Catalog.keepsLog_noting (m : Migration (World Store Unit))
    (down : Action (World Store Unit) Unit) (hget : noting.get? 1 = some m)
    (hdown : m.down = some down) : down.KeepsLog := by
  cases hget
  cases hdown
  intro w
  have hne : Record.collection LogEntry ≠ "notes" := by decide
  exact ⟨congrArg Contents.documents (Store.contents_put_of_ne w.backend _ hne), rfl⟩

namespace Runner

/-- The log holds two entries of a version, and one of another version that cannot be read. -/
theorem allOrNothing_noting :
    (∀ m down, Catalog.noting.get? 1 = some m → m.down = some down → down.KeepsLog) ∧
      ∃ w : World Store Unit,
        w.backend.log.map (Document.get? · "id") =
          [some (.string "2"), some (.string "1"), some (.string "1")] ∧
        ((revert Catalog.noting 1).outcome w).1 = .ok () ∧
        ((revert Catalog.noting 1).outcome w).2.backend.log.map (Document.get? · "id") =
          [some (.string "2"), some (.string "1")] ∧
        AllOrNothing Catalog.noting 1 w := by
  refine ⟨Catalog.keepsLog_noting, ⟨({} : Store).withLog
    [[("id", .string "2")], (LogEntry.ofVersion 1).toDocument, (LogEntry.ofVersion 1).toDocument],
    ()⟩, rfl, ?_, ?_, allOrNothing Catalog.keepsLog_noting _⟩
  · decide +kernel
  · rfl

end Runner

end RecordStore
