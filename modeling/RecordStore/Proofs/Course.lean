import RecordStore.Proofs.LogRequest
/-!
# The course of a run

A run goes through the migrations above the current version in ascending order. Those that it
applies are followed in the log by their records; the first whose step fails, or whose record
the log refuses, ends it, and nothing after that one is started. This is so for every log and for
whatever steps do, as long as they leave the log alone.

## Main definitions

* `Course.Halt`: why a migration ends a run.
* `Course`: what a run has done when some migrations are applied and the rest is not.
* `Catalog.flaky`: a catalog with a step that fails once.

## Main results

* `Runner.exists_course_applyAll`: migrations applied one after the other.
* `Runner.exists_course_run`: a run that can read the current version.
* `Runner.run_course`: a whole run.
-/

namespace RecordStore

variable {ω α : Type}

/-- A world in which forward steps are on record. -/
abbrev Watch (ω : Type) := World (World Store ω) (List Taken)

/-- The store in a world in which forward steps are on record. -/
abbrev Watch.store (w : Watch ω) : Store := w.backend.backend

/-- The forward steps on record. -/
abbrev Watch.taken (w : Watch ω) : List Taken := w.rest

/-- The step of a migration that succeeded. -/
def Migration.succeeded {σ : Type} (m : Migration σ) : Taken :=
  ⟨m.version, none⟩

/-- Why a migration ends a run on a log: what is on record of its step, and the reason given. -/
inductive Course.Halt (log : Collection) (record : Document) : Option StorageError → String → Prop
  /-- The step failed. -/
  | step (e : StorageError) : Halt log record (some e) e.message
  /-- The step succeeded, and the log refuses the record. -/
  | refused (e : StorageError) (h : log.checkNew record = .error e) :
    Halt log record none ("recording applied version: " ++ e.message)

/-- What the application of migrations to a world has done, given its answer and the world that
it leaves, if the first migrations are applied and the rest is not. The answer is the given one
if nothing is left. -/
structure Course (finishedAt : Int64 → Instant) (w : Watch ω)
    (outcome : Except StorageError α × Watch ω) (answer : α)
    (applied rest : List (Migration (World Store ω))) : Prop where
  /-- All that are applied have a record at the end of the log. The identity is the decimal text of
  the version. -/
  log : outcome.2.store.log = w.store.log ++ applied.map fun m =>
    [("id", .string (toString m.version.toInt)), ("version", .int64 m.version),
      ("description", .string m.description), ("timestamp", .string (finishedAt m.version).text)]
  /-- The identity field stays. -/
  idField : outcome.2.store.idField = w.store.idField
  /-- Each of these records was new when it was added. -/
  accepted : ∀ before m after, applied = before ++ m :: after →
    (Collection.ofLog w.store.idField
      (w.store.log ++ before.map (Migration.record finishedAt))).checkNew
        (m.record finishedAt) = .ok ()
  /-- If nothing is left, all steps succeeded. -/
  finished : rest = [] →
    outcome.1 = .ok answer ∧ outcome.2.taken = w.taken ++ applied.map Migration.succeeded
  /-- Otherwise the first that is left ended the run, and it was started as the last. -/
  halted : ∀ m later, rest = m :: later → ∃ failure reason,
    Course.Halt (.ofLog outcome.2.store.idField outcome.2.store.log) (m.record finishedAt)
      failure reason ∧
    outcome.1 = .error (.migrationFailure m.version m.description reason) ∧
    outcome.2.taken = w.taken ++ applied.map Migration.succeeded ++ [⟨m.version, failure⟩]

namespace Course

variable {finishedAt : Int64 → Instant} {w v : Watch ω} {outcome : Except StorageError α × Watch ω}
  {answer : α} {applied rest : List (Migration (World Store ω))} {m : Migration (World Store ω)}

/-- The records in the log are those that the runner writes. -/
theorem log_eq (h : Course finishedAt w outcome answer applied rest) :
    outcome.2.store.log = w.store.log ++ applied.map (Migration.record finishedAt) :=
  h.log

theorem map {β : Type} (f : α → β) (h : Course finishedAt w outcome answer applied rest) :
    Course finishedAt w (outcome.1.map f, outcome.2) (f answer) applied rest where
  log := h.log
  idField := h.idField
  accepted := h.accepted
  finished hrest := by
    obtain ⟨hanswer, htaken⟩ := h.finished hrest
    rw [hanswer]
    exact ⟨rfl, htaken⟩
  halted m later hrest := by
    obtain ⟨failure, reason, hhalt, hanswer, htaken⟩ := h.halted m later hrest
    rw [hanswer]
    exact ⟨failure, reason, hhalt, rfl, htaken⟩

/-- Nothing is left where the answer is no error. -/
theorem rest_eq_nil (h : Course finishedAt w outcome answer applied rest) {other : α}
    (hok : outcome.1 = .ok other) : rest = [] := by
  by_contra hrest
  obtain ⟨m, later, hcons⟩ := List.exists_cons_of_ne_nil hrest
  obtain ⟨failure, reason, -, herror, -⟩ := h.halted m later hcons
  rw [hok] at herror
  cases herror

theorem cons (h : Course finishedAt v outcome answer applied rest)
    (hlog : v.store.log = w.store.log ++ [m.record finishedAt])
    (hfield : v.store.idField = w.store.idField) (htaken : v.taken = w.taken ++ [m.succeeded])
    (hnew : (Collection.ofLog w.store.idField w.store.log).checkNew (m.record finishedAt) =
      .ok ()) :
    Course finishedAt w outcome answer (m :: applied) rest where
  log := by
    rw [h.log_eq, hlog, List.append_assoc, List.singleton_append]
    rfl
  idField := h.idField.trans hfield
  accepted before n after hsplit := by
    obtain ⟨rfl, hcons⟩ | ⟨others, rfl, hcons⟩ := List.cons_eq_append_iff.1 hsplit
    · cases hcons
      rw [List.map_nil, List.append_nil]
      exact hnew
    · have hother := h.accepted others n after hcons
      rw [hfield, hlog, List.append_assoc, List.singleton_append] at hother
      exact hother
  finished hrest := by
    obtain ⟨hanswer, hall⟩ := h.finished hrest
    refine ⟨hanswer, ?_⟩
    rw [hall, htaken, List.append_assoc, List.map_cons, List.singleton_append]
  halted n later hrest := by
    obtain ⟨failure, reason, hhalt, hanswer, hall⟩ := h.halted n later hrest
    refine ⟨failure, reason, hhalt, hanswer, ?_⟩
    rw [hall, htaken, List.append_assoc w.taken, List.map_cons, List.singleton_append]

theorem halt {left : World Store ω} {failure : Option StorageError} {reason : String}
    (hlog : left.backend.log = w.store.log) (hfield : left.backend.idField = w.store.idField)
    (hhalt : Halt (.ofLog left.backend.idField left.backend.log) (m.record finishedAt)
      failure reason) :
    Course finishedAt w (.error (.migrationFailure m.version m.description reason),
      ⟨left, w.taken ++ [⟨m.version, failure⟩]⟩) answer [] (m :: rest) where
  log := by rw [List.map_nil, List.append_nil, ← hlog]
  idField := hfield
  accepted before n after hsplit := by simp at hsplit
  finished hrest := by cases hrest
  halted n later hrest := by
    cases hrest
    refine ⟨failure, reason, hhalt, rfl, ?_⟩
    rw [List.map_nil, List.append_nil]

end Course

namespace Runner

open RecordStore.Action

variable (finishedAt : Int64 → Instant)

/-- One migration: its step, and its record if the step succeeded. -/
theorem outcome_apply_watched (m : Migration (World Store ω)) (w : Watch ω) :
    (apply finishedAt m.watched).outcome w =
      match m.up.outcome w.backend with
      | (.error e, left) =>
        (.error (failure m e.message), ⟨left, w.taken ++ [⟨m.version, some e⟩]⟩)
      | (.ok _, left) =>
        match (Collection.ofLog left.backend.idField left.backend.log).checkNew
          (m.record finishedAt) with
        | .error e =>
          (.error (failure m ("recording applied version: " ++ e.message)),
            ⟨left, w.taken ++ [m.succeeded]⟩)
        | .ok _ =>
          (.ok (), ⟨⟨left.backend.withLog (left.backend.log ++ [m.record finishedAt]), left.rest⟩,
            w.taken ++ [m.succeeded]⟩) := by
  have hup : m.watched.up.outcome w =
      ((m.up.outcome w.backend).1, ⟨(m.up.outcome w.backend).2,
        w.taken ++ [⟨m.version, failure? (m.up.outcome w.backend).1⟩]⟩) := rfl
  have hinsert : ∀ v : Watch ω, (Repository.insertOne (LogEntry.applied m
      (finishedAt m.version)) : Action (Watch ω) Unit).outcome v =
        (World.onBackend (World.onBackend (Repository.insertOne (LogEntry.applied m
          (finishedAt m.version))))).outcome v := by
    intro v
    rw [World.outcome_of_simulates (World.simulates_insertOne _),
      World.outcome_onBackend, World.outcome_of_simulates (World.simulates_insertOne _)]
    rfl
  have hentry : LogEntry.applied m.watched (finishedAt m.watched.version) =
      LogEntry.applied m (finishedAt m.version) := rfl
  rw [apply, hentry, outcome_bind, outcome_mapError, hup]
  obtain ⟨answer, left⟩ := m.up.outcome w.backend
  cases answer with
  | error e => rfl
  | ok u =>
    simp only [Except.mapError, outcome_mapError, hinsert, World.outcome_onBackend,
      outcome_insertOne]
    have hrecord : (LogEntry.applied m (finishedAt m.version)).toDocument =
        m.record finishedAt := rfl
    rw [hrecord]
    cases (Collection.ofLog left.backend.idField left.backend.log).checkNew
      (m.record finishedAt) <;> rfl

theorem outcome_applyAll_cons {σ : Type} [Backend σ] (m : Migration σ) (ms : List (Migration σ))
    (s : σ) :
    (applyAll finishedAt (m :: ms)).outcome s =
      match (apply finishedAt m).outcome s with
      | (.error e, left) => (.error e, left)
      | (.ok _, left) =>
        (((applyAll finishedAt ms).outcome left).1.map (m.version :: ·),
          ((applyAll finishedAt ms).outcome left).2) := by
  simp only [applyAll, outcome_bind]
  obtain ⟨answer, left⟩ := (apply finishedAt m).outcome s
  cases answer with
  | error e => rfl
  | ok u =>
    dsimp only
    obtain ⟨answer, last⟩ := (applyAll finishedAt ms).outcome left
    cases answer <;> rfl

theorem exists_course_applyAll {ms : List (Migration (World Store ω))}
    (hsteps : ∀ m ∈ ms, m.up.KeepsLog) (w : Watch ω) :
    ∃ applied rest, ms = applied ++ rest ∧
      Course finishedAt w ((applyAll finishedAt (ms.map Migration.watched)).outcome w)
        (applied.map Migration.version) applied rest := by
  induction ms generalizing w with
  | nil =>
    refine ⟨[], [], rfl, ?_⟩
    exact
      { log := (List.append_nil _).symm
        idField := rfl
        accepted := by simp
        finished := fun _ => ⟨rfl, (List.append_nil _).symm⟩
        halted := by simp }
  | cons m ms ih =>
    obtain ⟨hm, hms⟩ := List.forall_mem_cons.1 hsteps
    obtain ⟨hlog, hfield⟩ := hm w.backend
    rw [List.map_cons, outcome_applyAll_cons, outcome_apply_watched]
    generalize m.up.outcome w.backend = r at hlog hfield ⊢
    obtain ⟨answer, left⟩ := r
    cases answer with
    | error e => exact ⟨[], m :: ms, rfl, Course.halt hlog hfield (.step e)⟩
    | ok u =>
      dsimp only
      cases hnew : (Collection.ofLog left.backend.idField left.backend.log).checkNew
        (m.record finishedAt) with
      | error e => exact ⟨[], m :: ms, rfl, Course.halt hlog hfield (.refused e hnew)⟩
      | ok u =>
        simp only at hlog hfield hnew ⊢
        obtain ⟨applied, rest, rfl, hcourse⟩ := ih hms
          ⟨⟨left.backend.withLog (left.backend.log ++ [m.record finishedAt]), left.rest⟩,
            w.taken ++ [m.succeeded]⟩
        refine ⟨m :: applied, rest, rfl, ?_⟩
        rw [hlog, hfield] at hnew
        refine (hcourse.map (m.version :: ·)).cons ?_ hfield rfl hnew
        rw [Store.log_withLog, hlog]

theorem outcome_currentVersion_watch (w : Watch ω) :
    (currentVersion : Action (Watch ω) Int64).outcome w =
      (((currentVersion : Action Store Int64).outcome w.store).1, w) := by
  rw [World.outcome_of_simulates World.simulates_currentVersion, World.outcome_onBackend,
    World.outcome_of_simulates World.simulates_currentVersion, World.outcome_onBackend,
    outcome_currentVersion]

theorem outcome_run_watched (catalog : Catalog (World Store ω)) (w : Watch ω) :
    (run finishedAt catalog.watched).outcome w =
      match ((currentVersion : Action Store Int64).outcome w.store).1 with
      | .error e => (.error e, w)
      | .ok starting =>
        (((applyAll finishedAt ((catalog.pendingAfter starting).map Migration.watched)).outcome
            w).1.map (Report.mk starting),
          ((applyAll finishedAt ((catalog.pendingAfter starting).map Migration.watched)).outcome
            w).2) := by
  rw [run, outcome_bind, outcome_currentVersion_watch]
  cases ((currentVersion : Action Store Int64).outcome w.store).1 with
  | error e => rfl
  | ok starting =>
    simp only [outcome_bind, Catalog.pendingAfter_watched]
    obtain ⟨answer, left⟩ :=
      (applyAll finishedAt ((catalog.pendingAfter starting).map Migration.watched)).outcome w
    cases answer <;> rfl

theorem exists_course_run {catalog : Catalog (World Store ω)}
    (hsteps : ∀ m ∈ catalog.migrations, m.up.KeepsLog) {w : Watch ω} {starting : Int64}
    (hstarting : ((currentVersion : Action Store Int64).outcome w.store).1 = .ok starting) :
    ∃ applied rest, catalog.pendingAfter starting = applied ++ rest ∧
      Course finishedAt w ((run finishedAt catalog.watched).outcome w)
        ⟨starting, applied.map Migration.version⟩ applied rest := by
  have hpending : ∀ m ∈ catalog.pendingAfter starting, m.up.KeepsLog :=
    fun m hm => hsteps m (List.mem_of_mem_filter hm)
  obtain ⟨applied, rest, hsplit, hcourse⟩ := exists_course_applyAll finishedAt hpending w
  refine ⟨applied, rest, hsplit, ?_⟩
  rw [outcome_run_watched, hstarting]
  exact hcourse.map (Report.mk starting)

/-- A run answers as the run without a record of its steps, and leaves the same world. -/
theorem outcome_run_eq (catalog : Catalog (World Store ω)) (w : Watch ω) :
    (run finishedAt catalog).outcome w.backend =
      (((run finishedAt catalog.watched).outcome w).1,
        ((run finishedAt catalog.watched).outcome w).2.backend) := by
  obtain ⟨hanswer, hstate⟩ := simulates_run_watched finishedAt catalog w w.backend rfl
  exact Prod.ext hanswer.symm hstate.symm

/-- **The course of a run.** If the current version cannot be read, the run fails for the same
reason and nothing else happens. Otherwise it applies the migrations above the current version
in ascending order, up to the first whose step fails or whose record is refused. The record of
steps taken has no part in this. -/
theorem run_course {catalog : Catalog (World Store ω)}
    (hsteps : ∀ m ∈ catalog.migrations, m.up.KeepsLog) (w : Watch ω) :
    (∀ e, ((currentVersion : Action Store Int64).outcome w.store).1 = .error e →
      (run finishedAt catalog.watched).outcome w = (.error e, w)) ∧
    (∀ starting, ((currentVersion : Action Store Int64).outcome w.store).1 = .ok starting →
      ∃ applied rest, catalog.migrations.filter (starting < ·.version) = applied ++ rest ∧
        Course finishedAt w ((run finishedAt catalog.watched).outcome w)
          ⟨starting, applied.map Migration.version⟩ applied rest) ∧
    (run finishedAt catalog).outcome w.backend =
      (((run finishedAt catalog.watched).outcome w).1,
        ((run finishedAt catalog.watched).outcome w).2.backend) := by
  refine ⟨fun e he => ?_, fun starting hstarting => ?_, outcome_run_eq finishedAt catalog w⟩
  · rw [outcome_run_watched, he]
  · exact exists_course_run finishedAt hsteps hstarting

end Runner

/-- Three migrations of which the step of the second fails when it is first taken. -/
def Catalog.flaky : Catalog (World Store Bool) where
  migrations :=
    [{ version := 1, description := "users", up := pure () },
      { version := 2
        description := "indexes"
        up := Action.ofFunction fun w =>
          (if w.rest then .ok () else .error (.store (.reported "index build aborted")),
            { w with rest := true }) },
      { version := 3, description := "backfill", up := pure () }]
  ascending := by decide
  positive := by decide

theorem Catalog.keepsLog_flaky : ∀ m ∈ flaky.migrations, m.up.KeepsLog := by
  simp only [flaky, List.forall_mem_cons]
  exact ⟨fun w => ⟨rfl, rfl⟩, fun w => ⟨rfl, rfl⟩, fun w => ⟨rfl, rfl⟩, List.forall_mem_nil _⟩

/-- A log without entries, and a run that records the first version and ends at the second. -/
theorem Runner.run_course_flaky :
    (∀ m ∈ Catalog.flaky.migrations, m.up.KeepsLog) ∧
    ((currentVersion : Action Store Int64).outcome {}).1 = .ok 0 ∧
    ((run (fun _ => .epoch) Catalog.flaky.watched).outcome
      ⟨⟨{}, false⟩, []⟩).2.backend.backend.log =
      [[("id", .string "1"), ("version", .int64 1), ("description", .string "users"),
        ("timestamp", .string "1970-01-01T00:00:00Z")]] ∧
    ∃ applied rest,
      Catalog.flaky.migrations.filter ((0 : Int64) < ·.version) = applied ++ rest ∧
      Course (fun _ => .epoch) ⟨⟨{}, false⟩, []⟩
        ((run (fun _ => .epoch) Catalog.flaky.watched).outcome ⟨⟨{}, false⟩, []⟩)
        ⟨0, applied.map Migration.version⟩ applied rest := by
  have hlog : ({} : Store).Logs [] := rfl
  have hstarting : ((currentVersion : Action Store Int64).outcome {}).1 = .ok 0 := by
    rw [answer_currentVersion hlog (by simp)]
    rfl
  have hcourse := (run_course (fun _ => .epoch) Catalog.keepsLog_flaky ⟨⟨{}, false⟩, []⟩).2.1
    0 hstarting
  exact ⟨Catalog.keepsLog_flaky, hstarting, rfl, hcourse⟩

end RecordStore
