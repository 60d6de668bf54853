import RecordStore.Proofs.Course
import RecordStore.Proofs.Ledger
/-!
# Applying a catalog once

A catalog is run again and again on a log that was empty at first, and its steps may fail at any
call. The log stays a ledger of the migrations that are done, which are the first ones of the
catalog, and each run goes on where the last one ended. So every step succeeds once at most,
whatever happens between, and a run that succeeds leaves nothing to do.

## Main definitions

* `Clock`: the instants at which a run finishes its steps.
* `Runner.runAll`: a catalog run several times.
* `Runner.Progress`: some migrations are done and the others are not.
* `Runner.AppliedOnce`: what is promised of a catalog that is run several times.

## Main results

* `Runner.exists_run`: a run on a ledger.
* `Runner.Progress.run`: one more run.
* `Runner.exists_appliedOnce`: any number of runs.
-/

namespace RecordStore

variable {σ ω α : Type}

/-- The instants at which a run finishes its steps, by version. No clock shows leap seconds or
days beyond those that are kept. -/
structure Clock where
  /-- The instant of a version. -/
  finishedAt : Int64 → Instant
  regular : ∀ version, (finishedAt version).Regular

/-- The clock that stands still where the count of time starts. -/
def Clock.stopped : Clock where
  finishedAt _ := .epoch
  regular _ := Instant.regular_epoch

/-- No version of the catalog lies above those that doubles hold exactly. -/
def Catalog.Small (c : Catalog σ) : Prop :=
  ∀ m ∈ c.migrations, m.version.toInt ≤ 2 ^ 53

theorem Migration.proper_entry {c : Catalog σ} (hsmall : c.Small) (clock : Clock)
    {m : Migration σ} (hm : m ∈ c.migrations) : (m.entry clock.finishedAt).Proper where
  id := rfl
  positive := c.positive m hm
  small := hsmall m hm
  regular := clock.regular m.version

theorem Catalog.pendingAfter_of_append {c : Catalog σ} {done todo : List (Migration σ)}
    (h : c.migrations = done ++ todo) :
    c.pendingAfter ((done.getLast?.map Migration.version).getD 0) = todo := by
  have hascending := c.ascending
  have hpositive := c.positive
  rw [h] at hascending hpositive
  obtain ⟨hdone, -, hacross⟩ := List.pairwise_append.1 hascending
  obtain rfl | ⟨before, last, rfl⟩ := done.eq_nil_or_concat'
  · exact pendingAfter_eq_of_append h (List.forall_mem_nil _) hpositive
  · rw [List.getLast?_concat, Option.map_some, Option.getD_some]
    exact pendingAfter_eq_of_append h (le_of_ascending Migration.version hdone)
      (hacross last (by simp))

/-- The versions of a ledger and of the migrations that are pending after it ascend. -/
theorem Store.Ledger.pairwise_pending {s : Store} {es : List LogEntry} (h : s.Ledger es)
    (c : Catalog σ) (clock : Clock) :
    (es ++ (c.pendingAfter (LogEntry.highest es)).map (Migration.entry clock.finishedAt)).Pairwise
      fun e f => e.version < f.version := by
  have hpending : (c.pendingAfter (LogEntry.highest es)).Pairwise
      fun m n => m.version < n.version := c.ascending.filter _
  refine List.pairwise_append.2 ⟨h.ascending, List.pairwise_map.2 hpending, fun e he f hf => ?_⟩
  obtain ⟨m, hm, rfl⟩ := List.mem_map.1 hf
  have habove : LogEntry.highest es < m.version := by
    simpa using (List.mem_filter.1 hm).2
  exact Int64.lt_of_le_of_lt (LogEntry.le_highest h.ascending he) habove

/-! ### The course of a run on a ledger -/

namespace Course

variable {clock : Clock} {w : Watch ω} {outcome : Except StorageError α × Watch ω} {answer : α}
  {catalog : Catalog (World Store ω)} {applied rest : List (Migration (World Store ω))}
  {es : List LogEntry}

theorem ledger (h : Course clock.finishedAt w outcome answer applied rest)
    (hw : w.store.Ledger es) (hsmall : catalog.Small)
    (hpending : catalog.pendingAfter (LogEntry.highest es) = applied ++ rest) :
    outcome.2.store.Ledger (es ++ applied.map (Migration.entry clock.finishedAt)) where
  log := by
    rw [h.log_eq, hw.log, List.map_append, List.map_map]
    rfl
  proper := by
    intro e he
    obtain he | he := List.mem_append.1 he
    · exact hw.proper e he
    · obtain ⟨m, hm, rfl⟩ := List.mem_map.1 he
      have hmem : m ∈ catalog.pendingAfter (LogEntry.highest es) := by
        rw [hpending]
        exact List.mem_append_left _ hm
      exact Migration.proper_entry hsmall clock (List.mem_of_mem_filter hmem)
  ascending := by
    have hall := hw.pairwise_pending catalog clock
    rw [hpending, List.map_append, ← List.append_assoc] at hall
    exact (List.pairwise_append.1 hall).1

/-- Only a step can end a run on a ledger, as the log accepts every record. -/
theorem exists_failure (h : Course clock.finishedAt w outcome answer applied rest)
    (hw : w.store.Ledger es) (hfield : w.store.idField = Record.idField LogEntry)
    (hsmall : catalog.Small)
    (hpending : catalog.pendingAfter (LogEntry.highest es) = applied ++ rest)
    {m : Migration (World Store ω)} {later : List (Migration (World Store ω))}
    (hrest : rest = m :: later) :
    ∃ e : StorageError,
      outcome.1 = .error (.migrationFailure m.version m.description e.message) ∧
      outcome.2.taken = w.taken ++ applied.map Migration.succeeded ++ [⟨m.version, some e⟩] := by
  obtain ⟨failure, reason, hhalt, hanswer, htaken⟩ := h.halted m later hrest
  cases hhalt with
  | step e => exact ⟨e, hanswer, htaken⟩
  | refused e hrefused =>
    have hm : m ∈ catalog.pendingAfter (LogEntry.highest es) := by simp [hpending, hrest]
    have hproper := Migration.proper_entry hsmall clock (List.mem_of_mem_filter hm)
    have hall := hw.pairwise_pending catalog clock
    rw [hpending, List.map_append, ← List.append_assoc] at hall
    have hbelow : ∀ f ∈ es ++ applied.map (Migration.entry clock.finishedAt),
        f.version ≠ (m.entry clock.finishedAt).version := by
      intro f hf
      refine Int64.ne_of_lt ((List.pairwise_append.1 hall).2.2 f hf _ ?_)
      rw [hrest]
      exact List.mem_cons_self
    have hnew := (h.ledger hw hsmall hpending).checkNew_eq_ok (h.idField.trans hfield) hproper
      hbelow
    have hrecord : (m.entry clock.finishedAt).toDocument = m.record clock.finishedAt := rfl
    rw [hrecord, hrefused] at hnew
    cases hnew

/-- The steps that a run on a ledger takes: those of the migrations that it applies succeed, and
it starts with the first that is pending. -/
theorem exists_new (h : Course clock.finishedAt w outcome answer applied rest)
    (hw : w.store.Ledger es) (hfield : w.store.idField = Record.idField LogEntry)
    (hsmall : catalog.Small)
    (hpending : catalog.pendingAfter (LogEntry.highest es) = applied ++ rest) :
    ∃ new : List Taken, outcome.2.taken = w.taken ++ new ∧
      new.head?.map Taken.version = (applied ++ rest).head?.map Migration.version ∧
      (new.filter (·.failure.isNone)).map Taken.version = applied.map Migration.version := by
  have hsucceeded : ((applied.map Migration.succeeded).filter (·.failure.isNone)).map
      Taken.version = applied.map Migration.version := by
    rw [List.filter_eq_self.2 (List.forall_mem_map.2 fun m _ => rfl), List.map_map]
    rfl
  have hhead : (applied.map Migration.succeeded).head?.map Taken.version =
      applied.head?.map Migration.version := by
    rw [List.head?_map, Option.map_map]
    rfl
  cases hrest : rest with
  | nil =>
    refine ⟨applied.map Migration.succeeded, (h.finished hrest).2, ?_, hsucceeded⟩
    rw [hhead, List.append_nil]
  | cons m later =>
    obtain ⟨e, -, htaken⟩ := h.exists_failure hw hfield hsmall hpending hrest
    refine ⟨applied.map Migration.succeeded ++ [⟨m.version, some e⟩], ?_, ?_, ?_⟩
    · rw [htaken, List.append_assoc]
    · rw [List.head?_append, List.head?_append, Option.map_or, Option.map_or, hhead]
      rfl
    · rw [List.filter_append, List.map_append, hsucceeded]
      exact List.append_nil _

end Course

namespace Runner

section Ledger

variable {catalog : Catalog (World Store ω)} {es : List LogEntry} {clock : Clock}
  {answer : Except StorageError Report}

/-- A run on a ledger adds entries for the first migrations that are pending. -/
theorem exists_run_watched (hsteps : ∀ m ∈ catalog.migrations, m.up.KeepsLog)
    (hsmall : catalog.Small) {w left : Watch ω} (hw : w.store.Ledger es)
    (hrun : (run clock.finishedAt catalog.watched).outcome w = (answer, left)) :
    ∃ applied rest, catalog.pendingAfter (LogEntry.highest es) = applied ++ rest ∧
      left.store.Ledger (es ++ applied.map (Migration.entry clock.finishedAt)) ∧
      Course clock.finishedAt w (answer, left)
        ⟨LogEntry.highest es, applied.map Migration.version⟩ applied rest := by
  obtain ⟨applied, rest, hpending, hcourse⟩ :=
    exists_course_run clock.finishedAt hsteps hw.answer_currentVersion
  rw [hrun] at hcourse
  exact ⟨applied, rest, hpending, hcourse.ledger hw hsmall hpending, hcourse⟩

/-- A run without a record of its steps adds them too, and succeeds if and only if these are all. -/
theorem exists_run (hsteps : ∀ m ∈ catalog.migrations, m.up.KeepsLog) (hsmall : catalog.Small)
    {w left : World Store ω} (hw : w.backend.Ledger es)
    (hrun : (run clock.finishedAt catalog).outcome w = (answer, left)) :
    ∃ applied rest, catalog.pendingAfter (LogEntry.highest es) = applied ++ rest ∧
      left.backend.Ledger (es ++ applied.map (Migration.entry clock.finishedAt)) ∧
      (rest = [] → answer = .ok ⟨LogEntry.highest es, applied.map Migration.version⟩) ∧
      (∀ report, answer = .ok report → rest = []) := by
  have heq := outcome_run_eq clock.finishedAt catalog ⟨w, []⟩
  rcases hwatched : (run clock.finishedAt catalog.watched).outcome ⟨w, []⟩ with ⟨_, watched⟩
  rw [hwatched, hrun] at heq
  cases heq
  obtain ⟨applied, rest, hpending, hledger, hcourse⟩ :=
    exists_run_watched hsteps hsmall (w := ⟨w, []⟩) hw hwatched
  exact ⟨applied, rest, hpending, hledger, fun hrest => (hcourse.finished hrest).1,
    fun _ => hcourse.rest_eq_nil⟩

end Ledger

/-! ### Several runs -/

/-- The state after a catalog is run several times, with a clock for each run. -/
def runAll [Backend σ] (catalog : Catalog σ) (clocks : List Clock) (s : σ) : σ :=
  clocks.foldl (fun s clock => ((run clock.finishedAt catalog).outcome s).2) s

theorem runAll_append_singleton [Backend σ] (catalog : Catalog σ) (clocks : List Clock)
    (clock : Clock) (s : σ) :
    runAll catalog (clocks ++ [clock]) s =
      ((run clock.finishedAt catalog).outcome (runAll catalog clocks s)).2 := by
  rw [runAll, List.foldl_append]
  rfl

theorem backend_runAll_watched (catalog : Catalog (World Store ω)) (clocks : List Clock)
    (w : Watch ω) :
    (runAll catalog.watched clocks w).backend = runAll catalog clocks w.backend := by
  induction clocks generalizing w with
  | nil => rfl
  | cons clock clocks ih =>
    have hrun := outcome_run_eq clock.finishedAt catalog w
    have hnext := ih ((run clock.finishedAt catalog.watched).outcome w).2
    simp only [runAll, List.foldl_cons, hrun] at hnext ⊢
    exact hnext

/-- The log of a world is a ledger of the first migrations of a catalog, and these are the ones
whose steps succeeded. -/
structure Progress (catalog : Catalog (World Store ω)) (w : Watch ω)
    (done todo : List (Migration (World Store ω))) (es : List LogEntry) : Prop where
  split : catalog.migrations = done ++ todo
  idField : w.store.idField = Record.idField LogEntry
  ledger : w.store.Ledger es
  versions : es.map LogEntry.version = done.map Migration.version
  taken : (w.taken.filter (·.failure.isNone)).map Taken.version = done.map Migration.version

namespace Progress

variable {catalog : Catalog (World Store ω)} {w : Watch ω}
  {done todo : List (Migration (World Store ω))} {es : List LogEntry}

theorem pendingAfter_highest (h : Progress catalog w done todo es) :
    catalog.pendingAfter (LogEntry.highest es) = todo := by
  have hhighest : LogEntry.highest es = (done.getLast?.map Migration.version).getD 0 := by
    rw [LogEntry.highest, ← List.getLast?_map, h.versions, List.getLast?_map]
  rw [hhighest, Catalog.pendingAfter_of_append h.split]

/-- The first version that the log does not hold is the first one left. -/
theorem find?_eq (h : Progress catalog w done todo es) :
    catalog.migrations.find? (fun m => m.version ∉ es.map LogEntry.version) = todo.head? := by
  have hascending := catalog.ascending
  rw [h.split] at hascending ⊢
  have hacross := (List.pairwise_append.1 hascending).2.2
  have hdone : done.find? (fun m => m.version ∉ es.map LogEntry.version) = none := by
    refine List.find?_eq_none.2 fun m hm => ?_
    rw [h.versions, decide_eq_true_iff, Classical.not_not]
    exact List.mem_map_of_mem hm
  rw [List.find?_append, hdone, Option.none_or]
  cases todo with
  | nil => rfl
  | cons m later =>
    have hm : m.version ∉ es.map LogEntry.version := by
      rw [h.versions, List.mem_map]
      rintro ⟨n, hn, hversion⟩
      exact Int64.ne_of_lt (hacross n hn m List.mem_cons_self) hversion
    exact List.find?_cons_of_pos (decide_eq_true hm)

theorem run (h : Progress catalog w done todo es)
    (hsteps : ∀ m ∈ catalog.migrations, m.up.KeepsLog) (hsmall : catalog.Small) {clock : Clock}
    {answer : Except StorageError Report} {left : Watch ω}
    (hrun : (Runner.run clock.finishedAt catalog.watched).outcome w = (answer, left)) :
    ∃ applied rest, todo = applied ++ rest ∧
      Progress catalog left (done ++ applied) rest
        (es ++ applied.map (Migration.entry clock.finishedAt)) ∧
      ∃ new, left.taken = w.taken ++ new ∧
        new.head?.map Taken.version = todo.head?.map Migration.version := by
  obtain ⟨applied, rest, hpending, hledger, hcourse⟩ :=
    exists_run_watched hsteps hsmall h.ledger hrun
  obtain ⟨new, hnew, hhead, hsucceeded⟩ :=
    hcourse.exists_new h.ledger h.idField hsmall hpending
  have htodo : todo = applied ++ rest := h.pendingAfter_highest ▸ hpending
  refine ⟨applied, rest, htodo, ?_, new, hnew, htodo ▸ hhead⟩
  exact
    { split := by rw [h.split, htodo, List.append_assoc]
      idField := hcourse.idField.trans h.idField
      ledger := hledger
      versions := by
        rw [List.map_append, h.versions, List.map_map, List.map_append]
        rfl
      taken := by
        rw [hnew, List.filter_append, List.map_append, h.taken, hsucceeded, List.map_append] }

/-- A run that succeeds leaves nothing to do, and reports the current version. -/
theorem complete (h : Progress catalog w done todo es)
    (hsteps : ∀ m ∈ catalog.migrations, m.up.KeepsLog) (hsmall : catalog.Small) {clock : Clock}
    {report : Report} {left : World Store ω}
    (hrun : (Runner.run clock.finishedAt catalog).outcome w.backend = (.ok report, left)) :
    (∃ all, left.backend.Logs all ∧
      all.map LogEntry.version = catalog.migrations.map Migration.version) ∧
    ((currentVersion : Action (World Store ω) Int64).outcome left).1 = .ok report.current := by
  obtain ⟨applied, rest, hpending, hledger, hfinished, hall⟩ :=
    Runner.exists_run hsteps hsmall h.ledger hrun
  have hrest : rest = [] := hall report rfl
  have hanswer := hfinished hrest
  rw [h.pendingAfter_highest, hrest, List.append_nil] at hpending
  subst hpending
  cases hanswer
  refine ⟨⟨_, hledger.logs, ?_⟩, ?_⟩
  · rw [List.map_append, h.versions, h.split, List.map_append, List.map_map]
    rfl
  · rw [World.outcome_of_simulates World.simulates_currentVersion, World.outcome_onBackend,
      hledger.answer_currentVersion, LogEntry.highest_append, List.getLast?_map,
      Option.map_map, Report.current, List.getLast?_map]
    rfl

theorem exists_runAll (h : Progress catalog w done todo es)
    (hsteps : ∀ m ∈ catalog.migrations, m.up.KeepsLog) (hsmall : catalog.Small)
    (clocks : List Clock) :
    ∃ done todo es, Progress catalog (runAll catalog.watched clocks w) done todo es := by
  induction clocks generalizing w done todo es with
  | nil => exact ⟨done, todo, es, h⟩
  | cons clock clocks ih =>
    rcases hrun : (Runner.run clock.finishedAt catalog.watched).outcome w with ⟨answer, left⟩
    obtain ⟨applied, rest, -, hnext, -⟩ := h.run hsteps hsmall hrun
    have hleft := ih hnext
    rwa [runAll, List.foldl_cons, hrun]

end Progress

/-- What is promised of a catalog that was run several times on a log without entries, when the
log holds the given entries. Steps are on record in a run that is the same otherwise. -/
structure AppliedOnce (catalog : Catalog (World Store ω)) (start : Watch ω)
    (clocks : List Clock) (es : List LogEntry) : Prop where
  /-- The log holds the entries in this order. -/
  logs : (runAll catalog clocks start.backend).backend.Logs es
  /-- The versions of the catalog start with theirs. -/
  initial : es.map LogEntry.version <+: catalog.migrations.map Migration.version
  /-- No version occurs twice. -/
  once : (es.map LogEntry.version).Nodup
  /-- The steps that succeeded are those of the entries. -/
  succeeded : ((Watch.taken (runAll catalog.watched clocks start)).filter
    (·.failure.isNone)).map Taken.version = es.map LogEntry.version
  /-- Another run starts with the first version that the log does not hold, if there is one. -/
  next : ∀ clock, ∃ new, Watch.taken (runAll catalog.watched (clocks ++ [clock]) start) =
      Watch.taken (runAll catalog.watched clocks start) ++ new ∧
    new.head?.map Taken.version =
      (catalog.migrations.find? fun m => m.version ∉ es.map LogEntry.version).map Migration.version
  /-- If it succeeds, the log holds the whole catalog, and its report has the current version. -/
  complete : ∀ (clock : Clock) report left, (run clock.finishedAt catalog).outcome
      (runAll catalog clocks start.backend) = (.ok report, left) →
    (∃ all, left.backend.Logs all ∧
      all.map LogEntry.version = catalog.migrations.map Migration.version) ∧
    ((currentVersion : Action (World Store ω) Int64).outcome left).1 = .ok report.current
  /-- The record of steps has no part in this. -/
  unwatched : (runAll catalog.watched clocks start).backend = runAll catalog clocks start.backend

/-- **Every step succeeds once at most.** This is so for every number of runs of a catalog on a
log without entries, whatever the steps do at each call, as long as they leave the log alone. -/
theorem exists_appliedOnce {catalog : Catalog (World Store ω)}
    (hsteps : ∀ m ∈ catalog.migrations, m.up.KeepsLog) (hsmall : catalog.Small)
    {start : Watch ω} (hfield : start.store.idField = Record.idField LogEntry)
    (hlog : start.store.log = []) (htaken : start.taken = []) (clocks : List Clock) :
    ∃ es, AppliedOnce catalog start clocks es := by
  have hstart : Progress catalog start [] catalog.migrations [] :=
    { split := rfl
      idField := hfield
      ledger := .of_empty hlog
      versions := rfl
      taken := by rw [htaken]; rfl }
  obtain ⟨done, todo, es, h⟩ := hstart.exists_runAll hsteps hsmall clocks
  have hbackend := backend_runAll_watched catalog clocks start
  refine ⟨es, ?_⟩
  exact
    { logs := hbackend ▸ h.ledger.logs
      initial := by
        rw [h.versions, h.split, List.map_append]
        exact List.prefix_append _ _
      once := h.ledger.nodup_versions
      succeeded := by rw [h.taken, h.versions]
      next := fun clock => by
        rw [runAll_append_singleton, h.find?_eq]
        rcases hrun : (run clock.finishedAt catalog.watched).outcome
          (runAll catalog.watched clocks start) with ⟨answer, left⟩
        obtain ⟨applied, rest, -, -, hnew⟩ := h.run hsteps hsmall hrun
        exact hnew
      complete := fun clock report left hrun =>
        h.complete hsteps hsmall (hbackend.symm ▸ hrun)
      unwatched := hbackend }

/-- Two runs of a catalog whose second step fails when it is first taken. -/
theorem exists_appliedOnce_flaky :
    (∀ m ∈ Catalog.flaky.migrations, m.up.KeepsLog) ∧ Catalog.flaky.Small ∧
      ∃ es, AppliedOnce Catalog.flaky ⟨⟨{}, false⟩, []⟩ [.stopped, .stopped] es := by
  have hsmall : Catalog.flaky.Small := by
    unfold Catalog.Small
    decide
  exact ⟨Catalog.keepsLog_flaky, hsmall,
    exists_appliedOnce Catalog.keepsLog_flaky hsmall rfl rfl rfl [.stopped, .stopped]⟩

end Runner

end RecordStore
