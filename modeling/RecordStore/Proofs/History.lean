import Mathlib.Data.List.Induction
import Mathlib.Data.List.Nodup
import RecordStore.Proofs.ApplyOnce
import RecordStore.Proofs.Reversal
/-!
# Runs and reversals

A run takes the highest version in the log for the point up to which everything is done. A
reversal may remove any entry. If it removes one below another, no run takes the step of that
version again as long as there is an entry above it, and exactly the versions that were overtaken
in this way are missing after a run that succeeds.

## Main definitions

* `Runner.Call`, `Runner.performAll`: runs and reversals, and several of them.
* `Runner.Overtaken`: a version is reverted, and there is something above it in the log.

## Main results

* `Runner.exists_revert`: a reversal on a ledger.
* `Runner.missing_iff_overtaken`: what the log holds after a run that succeeds.
-/

namespace RecordStore

variable {σ ω : Type}

/-- The steps of the migration leave the log alone. -/
structure Migration.KeepsLog (m : Migration (World Store ω)) : Prop where
  up : m.up.KeepsLog
  down : ∀ down, m.down = some down → down.KeepsLog

/-- The log holds a version above the given one. -/
def Store.HoldsAbove (s : Store) (v : Int64) : Prop :=
  ∃ d ∈ s.log, ∃ e, LogEntry.ofDocument d = .ok e ∧ v < e.version

theorem Store.Ledger.holdsAbove_iff {s : Store} {es : List LogEntry} (h : s.Ledger es)
    {v : Int64} : s.HoldsAbove v ↔ ∃ e ∈ es, v < e.version := by
  have hread : ∀ e ∈ es, LogEntry.ofDocument e.toDocument = .ok e :=
    fun e he => LogEntry.decode_toDocument (h.proper e he).regular
  rw [Store.HoldsAbove, h.log]
  constructor
  · rintro ⟨d, hd, f, hf, hv⟩
    obtain ⟨e, he, rfl⟩ := List.mem_map.1 hd
    obtain rfl := Except.ok.inj ((hread e he).symm.trans hf)
    exact ⟨e, he, hv⟩
  · rintro ⟨e, he, hv⟩
    exact ⟨_, List.mem_map_of_mem he, e, hread e he, hv⟩

/-- The first document of a version in a ledger is that of its entry. -/
theorem Store.Ledger.exists_of_firstEntry {s : Store} {es : List LogEntry} {v : Int64}
    {p : Filter.Place} (h : s.Ledger es) (hp : s.FirstEntry v p) :
    ∃ before e after, es = before ++ e :: after ∧ e.version = v ∧
      p.before ++ p.after = (before ++ after).map LogEntry.toDocument := by
  obtain ⟨before, rest, rfl, hbefore, hrest⟩ :=
    List.map_eq_append_iff.1 (h.log.symm.trans hp.log)
  obtain ⟨e, after, rfl, hdocument, hafter⟩ := List.map_eq_cons_iff.1 hrest
  have hproper := h.proper e (by simp)
  have hget : e.toDocument.get? (Record.idField LogEntry) = some (.string e.id) := rfl
  have hnames := hp.names
  rw [← hdocument, Document.Names, hget, Option.some_inj, Value.string.injEq, hproper.id] at hnames
  refine ⟨before, e, after, rfl, Migration.versionText_inj hnames, ?_⟩
  rw [← hbefore, ← hafter, List.map_append]

namespace Runner

open RecordStore.Action

/-! ### A reversal on a ledger -/

section Revert

variable {catalog : Catalog (World Store ω)} {es : List LogEntry} {w left : World Store ω}
  {answer : Except StorageError Unit}

/-- A reversal removes the entry of the version if it succeeds, and none if it fails. -/
theorem exists_revert (hkeeps : ∀ m ∈ catalog.migrations, m.KeepsLog) {version : Int64}
    (hw : w.backend.Ledger es) (hrun : (revert catalog version).outcome w = (answer, left)) :
    (answer = .ok () ∧ ∃ before e after, es = before ++ e :: after ∧ e.version = version ∧
      left.backend.Ledger (before ++ after)) ∨
    ((∃ e, answer = .error e) ∧ left.backend.Ledger es) := by
  by_cases hready : ∃ down p, Ready catalog version w.backend down p
  · obtain ⟨down, p, h⟩ := hready
    obtain ⟨m, hget, hdown⟩ := h.step
    obtain ⟨hm, rfl⟩ := Catalog.get?_eq_some_iff.1 hget
    have hstep := (hkeeps m hm).down down hdown
    have hlog := (hstep w).1
    rw [h.outcome_revert hstep] at hrun
    rcases houtcome : down.outcome w with ⟨result, t⟩
    rw [houtcome] at hrun hlog
    have ht : t.backend.Ledger es := hw.congr hlog
    cases result with
    | error f =>
      cases hrun
      exact .inr ⟨⟨f, rfl⟩, ht⟩
    | ok _ =>
      cases hrun
      obtain ⟨before, e, after, rfl, hversion, hremove⟩ :=
        ht.exists_of_firstEntry (h.entry.congr hlog)
      refine .inl ⟨rfl, before, e, after, rfl, hversion, ?_⟩
      rw [hremove]
      exact ht.remove
  · obtain ⟨f, hrefused⟩ := exists_refusal hready
    rw [hrefused] at hrun
    cases hrun
    exact .inr ⟨⟨f, rfl⟩, hw⟩

end Revert

/-! ### Histories -/

/-- A call to the runner. -/
inductive Call where
  /-- All that is pending is applied. -/
  | run (clock : Clock)
  /-- A version is reverted. -/
  | revert (version : Int64)

/-- The action of a call. -/
def Call.perform [Backend σ] (catalog : Catalog σ) : Call → Action σ Unit
  | .run clock => do
    let _ ← Runner.run clock.finishedAt catalog
  | .revert version => Runner.revert catalog version

/-- The state that calls leave, one after the other. -/
def performAll [Backend σ] (catalog : Catalog σ) (calls : List Call) (s : σ) : σ :=
  calls.foldl (fun s call => ((call.perform catalog).outcome s).2) s

theorem performAll_append_singleton [Backend σ] (catalog : Catalog σ) (calls : List Call)
    (call : Call) (s : σ) :
    performAll catalog (calls ++ [call]) s =
      ((call.perform catalog).outcome (performAll catalog calls s)).2 := by
  rw [performAll, List.foldl_append]
  rfl

variable {catalog : Catalog (World Store ω)} {start : World Store ω} {calls : List Call}

/-- A version was reverted, and since then there has been something above it in the log after
every call. -/
def Overtaken (catalog : Catalog (World Store ω)) (start : World Store ω) (calls : List Call)
    (v : Int64) : Prop :=
  ∃ before after, calls = before ++ .revert v :: after ∧
    ((revert catalog v).outcome (performAll catalog before start)).1 = .ok () ∧
    ∀ since, since <+: after →
      (performAll catalog (before ++ .revert v :: since) start).backend.HoldsAbove v

theorem not_overtaken_nil {v : Int64} : ¬ Overtaken catalog start [] v := by
  rintro ⟨before, after, hsplit, -⟩
  simp at hsplit

theorem overtaken_append_singleton {call : Call} {v : Int64} :
    Overtaken catalog start (calls ++ [call]) v ↔
      (performAll catalog (calls ++ [call]) start).backend.HoldsAbove v ∧
        (Overtaken catalog start calls v ∨ call = .revert v ∧
          ((revert catalog v).outcome (performAll catalog calls start)).1 = .ok ()) := by
  constructor
  · rintro ⟨before, after, hsplit, hok, habove⟩
    refine ⟨hsplit ▸ habove after (List.prefix_refl after), ?_⟩
    obtain rfl | ⟨since, last, rfl⟩ := after.eq_nil_or_concat'
    · obtain ⟨rfl, hcall⟩ := List.append_inj' hsplit rfl
      cases hcall
      exact .inr ⟨rfl, hok⟩
    · have hcalls : calls ++ [call] = (before ++ .revert v :: since) ++ [last] := by
        rw [hsplit, List.append_assoc, List.cons_append]
      obtain ⟨rfl, -⟩ := List.append_inj' hcalls rfl
      exact .inl ⟨before, since, rfl, hok,
        fun other hother => habove other (hother.trans (List.prefix_append since [last]))⟩
  · rintro ⟨habove, ⟨before, after, rfl, hok, hsince⟩ | ⟨rfl, hok⟩⟩
    · refine ⟨before, after ++ [call], by simp, hok, fun other hother => ?_⟩
      obtain rfl | hother := List.prefix_concat_iff.1 hother
      · rwa [List.append_assoc, List.cons_append] at habove
      · exact hsince other hother
    · refine ⟨calls, [], rfl, hok, fun other hother => ?_⟩
      obtain rfl := List.prefix_nil.1 hother
      exact habove

/-- The log of a world is a ledger of versions of a catalog, and the versions that are missing
below the highest are those that were overtaken. -/
structure Gaps (catalog : Catalog (World Store ω)) (start : World Store ω) (calls : List Call)
    (es : List LogEntry) : Prop where
  ledger : (performAll catalog calls start).backend.Ledger es
  subset : ∀ e ∈ es, e.version ∈ catalog.migrations.map Migration.version
  overtaken_iff : ∀ v ∈ catalog.migrations.map Migration.version,
    Overtaken catalog start calls v ↔
      v ∉ es.map LogEntry.version ∧ ∃ e ∈ es, v < e.version

/-- A version that is missing in a ledger is below another one, or it is pending. -/
theorem exists_above_or_pending {es : List LogEntry} {n : Migration (World Store ω)}
    (hn : n ∈ catalog.migrations) (hnot : n.version ∉ es.map LogEntry.version) :
    (∃ e ∈ es, n.version < e.version) ∨ n ∈ catalog.pendingAfter (LogEntry.highest es) := by
  obtain hle | hlt := Int64.le_or_lt n.version (LogEntry.highest es)
  · have hpositive : 0 < LogEntry.highest es := Int64.lt_of_lt_of_le (catalog.positive n hn) hle
    obtain ⟨e, he, hhighest⟩ := LogEntry.exists_of_highest_ne (Int64.ne_of_lt hpositive).symm
    have hne : n.version ≠ e.version := fun heq => hnot (heq ▸ List.mem_map_of_mem he)
    exact .inl ⟨e, he, Int64.lt_of_le_of_ne (hhighest ▸ hle) hne⟩
  · exact .inr (List.mem_filter.2 ⟨hn, decide_eq_true hlt⟩)

/-- A run adds no version below the highest. -/
theorem gap_append_iff {es : List LogEntry} {clock : Clock}
    {applied rest : List (Migration (World Store ω))}
    (hascending : es.Pairwise fun e f => e.version < f.version)
    (hpending : catalog.pendingAfter (LogEntry.highest es) = applied ++ rest) {v : Int64}
    (hv : v ∈ catalog.migrations.map Migration.version)
    (habove : ∃ e ∈ es ++ applied.map (Migration.entry clock.finishedAt), v < e.version) :
    (v ∉ es.map LogEntry.version ∧ ∃ e ∈ es, v < e.version) ↔
      v ∉ (es ++ applied.map (Migration.entry clock.finishedAt)).map LogEntry.version := by
  have hversions : (es ++ applied.map (Migration.entry clock.finishedAt)).map LogEntry.version =
      es.map LogEntry.version ++ applied.map Migration.version := by
    rw [List.map_append, List.map_map]
    rfl
  have hfresh : ∀ m ∈ applied, LogEntry.highest es < m.version := by
    intro m hm
    have hmem : m ∈ catalog.pendingAfter (LogEntry.highest es) :=
      hpending ▸ List.mem_append_left rest hm
    simpa using (List.mem_filter.1 hmem).2
  rw [hversions, List.mem_append, not_or]
  refine and_congr_right fun hnot => ⟨?_, fun hnew => ?_⟩
  · rintro ⟨e, he, hve⟩ hmem
    obtain ⟨m, hm, rfl⟩ := List.mem_map.1 hmem
    have hbelow : e.version < m.version :=
      Int64.lt_of_le_of_lt (LogEntry.le_highest hascending he) (hfresh m hm)
    exact Int64.lt_asymm hve hbelow
  obtain ⟨x, hx, hvx⟩ := habove
  obtain hx | hx := List.mem_append.1 hx
  · exact ⟨x, hx, hvx⟩
  obtain ⟨m, hm, rfl⟩ := List.mem_map.1 hx
  obtain ⟨n, hn, rfl⟩ := List.mem_map.1 hv
  -- what is pending below an applied migration is applied, so the version is not pending
  refine (exists_above_or_pending hn hnot).resolve_right fun hmem => ?_
  rw [hpending] at hmem
  have hsorted : (applied ++ rest).Pairwise fun a b => a.version < b.version :=
    hpending ▸ catalog.ascending.filter _
  obtain hn | hn := List.mem_append.1 hmem
  · exact hnew (List.mem_map_of_mem hn)
  · exact Int64.lt_asymm hvx ((List.pairwise_append.1 hsorted).2.2 m hm n hn)

namespace Gaps

variable {es : List LogEntry}

theorem run (h : Gaps catalog start calls es) (hkeeps : ∀ m ∈ catalog.migrations, m.KeepsLog)
    (hsmall : catalog.Small) {clock : Clock} {answer : Except StorageError Report}
    {left : World Store ω}
    (hrun : (Runner.run clock.finishedAt catalog).outcome (performAll catalog calls start) =
      (answer, left)) :
    performAll catalog (calls ++ [.run clock]) start = left ∧
    ∃ applied rest, catalog.pendingAfter (LogEntry.highest es) = applied ++ rest ∧
      Gaps catalog start (calls ++ [.run clock])
        (es ++ applied.map (Migration.entry clock.finishedAt)) ∧
      (∀ report, answer = .ok report → rest = []) := by
  have hleft : performAll catalog (calls ++ [.run clock]) start = left := by
    rw [performAll_append_singleton, Call.perform, outcome_bind, hrun]
    cases answer <;> rfl
  have hsteps : ∀ m ∈ catalog.migrations, m.up.KeepsLog := fun m hm => (hkeeps m hm).up
  obtain ⟨applied, rest, hpending, hledger, -, hall⟩ := exists_run hsteps hsmall h.ledger hrun
  refine ⟨hleft, applied, rest, hpending, ?_, hall⟩
  exact
    { ledger := hleft ▸ hledger
      subset := by
        intro e he
        obtain he | he := List.mem_append.1 he
        · exact h.subset e he
        · obtain ⟨m, hm, rfl⟩ := List.mem_map.1 he
          have hmem : m ∈ catalog.pendingAfter (LogEntry.highest es) :=
            hpending ▸ List.mem_append_left rest hm
          exact List.mem_map_of_mem (List.mem_of_mem_filter hmem)
      overtaken_iff := by
        intro v hv
        have hcall : ¬ Call.run clock = .revert v := by simp
        rw [overtaken_append_singleton, hleft, hledger.holdsAbove_iff, h.overtaken_iff v hv,
          and_comm]
        simp only [hcall, false_and, or_false]
        exact and_congr_left fun habove => gap_append_iff h.ledger.ascending hpending hv habove }

theorem revert (h : Gaps catalog start calls es) (hkeeps : ∀ m ∈ catalog.migrations, m.KeepsLog)
    (version : Int64) :
    ∃ es, Gaps catalog start (calls ++ [.revert version]) es := by
  rcases hrun : (Runner.revert catalog version).outcome (performAll catalog calls start) with
    ⟨answer, left⟩
  have hleft : performAll catalog (calls ++ [.revert version]) start = left := by
    rw [performAll_append_singleton, Call.perform, hrun]
  obtain ⟨rfl, before, e, after, rfl, rfl, hledger⟩ | ⟨⟨f, rfl⟩, hledger⟩ :=
    exists_revert hkeeps h.ledger hrun
  · have hnodup := h.ledger.nodup_versions
    rw [List.map_append, List.map_cons, List.nodup_middle, List.nodup_cons, ← List.map_append]
      at hnodup
    have hmem : ∀ f ∈ before ++ after, f ∈ before ++ e :: after :=
      ((List.sublist_cons_self e after).append_left before).subset
    refine ⟨before ++ after, hleft ▸ hledger, fun f hf => h.subset f (hmem f hf), fun v hv => ?_⟩
    rw [overtaken_append_singleton, hleft, hledger.holdsAbove_iff, h.overtaken_iff v hv, and_comm]
    refine and_congr_left ?_
    rintro ⟨f, hf, habove⟩
    by_cases hsame : v = e.version
    · subst hsame
      exact iff_of_true (.inr ⟨rfl, by rw [hrun]⟩) hnodup.1
    · have hother : ¬ Call.revert e.version = .revert v := fun hcall =>
        hsame (Call.revert.inj hcall).symm
      have hversions : v ∈ (before ++ e :: after).map LogEntry.version ↔
          v ∈ (before ++ after).map LogEntry.version := by
        simp [hsame]
      simp only [hother, false_and, or_false, hversions]
      exact and_iff_left ⟨f, hmem f hf, habove⟩
  · refine ⟨es, hleft ▸ hledger, h.subset, fun v hv => ?_⟩
    have hfailed : ¬ (Call.revert version = .revert v ∧
        ((Runner.revert catalog v).outcome (performAll catalog calls start)).1 = .ok ()) := by
      rintro ⟨hcall, hok⟩
      cases hcall
      rw [hrun] at hok
      cases hok
    rw [overtaken_append_singleton, hleft, hledger.holdsAbove_iff, h.overtaken_iff v hv,
      or_iff_left hfailed, and_comm]
    exact and_congr_left fun habove => and_iff_left habove

/-- After a run that succeeds every version that is missing is below another one. -/
theorem exists_of_run_ok (h : Gaps catalog start calls es)
    (hkeeps : ∀ m ∈ catalog.migrations, m.KeepsLog) (hsmall : catalog.Small) {clock : Clock}
    {report : Report} {left : World Store ω}
    (hrun : (Runner.run clock.finishedAt catalog).outcome (performAll catalog calls start) =
      (.ok report, left)) :
    performAll catalog (calls ++ [.run clock]) start = left ∧
    ∃ all, Gaps catalog start (calls ++ [.run clock]) all ∧
      ∀ v ∈ catalog.migrations.map Migration.version, v ∉ all.map LogEntry.version →
        ∃ e ∈ all, v < e.version := by
  obtain ⟨hleft, applied, rest, hpending, hnext, hall⟩ := h.run hkeeps hsmall hrun
  rw [hall report rfl, List.append_nil] at hpending
  refine ⟨hleft, _, hnext, fun v hv hnot => ?_⟩
  obtain ⟨n, hn, rfl⟩ := List.mem_map.1 hv
  rw [List.map_append, List.mem_append, not_or] at hnot
  obtain ⟨e, he, habove⟩ | hmem := exists_above_or_pending hn hnot.1
  · exact ⟨e, List.mem_append_left _ he, habove⟩
  · -- what was pending is applied
    have hentry : n.entry clock.finishedAt ∈ applied.map (Migration.entry clock.finishedAt) :=
      List.mem_map_of_mem (hpending ▸ hmem)
    exact absurd (List.mem_map_of_mem hentry) hnot.2

theorem exists_of_calls (hkeeps : ∀ m ∈ catalog.migrations, m.KeepsLog) (hsmall : catalog.Small)
    (hlog : start.backend.log = []) (calls : List Call) : ∃ es, Gaps catalog start calls es := by
  induction calls using List.reverseRecOn with
  | nil =>
    refine ⟨[], .of_empty hlog, by simp, fun v hv => ?_⟩
    exact iff_of_false not_overtaken_nil (by simp)
  | append_singleton calls call ih =>
    obtain ⟨es, h⟩ := ih
    cases call with
    | run clock =>
      rcases hrun : (Runner.run clock.finishedAt catalog).outcome
        (performAll catalog calls start) with ⟨answer, left⟩
      obtain ⟨-, applied, rest, -, hnext, -⟩ := h.run hkeeps hsmall hrun
      exact ⟨_, hnext⟩
    | revert version => exact h.revert hkeeps version

end Gaps

/-- **What is missing after a run that succeeds.** Runs and reversals with one catalog, on a log
without entries at first, leave versions of the catalog in the log, each once and in ascending
order. When the last run succeeds, exactly those are missing that were reverted with something
above them in the log ever since. Nothing is missing if only the highest version in the log was
reverted each time. -/
theorem missing_iff_overtaken (hkeeps : ∀ m ∈ catalog.migrations, m.KeepsLog)
    (hsmall : catalog.Small) (hlog : start.backend.log = []) (calls : List Call) {clock : Clock}
    {report : Report} {left : World Store ω}
    (hrun : (run clock.finishedAt catalog).outcome (performAll catalog calls start) =
      (.ok report, left)) :
    ∃ es, left.backend.Logs es ∧ (es.map LogEntry.version).Pairwise (· < ·) ∧
      (∀ e ∈ es, e.version ∈ catalog.migrations.map Migration.version) ∧
      (∀ v ∈ catalog.migrations.map Migration.version, v ∉ es.map LogEntry.version ↔
        Overtaken catalog start (calls ++ [.run clock]) v) ∧
      ((∀ before v after, calls = before ++ .revert v :: after →
          ((revert catalog v).outcome (performAll catalog before start)).1 = .ok () →
          ¬ (performAll catalog (before ++ [.revert v]) start).backend.HoldsAbove v) →
        es.map LogEntry.version = catalog.migrations.map Migration.version) := by
  obtain ⟨es, h⟩ := Gaps.exists_of_calls hkeeps hsmall hlog calls
  obtain ⟨hleft, all, hnext, hbelow⟩ := h.exists_of_run_ok hkeeps hsmall hrun
  have hmissing : ∀ v ∈ catalog.migrations.map Migration.version,
      v ∉ all.map LogEntry.version ↔ Overtaken catalog start (calls ++ [.run clock]) v := by
    intro v hv
    rw [hnext.overtaken_iff v hv]
    exact ⟨fun hnot => ⟨hnot, hbelow v hv hnot⟩, And.left⟩
  refine ⟨all, hleft ▸ hnext.ledger.logs, hnext.ledger.versions_ascending, hnext.subset, hmissing,
    fun htop => ?_⟩
  have hascending : (catalog.migrations.map Migration.version).Pairwise (· < ·) :=
    List.pairwise_map.2 catalog.ascending
  refine eq_of_ascending id hnext.ledger.versions_ascending hascending fun v =>
    ⟨fun hv => ?_, fun hv => ?_⟩
  · obtain ⟨e, he, rfl⟩ := List.mem_map.1 hv
    exact hnext.subset e he
  · by_contra hnot
    obtain ⟨-, hovertaken⟩ := overtaken_append_singleton.1 ((hmissing v hv).1 hnot)
    obtain ⟨before, after, hsplit, hok, hsince⟩ | ⟨hcall, -⟩ := hovertaken
    · exact htop before v after hsplit hok (hsince [] List.nil_prefix)
    · cases hcall

end Runner

/-- Two migrations that do nothing and can be reverted. -/
def Catalog.reversible : Catalog (World Store Unit) where
  migrations :=
    [{ version := 1, description := "a", up := pure (), down := some (pure ()) },
      { version := 2, description := "b", up := pure (), down := some (pure ()) }]
  ascending := by decide
  positive := by decide

namespace Catalog

theorem keepsLog_reversible : ∀ m ∈ reversible.migrations, m.KeepsLog := by
  have hpure : (pure () : Action (World Store Unit) Unit).KeepsLog := fun w => ⟨rfl, rfl⟩
  simp only [reversible, List.forall_mem_cons]
  refine ⟨⟨hpure, ?_⟩, ⟨hpure, ?_⟩, List.forall_mem_nil _⟩ <;>
  · rintro down ⟨⟩
    exact hpure

theorem small_reversible : reversible.Small := by
  unfold Small
  decide

end Catalog

namespace Runner

/-- The higher of two versions is reverted, and the next run applies it again. -/
theorem missing_iff_overtaken_reversible :
    (∀ m ∈ Catalog.reversible.migrations, m.KeepsLog) ∧ Catalog.reversible.Small ∧
      ∃ left es, (run Clock.stopped.finishedAt Catalog.reversible).outcome
          (performAll Catalog.reversible [.run .stopped, .revert 2] ⟨{}, ()⟩) =
            (.ok ⟨1, [2]⟩, left) ∧
        left.backend.Logs es ∧
        ∀ v ∈ [1, 2], v ∉ es.map LogEntry.version ↔
          Overtaken Catalog.reversible ⟨{}, ()⟩
            [.run .stopped, .revert 2, .run .stopped] v := by
  have hanswer : ((run Clock.stopped.finishedAt Catalog.reversible).outcome
      (performAll Catalog.reversible [.run .stopped, .revert 2] ⟨{}, ()⟩)).1 = .ok ⟨1, [2]⟩ := by
    decide +kernel
  rcases hrun : (run Clock.stopped.finishedAt Catalog.reversible).outcome
    (performAll Catalog.reversible [.run .stopped, .revert 2] ⟨{}, ()⟩) with ⟨answer, left⟩
  rw [hrun] at hanswer
  cases hanswer
  obtain ⟨es, hlogs, -, -, hmissing, -⟩ := missing_iff_overtaken Catalog.keepsLog_reversible
    Catalog.small_reversible rfl [.run .stopped, .revert 2] hrun
  exact ⟨Catalog.keepsLog_reversible, Catalog.small_reversible, left, es, rfl, hlogs, hmissing⟩

/-- The lower of two versions is reverted, and the next run succeeds without it. -/
theorem missing_of_reverted_below :
    (∀ m ∈ Catalog.reversible.migrations, m.KeepsLog) ∧ Catalog.reversible.Small ∧
      ∃ left es, (run Clock.stopped.finishedAt Catalog.reversible).outcome
          (performAll Catalog.reversible [.run .stopped, .revert 1] ⟨{}, ()⟩) =
            (.ok ⟨2, []⟩, left) ∧
        left.backend.Logs es ∧
        (1 : Int64) ∈ Catalog.reversible.migrations.map Migration.version ∧
        1 ∉ es.map LogEntry.version := by
  have hanswer : ((run Clock.stopped.finishedAt Catalog.reversible).outcome
      (performAll Catalog.reversible [.run .stopped, .revert 1] ⟨{}, ()⟩)).1 = .ok ⟨2, []⟩ := by
    decide +kernel
  have hlogs : ((run Clock.stopped.finishedAt Catalog.reversible).outcome
      (performAll Catalog.reversible [.run .stopped, .revert 1] ⟨{}, ()⟩)).2.backend.Logs
        [⟨"2", 2, "b", .epoch⟩] := by
    unfold Store.Logs
    decide +kernel
  exact ⟨Catalog.keepsLog_reversible, Catalog.small_reversible, _, _, Prod.ext hanswer rfl, hlogs,
    by decide, by decide⟩

end Runner

end RecordStore
