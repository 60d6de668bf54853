import RecordStore.Proofs.Catalog
import RecordStore.Proofs.LogRequest
import RecordStore.Proofs.ReadBack
import RecordStore.Proofs.Uniqueness
/-!
# Ledgers

The log as the runner itself keeps it: the entries stand in the order of their versions, and each
has the decimal text of its version for an identity. Up to `2 ^ 53` versions are told apart by
sorting, so the current version is that of the last entry.

## Main definitions

* `LogEntry.Proper`: entries as the runner writes them.
* `Store.Ledger`: the log of a store is a ledger with the given entries.
* `LogEntry.highest`: the version of the last entry.

## Main results

* `Store.Ledger.answer_currentVersion`: the current version of a ledger.
* `Store.Ledger.checkNew_eq_ok`, `Store.Ledger.remove`: an entry of another version is accepted,
  and any entry can be taken out.
-/

namespace RecordStore

namespace LogEntry

/-- An entry as the runner writes it, of a version with a double of its own. -/
structure Proper (e : LogEntry) : Prop where
  /-- The identity is the text of the version. -/
  id : e.id = Migration.versionText e.version
  /-- The version is positive. -/
  positive : 0 < e.version
  /-- The version does not lie above those that doubles hold exactly. -/
  small : e.version.toInt ≤ 2 ^ 53
  /-- A clock can show the time. -/
  regular : e.timestamp.Regular

/-- The version of the last entry, 0 for none. -/
def highest (es : List LogEntry) : Int64 :=
  (es.getLast?.map version).getD 0

theorem highest_append (es fs : List LogEntry) :
    highest (es ++ fs) = (fs.getLast?.map version).getD (highest es) := by
  rw [highest, List.getLast?_append]
  cases fs.getLast? <;> rfl

theorem highest_append_singleton (es : List LogEntry) (e : LogEntry) :
    highest (es ++ [e]) = e.version :=
  highest_append es [e]

theorem exists_of_highest_ne {es : List LogEntry} (h : highest es ≠ 0) :
    ∃ e ∈ es, e.version = highest es := by
  obtain rfl | ⟨before, e, rfl⟩ := es.eq_nil_or_concat'
  · exact absurd rfl h
  · exact ⟨e, by simp, (highest_append_singleton before e).symm⟩

theorem le_highest {es : List LogEntry} (h : es.Pairwise fun e f => e.version < f.version)
    {e : LogEntry} (he : e ∈ es) : e.version ≤ highest es := by
  obtain rfl | ⟨before, last, rfl⟩ := es.eq_nil_or_concat'
  · cases he
  · rw [highest_append_singleton]
    exact le_of_ascending version h e he

end LogEntry

/-! ### Ledgers -/

/-- The log of a store is a ledger with the given entries. -/
structure Store.Ledger (s : Store) (es : List LogEntry) : Prop where
  /-- The log holds the documents of the entries. -/
  log : s.log = es.map LogEntry.toDocument
  /-- The entries are as the runner writes them. -/
  proper : ∀ e ∈ es, e.Proper
  /-- The versions ascend. -/
  ascending : es.Pairwise fun e f => e.version < f.version

namespace Store.Ledger

variable {s : Store} {es : List LogEntry}

theorem of_empty (hlog : s.log = []) : s.Ledger [] where
  log := hlog
  proper := by simp
  ascending := .nil

theorem congr (h : s.Ledger es) {t : Store} (hlog : t.log = s.log) : t.Ledger es :=
  { h with log := hlog.trans h.log }

theorem logs (h : s.Ledger es) : s.Logs es := by
  rw [Store.Logs, h.log, List.map_map]
  exact List.map_congr_left fun e he => LogEntry.decode_toDocument (h.proper e he).regular

theorem versions_ascending (h : s.Ledger es) : (es.map LogEntry.version).Pairwise (· < ·) :=
  List.pairwise_map.2 h.ascending

theorem nodup_versions (h : s.Ledger es) : (es.map LogEntry.version).Nodup :=
  h.versions_ascending.imp Int64.ne_of_lt

/-- The current version is that of the last entry. -/
theorem answer_currentVersion (h : s.Ledger es) :
    ((Runner.currentVersion : Action Store Int64).outcome s).1 = .ok (LogEntry.highest es) := by
  have hpositive : ∀ e ∈ es, 0 < e.version := fun e he => (h.proper e he).positive
  rw [Runner.answer_currentVersion h.logs hpositive]
  obtain rfl | ⟨before, last, rfl⟩ := es.eq_nil_or_concat'
  · rfl
  have hlast : last ∈ before ++ [last] := by simp
  have hmax : ∀ e ∈ before ++ [last], e.version ≤ last.version := by
    intro e he
    rw [← LogEntry.highest_append_singleton before last]
    exact LogEntry.le_highest h.ascending he
  rw [Runner.find?_unbeaten hpositive hlast hmax, LogEntry.highest_append_singleton]
  -- whichever entry is found first has the version of the last
  cases hfind : (before ++ [last]).find? (·.agrees last) with
  | none =>
    have hself := List.find?_eq_none.1 hfind last hlast
    rw [LogEntry.agrees_iff (hpositive last hlast) (hpositive last hlast)] at hself
    exact absurd rfl hself
  | some first =>
    have hfirst := List.mem_of_find?_eq_some hfind
    have hagrees : first.agrees last = true := by simpa using List.find?_some hfind
    exact congrArg Except.ok (Runner.version_eq_of_agrees (hpositive first hfirst)
      (hmax first hfirst) (h.proper last hlast).small hagrees)

/-- An entry of another version is accepted where entries are told apart by their identities. -/
theorem checkNew_eq_ok (h : s.Ledger es) (hfield : s.idField = Record.idField LogEntry)
    {e : LogEntry} (he : e.Proper)
    (hnew : ∀ f ∈ es, f.version ≠ e.version) :
    (Collection.ofLog s.idField s.log).checkNew e.toDocument = .ok () := by
  rw [Collection.checkNew_eq_ok_iff, Collection.ofLog, Collection.Apart, hfield, h.log,
    List.forall_mem_map]
  intro f hf hagree
  have hget : e.toDocument.get? (Record.idField LogEntry) = some (.string e.id) := rfl
  have hgetf : f.toDocument.get? (Record.idField LogEntry) = some (.string f.id) := rfl
  rw [Document.agree_iff_has hget, Document.has, hgetf, he.id, (h.proper f hf).id] at hagree
  simp only [Value.same, beq_iff_eq] at hagree
  exact hnew f hf (Migration.versionText_inj hagree)

theorem remove {before after : List LogEntry} {e : LogEntry} (h : s.Ledger (before ++ e :: after)) :
    (s.withLog ((before ++ after).map LogEntry.toDocument)).Ledger (before ++ after) := by
  have hsublist : (before ++ after).Sublist (before ++ e :: after) :=
    (List.sublist_cons_self e after).append_left before
  exact
    { log := Store.log_withLog s _
      proper := fun f hf => h.proper f (hsublist.subset hf)
      ascending := h.ascending.sublist hsublist }

end Store.Ledger

end RecordStore
