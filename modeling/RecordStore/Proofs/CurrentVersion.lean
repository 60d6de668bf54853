import Mathlib.Data.List.Find
import RecordStore.Migration.Runner
import RecordStore.Proofs.Collection
import RecordStore.Proofs.LogEntry
import RecordStore.Proofs.Rounding
import RecordStore.Proofs.Sorting
import RecordStore.Store
/-!
# The current version

The current version is read from the log by sorting it with the greatest version first. Sorting
compares versions as doubles, so versions above `2 ^ 53` may count as equal, and then the entry
that was stored first wins. The answer is the version of the first entry whose double is the
greatest. It is the greatest version if and only if no entry before that version has the same
double, as is the case if no version is above `2 ^ 53`.

## Main definitions

* `Store.Logs`: the entries that the log of a store holds.
* `LogEntry.agrees`: entries whose versions have the same double.

## Main results

* `Runner.answer_currentVersion`: the answer for every log.
* `Runner.currentVersion_eq_greatest_iff`: when it is the greatest version.
-/

namespace RecordStore

/-- The entry in a document. -/
abbrev LogEntry.ofDocument (d : Document) : Except StorageError LogEntry :=
  Record.decode d

/-- The documents of the log. -/
abbrev Store.log (s : Store) : List Document :=
  (s.contents (Record.collection LogEntry)).documents

/-- The documents of the log are read as the given entries, in order. -/
def Store.Logs (s : Store) (es : List LogEntry) : Prop :=
  s.log.map LogEntry.ofDocument = es.map .ok

namespace Store.Logs

variable {s : Store} {es : List LogEntry}

theorem exists_of_mem (h : s.Logs es) {d : Document} (hd : d ∈ s.log) :
    ∃ e ∈ es, LogEntry.ofDocument d = .ok e := by
  have hmem := List.mem_map_of_mem (f := LogEntry.ofDocument) hd
  rw [h] at hmem
  obtain ⟨e, he, hde⟩ := List.mem_map.1 hmem
  exact ⟨e, he, hde.symm⟩

/-- A test of what all documents are read as is a test of all entries. -/
theorem all_eq (h : s.Logs es) (p : Except StorageError LogEntry → Bool) :
    (s.log.all fun d => p (LogEntry.ofDocument d)) = es.all fun e => p (.ok e) := by
  have hmap := congrArg (List.all · p) h
  simpa only [List.all_map, Function.comp_def] using hmap

/-- A search for what a document is read as is a search among the entries. -/
theorem find?_map_eq (h : s.Logs es) (p : Except StorageError LogEntry → Bool) :
    (s.log.find? fun d => p (LogEntry.ofDocument d)).map LogEntry.ofDocument =
      (es.find? fun e => p (.ok e)).map .ok := by
  have hmap := congrArg (List.find? p) h
  simpa only [List.find?_map, Function.comp_def] using hmap

end Store.Logs

namespace LogEntry

/-- The versions of two entries have the same double. -/
def agrees (e f : LogEntry) : Bool :=
  (Double.ofInt e.version.toInt).same (Double.ofInt f.version.toInt)

/-- The version as a natural number; versions are positive. -/
def number (e : LogEntry) : Nat :=
  e.version.toInt.toNat

/-- No entry of the log has a greater double than the given one. -/
def unbeaten (es : List LogEntry) (e : LogEntry) : Bool :=
  es.all fun f => decide (nearest f.number ≤ nearest e.number)

variable {e f : LogEntry}

theorem natCast_number (h : 0 < e.version) : (e.number : Int) = e.version.toInt := by
  rw [Int64.lt_iff_toInt_lt] at h
  exact Int.toNat_of_nonneg (Int.le_of_lt h)

theorem number_lt (e : LogEntry) : e.number < 2 ^ 64 := by
  have := e.version.toInt_lt
  unfold number
  omega

theorem agrees_iff (he : 0 < e.version) (hf : 0 < f.version) :
    e.agrees f = true ↔ nearest e.number = nearest f.number := by
  rw [agrees, ← natCast_number he, ← natCast_number hf,
    Double.same_ofInt_iff e.number_lt f.number_lt]

theorem nearest_number_mono (he : 0 < e.version) (hf : 0 < f.version)
    (h : e.version ≤ f.version) : nearest e.number ≤ nearest f.number := by
  rw [Int64.le_iff_toInt_le, ← natCast_number he, ← natCast_number hf] at h
  exact nearest_mono (by omega)

end LogEntry

/-- The entry of a version without description, finished when the count of time starts. -/
def LogEntry.ofVersion (version : Int64) : LogEntry :=
  ⟨Migration.versionText version, version, "", .epoch⟩

/-- The store whose log holds entries of the given versions. -/
def Store.ofVersions (versions : List Int64) : Store :=
  ({} : Store).put (Record.collection LogEntry)
    { documents := versions.map fun v => (LogEntry.ofVersion v).toDocument }

namespace Runner

/-! ### The order of the log -/

/-- The number by which the log is sorted, for what a document is read as. -/
def rank : Except StorageError LogEntry → Int
  | .ok e => nearest e.number
  | .error _ => 0

/-- The test that sorts the log with the greatest version first. -/
def newer (a b : Document) : Bool :=
  SortKey.compareAll [⟨"version", true⟩] a b == .lt

theorem newer_eq {a b : Document} {e f : LogEntry} (ha : LogEntry.ofDocument a = .ok e)
    (hb : LogEntry.ofDocument b = .ok f) (he : 0 < e.version) (hf : 0 < f.version) :
    newer a b = decide (nearest f.number < nearest e.number) := by
  obtain ⟨v, hv, hvnumber⟩ := LogEntry.number?_of_decode ha
  obtain ⟨w, hw, hwnumber⟩ := LogEntry.number?_of_decode hb
  rw [← LogEntry.natCast_number he] at hvnumber
  rw [← LogEntry.natCast_number hf] at hwnumber
  have hgt := Double.compare?_ofInt_eq_gt_iff e.number_lt f.number_lt
  rw [Bool.eq_iff_iff, decide_eq_true_iff, ← hgt]
  simp only [newer, SortKey.compareAll, SortKey.compare, hv, hw, compareValues, hvnumber,
    hwnumber, if_true]
  cases (Double.ofInt e.number).compare? (Double.ofInt f.number) with
  | none => decide
  | some o => cases o <;> decide

/-- The log is sorted by version with the greatest first, and one document is taken. -/
theorem find_latest (c : Collection) :
    ((Collection.find [] ((byVersion .descending).withLimit 1)).outcome c).1 =
      .ok ((stableSort newer c.documents).take 1) := by
  -- the direction is a number in a document, and the order is descending if it is below zero
  have hkeys : SortKey.ofDocument [("version", .int32 (-1))] = .ok [⟨"version", true⟩] := by
    have hbelow : (Double.ofInt (-1 : Int32).toInt).belowZero = true := by decide +kernel
    simp only [SortKey.ofDocument, Value.number?, hbelow]
    rfl
  have hall : c.documents.filter (Filter.accepts []) = c.documents :=
    List.filter_eq_self.2 fun d _ => Filter.accepts_nil
  have hfault : Filter.firstFault? [] c.documents = none :=
    Filter.firstFault?_eq_none_iff.2 fun d _ => Filter.decides_nil
  have hsort : ((byVersion .descending).withLimit 1).sort = some [("version", .int32 (-1))] := rfl
  rw [Collection.outcome_find, Filter.select_eq, hfault, hall, hsort]
  simp only [sortDocuments, hkeys]
  rfl

/-- The answer is the version of the document that sorting puts first. -/
theorem answer_eq_head (s : Store) :
    ((currentVersion : Action Store Int64).outcome s).1 =
      match (stableSort newer s.log).head? with
      | none => .ok 0
      | some d => (LogEntry.ofDocument d).map LogEntry.version := by
  have hfind : ((Repository.request LogEntry
      (.find [] ((byVersion .descending).withLimit 1)) : Action Store _).outcome s).1 =
        .ok ((stableSort newer s.log).take 1) :=
    find_latest (s.collection (Record.collection LogEntry))
  simp only [currentVersion, Repository.find, Action.outcome_bind]
  generalize (Repository.request LogEntry
    (.find [] ((byVersion .descending).withLimit 1)) : Action Store _).outcome s = r at hfind ⊢
  obtain ⟨answer, t⟩ := r
  cases hfind
  cases stableSort newer s.log with
  | nil => rfl
  | cons d rest =>
    simp only [List.take_succ_cons, List.take_zero, List.head?_cons, List.mapM_cons,
      List.mapM_nil, Action.outcome_lift]
    unfold LogEntry.ofDocument
    cases (Record.decode d : Except StorageError LogEntry) <;> rfl

variable {s : Store} {es : List LogEntry}

/-- On a log the test compares ranks. -/
theorem newer_of_logs (hlog : s.Logs es) (hpositive : ∀ e ∈ es, 0 < e.version) :
    ∀ a ∈ s.log, ∀ b ∈ s.log,
      newer a b = decide (rank (LogEntry.ofDocument b) < rank (LogEntry.ofDocument a)) := by
  intro a ha b hb
  obtain ⟨e, he, hae⟩ := hlog.exists_of_mem ha
  obtain ⟨f, hf, hbf⟩ := hlog.exists_of_mem hb
  rw [newer_eq hae hbf (hpositive e he) (hpositive f hf), hae, hbf]
  simp only [rank, Int.ofNat_lt]

/-- Nothing in the log has a greater rank than an unbeaten entry. -/
theorem unbeaten_eq (es : List LogEntry) :
    (fun e => es.all fun f => !decide (rank (.ok e) < rank (.ok f))) = LogEntry.unbeaten es := by
  funext e
  refine List.all_congr rfl fun f => ?_
  rw [Bool.eq_iff_iff]
  simp only [rank, Int.ofNat_lt, Bool.not_eq_true', decide_eq_false_iff_not, Nat.not_lt,
    decide_eq_true_iff]

/-- The document that sorting puts first is read as the first entry that no entry beats. -/
theorem head?_of_logs (hlog : s.Logs es) (hpositive : ∀ e ∈ es, 0 < e.version) :
    (stableSort newer s.log).head?.map LogEntry.ofDocument =
      (es.find? (LogEntry.unbeaten es)).map .ok := by
  have hall : ∀ d, (s.log.all fun b =>
      !decide (rank (LogEntry.ofDocument d) < rank (LogEntry.ofDocument b))) =
        es.all fun f => !decide (rank (LogEntry.ofDocument d) < rank (.ok f)) :=
    fun d => hlog.all_eq fun r => !decide (rank (LogEntry.ofDocument d) < rank r)
  rw [stableSort_congr (newer_of_logs hlog hpositive),
    head?_stableSort (precedence_of_key fun d => rank (LogEntry.ofDocument d)), funext hall,
    hlog.find?_map_eq fun r => es.all fun f => !decide (rank r < rank (.ok f)), unbeaten_eq]

/-- The answer is the version of the first entry that no entry beats, and 0 for no entries. -/
theorem answer_currentVersion (hlog : s.Logs es) (hpositive : ∀ e ∈ es, 0 < e.version) :
    ((currentVersion : Action Store Int64).outcome s).1 =
      .ok (((es.find? (LogEntry.unbeaten es)).map LogEntry.version).getD 0) := by
  have hhead := head?_of_logs hlog hpositive
  rw [answer_eq_head]
  cases hfirst : es.find? (LogEntry.unbeaten es) with
  | none =>
    rw [hfirst, Option.map_none, Option.map_eq_none_iff] at hhead
    rw [hhead]
    rfl
  | some e =>
    rw [hfirst, Option.map_some, Option.map_eq_some_iff] at hhead
    obtain ⟨d, hd, hread⟩ := hhead
    rw [hd]
    simp only [hread]
    rfl

/-! ### The greatest version -/

/-- An entry is unbeaten if and only if it has the double of the greatest version. -/
theorem unbeaten_iff {e latest : LogEntry} (hpositive : ∀ e ∈ es, 0 < e.version)
    (hlatest : latest ∈ es) (hmax : ∀ e ∈ es, e.version ≤ latest.version) (he : e ∈ es) :
    LogEntry.unbeaten es e = true ↔ e.agrees latest = true := by
  have hle : ∀ f ∈ es, nearest f.number ≤ nearest latest.number := fun f hf =>
    LogEntry.nearest_number_mono (hpositive f hf) (hpositive latest hlatest) (hmax f hf)
  rw [LogEntry.unbeaten, List.all_eq_true,
    LogEntry.agrees_iff (hpositive e he) (hpositive latest hlatest)]
  simp only [decide_eq_true_iff]
  -- the greatest version is among the entries and has the greatest double
  constructor
  · intro h
    exact Nat.le_antisymm (hle e he) (h latest hlatest)
  · intro h f hf
    exact h ▸ hle f hf

/-- Versions up to `2 ^ 53` have doubles of their own. -/
theorem version_eq_of_agrees {e latest : LogEntry} (he : 0 < e.version)
    (hmax : e.version ≤ latest.version) (hsmall : latest.version.toInt ≤ 2 ^ 53)
    (h : e.agrees latest = true) : e.version = latest.version := by
  have hlatest : 0 < latest.version := Int64.lt_of_lt_of_le he hmax
  rw [LogEntry.agrees_iff he hlatest] at h
  rw [Int64.le_iff_toInt_le] at hmax
  have hnumber := LogEntry.natCast_number he
  have hnumber' := LogEntry.natCast_number hlatest
  rw [nearest_of_le (by omega), nearest_of_le (by omega)] at h
  rw [← Int64.toInt_inj]
  omega

theorem find?_unbeaten {latest : LogEntry} (hpositive : ∀ e ∈ es, 0 < e.version)
    (hlatest : latest ∈ es) (hmax : ∀ e ∈ es, e.version ≤ latest.version) :
    es.find? (LogEntry.unbeaten es) = es.find? (·.agrees latest) := by
  refine List.find?_congr fun e he => ?_
  exact Bool.eq_iff_iff.2 (unbeaten_iff hpositive hlatest hmax he)

/-- **The current version.** The log of a store holds entries of positive versions, all
different. Without entries the answer is 0. Otherwise it is the version of the first entry with
the double of the greatest version; it is the greatest version if and only if no entry before
that one has this double, and in any case if the greatest version is at most `2 ^ 53`. -/
theorem currentVersion_eq_greatest_iff (hlog : s.Logs es)
    (hpositive : ∀ e ∈ es, 0 < e.version) (hdistinct : (es.map LogEntry.version).Nodup) :
    (es = [] → ((currentVersion : Action Store Int64).outcome s).1 = .ok 0) ∧
    ∀ before latest after, es = before ++ latest :: after →
      (∀ e ∈ es, e.version ≤ latest.version) →
      (∃ first, es.find? (·.agrees latest) = some first ∧
        ((currentVersion : Action Store Int64).outcome s).1 = .ok first.version) ∧
      (((currentVersion : Action Store Int64).outcome s).1 = .ok latest.version ↔
        ∀ e ∈ before, e.agrees latest = false) ∧
      (latest.version.toInt ≤ 2 ^ 53 →
        ((currentVersion : Action Store Int64).outcome s).1 = .ok latest.version) := by
  rw [answer_currentVersion hlog hpositive]
  refine ⟨?_, ?_⟩
  · rintro rfl
    rfl
  intro before latest after hsplit hmax
  have hlatest : latest ∈ es := by simp [hsplit]
  have hself : latest.agrees latest = true :=
    (LogEntry.agrees_iff (hpositive latest hlatest) (hpositive latest hlatest)).2 rfl
  have hother : ∀ e ∈ before, e.version ≠ latest.version := by
    rw [hsplit, List.map_append, List.map_cons, List.nodup_append] at hdistinct
    exact fun e he => hdistinct.2.2 _ (List.mem_map_of_mem he) _ List.mem_cons_self
  rw [find?_unbeaten hpositive hlatest hmax]
  have hfind : es.find? (·.agrees latest) = (before.find? (·.agrees latest)).or (some latest) := by
    rw [hsplit, List.find?_append, List.find?_cons, hself]
  have hiff : (.ok (((es.find? (·.agrees latest)).map LogEntry.version).getD 0) :
      Except StorageError Int64) = .ok latest.version ↔
        ∀ e ∈ before, e.agrees latest = false := by
    rw [hfind, Except.ok.injEq]
    cases hbefore : before.find? (·.agrees latest) with
    | none =>
      refine iff_of_true rfl fun e he => ?_
      simpa using List.find?_eq_none.1 hbefore e he
    | some first =>
      -- an earlier entry with the same double hides the greatest version
      have hfirst := List.mem_of_find?_eq_some hbefore
      have hagrees := List.find?_some hbefore
      refine iff_of_false (hother first hfirst) fun h => ?_
      rw [h first hfirst] at hagrees
      cases hagrees
  refine ⟨?_, hiff, fun hsmall => hiff.2 fun e he => ?_⟩
  · rw [hfind]
    cases before.find? (·.agrees latest) <;> exact ⟨_, rfl, rfl⟩
  · have hmem : e ∈ es := by simp [hsplit, he]
    rw [← Bool.not_eq_true]
    intro hagrees
    exact hother e he (version_eq_of_agrees (hpositive e hmem) (hmax e hmem) hsmall hagrees)

/-- The highest version of a log may stand before lower ones. -/
theorem currentVersion_eq_greatest_of_small :
    (Store.ofVersions [3, 7, 5]).Logs ([3, 7, 5].map LogEntry.ofVersion) ∧
      ((currentVersion : Action Store Int64).outcome (Store.ofVersions [3, 7, 5])).1 = .ok 7 := by
  have hlog : (Store.ofVersions [3, 7, 5]).Logs ([3, 7, 5].map LogEntry.ofVersion) := rfl
  have hgreatest := (currentVersion_eq_greatest_iff hlog (by decide) (by decide)).2
    [LogEntry.ofVersion 3] (LogEntry.ofVersion 7) [LogEntry.ofVersion 5] rfl (by decide)
  exact ⟨hlog, hgreatest.2.2 (by decide)⟩

/-- Of two versions with one double the one that was stored first is taken for the highest. -/
theorem currentVersion_ne_greatest_of_rounding :
    (Store.ofVersions [9007199254740992, 9007199254740993]).Logs
        ([9007199254740992, 9007199254740993].map LogEntry.ofVersion) ∧
      (9007199254740992 : Int64) < 9007199254740993 ∧
      ((currentVersion : Action Store Int64).outcome
        (Store.ofVersions [9007199254740992, 9007199254740993])).1 = .ok 9007199254740992 := by
  have hlog : (Store.ofVersions [9007199254740992, 9007199254740993]).Logs
      ([9007199254740992, 9007199254740993].map LogEntry.ofVersion) := rfl
  refine ⟨hlog, by decide, ?_⟩
  rw [answer_currentVersion hlog (by decide)]
  decide +kernel

end Runner

end RecordStore
