import Mathlib.Order.Lattice
import RecordStore.Proofs.Collection
import RecordStore.Proofs.Sorting
/-!
# Scans and pipelines

A scan with options does what a pipeline of four stages does: it selects, sorts, leaves out the
first documents and keeps a number of those that follow. The two are evaluated apart. A scan that
is not asked for an order does not sort at all, while a `$sort` stage without directions sorts by
no keys, which keeps the order; a scan that leaves nothing out has no count to read, while a
`$skip` stage reads a zero.

## Main definitions

* `FindOptions.page`, `Pipeline.page`: an order, a limit and a number of documents to leave out,
  as options and as stages.

## Main results

* `Pipeline.run_page`, `Collection.cut_page`: what the stages and the options ask for.
* `Collection.find_eq_aggregate`: a scan answers what the pipeline answers.
-/

namespace RecordStore

/-! ### Sorting by no keys -/

/-- Sorting keeps the order of entries of which none precedes another. -/
theorem stableSort_eq_self {α : Type} {less : α → α → Bool} {l : List α}
    (h : ∀ a ∈ l, ∀ b ∈ l, less a b = false) : stableSort less l = l := by
  have hfilter := filter_stableSort (p := fun _ => true) fun a ha b hb _ _ => h a ha b hb
  simpa using hfilter

/-- Without directions documents stay as they are. -/
@[simp] theorem sortDocuments_nil (ds : List Document) : sortDocuments [] ds = .ok ds := by
  have hkeys : SortKey.ofDocument [] = .ok [] := rfl
  have hsort : stableSort (fun a b => SortKey.compareAll [] a b == .lt) ds = ds :=
    stableSort_eq_self fun _ _ _ _ => rfl
  rw [sortDocuments, hkeys]
  exact congrArg Except.ok hsort

/-! ### An order, a limit and a number to leave out -/

/-- The options that ask for an order, a limit and a number of documents to leave out. -/
def FindOptions.page (directions : Document) (limit skip : Int64) : FindOptions :=
  ((({} : FindOptions).withSort directions).withLimit limit).withSkip skip

/-- The stages that select, sort, leave out and limit. A number that is not positive leaves out
nothing, and a limit that is not positive is none. -/
def Pipeline.page (filter directions : Document) (limit skip : Int64) : List Document :=
  [[("$match", .document filter)], [("$sort", .document directions)],
    [("$skip", .int64 (max skip 0))]] ++
    (if 0 < limit then [[("$limit", .int64 limit)]] else [])

/-- What is left of sorted documents. -/
def Pipeline.pageOf (limit skip : Int64) (ds : List Document) : List Document :=
  if 0 < limit then (ds.drop skip.toInt.toNat).take limit.toInt.toNat
  else ds.drop skip.toInt.toNat

/-! ### The stages -/

theorem toInt_max (i j : Int64) : (max i j).toInt = max i.toInt j.toInt := by
  have hmax : max i j = if i ≤ j then j else i := rfl
  rw [hmax]
  split
  · next h => exact (max_eq_right (Int64.le_iff_toInt_le.1 h)).symm
  · next h =>
    have hlt : ¬ i.toInt ≤ j.toInt := fun hle => h (Int64.le_iff_toInt_le.2 hle)
    exact (max_eq_left (by omega)).symm

namespace Stage

theorem count_of_nonneg (stage : String) {i : Int64} (h : 0 ≤ i.toInt) :
    count stage (.int64 i) = .ok i.toInt.toNat := by
  simp only [count, if_pos h]

theorem ofDocument_match (filter : Document) :
    ofDocument [("$match", .document filter)] = .ok (keep filter) := rfl

theorem ofDocument_sort (directions : Document) :
    ofDocument [("$sort", .document directions)] = .ok (sort directions) := rfl

theorem ofDocument_skip {i : Int64} (h : 0 ≤ i.toInt) :
    ofDocument [("$skip", .int64 i)] = .ok (skip i.toInt.toNat) := by
  change (count "$skip" (.int64 i)).map skip = _
  rw [count_of_nonneg "$skip" h]
  rfl

theorem ofDocument_limit {i : Int64} (h : 0 ≤ i.toInt) :
    ofDocument [("$limit", .int64 i)] = .ok (limit i.toInt.toNat) := by
  change (count "$limit" (.int64 i)).map limit = _
  rw [count_of_nonneg "$limit" h]
  rfl

end Stage

namespace Pipeline

/-- A stage that can be read is passed, and the rest of the pipeline follows. -/
theorem run_cons {first : Document} {stage : Stage} (h : Stage.ofDocument first = .ok stage)
    (rest ds : List Document) :
    run (first :: rest) ds = stage.run ds >>= run rest := by
  rw [run, h]
  rfl

/-- The stages behind the sorting take a page of what was sorted. -/
theorem run_skip_limit (limit skip : Int64) (ds : List Document) :
    run ([[("$skip", .int64 (max skip 0))]] ++
      (if 0 < limit then [[("$limit", .int64 limit)]] else [])) ds =
      .ok (pageOf limit skip ds) := by
  have hmax : (max skip 0).toInt = max skip.toInt 0 := toInt_max skip 0
  have hdrop : (max skip.toInt 0).toNat = skip.toInt.toNat := by omega
  have hskip := Stage.ofDocument_skip (i := max skip 0) (by omega)
  rw [hmax, hdrop] at hskip
  rw [List.singleton_append, run_cons hskip, pageOf]
  change run _ (ds.drop skip.toInt.toNat) = _
  split
  · next hlimit =>
    have hpos : 0 < limit.toInt := Int64.lt_iff_toInt_lt.1 hlimit
    rw [run_cons (Stage.ofDocument_limit (by omega))]
    rfl
  · rfl

theorem run_page (filter directions : Document) (limit skip : Int64) (ds : List Document) :
    run (page filter directions limit skip) ds = (do
      let selected ← Filter.select filter ds
      let sorted ← sortDocuments directions selected
      pure (pageOf limit skip sorted)) := by
  have hpage : page filter directions limit skip =
      [("$match", .document filter)] :: [("$sort", .document directions)] ::
        ([[("$skip", .int64 (max skip 0))]] ++
          (if 0 < limit then [[("$limit", .int64 limit)]] else [])) := rfl
  rw [hpage, run_cons (Stage.ofDocument_match filter)]
  refine bind_congr fun selected => ?_
  rw [run_cons (Stage.ofDocument_sort directions)]
  exact bind_congr (run_skip_limit limit skip)

end Pipeline

/-! ### The options -/

namespace Collection

/-- The options keep the page that they ask for. -/
theorem cut_page (directions : Document) (limit skip : Int64) (ds : List Document) :
    cut (.page directions limit skip) ds = Pipeline.pageOf limit skip ds := by
  have hskip : ((FindOptions.page directions limit skip).skip.map UInt64.toNat).getD 0 =
      skip.toInt.toNat := by
    change ((if 0 < skip then some skip.toUInt64 else none).map UInt64.toNat).getD 0 = _
    split
    · next h =>
      have hpos := Int64.lt_iff_toInt_lt.1 h
      exact Int64.toNat_toUInt64_of_le (Int64.le_iff_toInt_le.2 (le_of_lt hpos))
    · next h =>
      have hneg : skip.toInt ≤ 0 := not_lt.1 fun hpos => h (Int64.lt_iff_toInt_lt.2 hpos)
      exact (Int.toNat_of_nonpos hneg).symm
  have hlimit : (FindOptions.page directions limit skip).limit =
      if 0 < limit then some limit else none := rfl
  simp only [cut, hskip, hlimit, Pipeline.pageOf]
  by_cases hlimit : 0 < limit
  · have hpos : 0 < limit.toInt := Int64.lt_iff_toInt_lt.1 hlimit
    have hnot : ¬ limit < 0 := fun hneg => by
      have hneg : limit.toInt < 0 := Int64.lt_iff_toInt_lt.1 hneg
      omega
    simp only [if_pos hlimit, if_neg hnot]
  · simp only [if_neg hlimit]

/-- **Scans and pipelines.** A scan with an order, a limit and a number of documents to leave out
answers what the pipeline of these stages answers: the same documents in the same order, or the
same error. -/
theorem find_eq_aggregate (c : Collection) (filter directions : Document) (limit skip : Int64) :
    ((find filter (.page directions limit skip)).outcome c).1 =
      ((aggregate (Pipeline.page filter directions limit skip)).outcome c).1 := by
  rw [outcome_find, outcome_aggregate, Pipeline.run_page]
  simp only [cut_page]
  refine bind_congr fun selected => ?_
  cases directions with
  | nil =>
    -- the scan does not sort, and the pipeline sorts by no keys
    rw [sortDocuments_nil]
    rfl
  | cons key rest => rfl

end Collection

end RecordStore
