import RecordStore.Proofs.Except
import RecordStore.Proofs.Paging
import RecordStore.Proofs.StoreRequest
/-!
# Searching in memory

A store in memory has no engine for texts: it reads every stage of a search, lets all documents
pass the first one and cuts them at the limit. So a search answers the records in the first
documents of the collection, in the order of insertion, and it can fail only where a document is
not read as a record. The documents stay as they are, and the pipeline is remembered.

## Main definitions

* `Criteria.hits`: the documents that pass.

## Main results

* `Criteria.run_pipeline`: the stages of a search.
* `Repository.search_answers`: the answer of a search and the store that it leaves.
-/

namespace RecordStore

namespace Criteria

/-- The first documents up to the limit. A limit that is not positive is none. -/
def hits (c : Criteria) (ds : List Document) : List Document :=
  if 0 < c.limit then ds.take c.limit.toInt.toNat else ds

theorem ofDocument_search (v : Value) : Stage.ofDocument [("$search", v)] = .ok .search := rfl

/-- All stages of a search are known, and those of a limit have a count. -/
theorem run_pipeline (c : Criteria) (ds : List Document) :
    Pipeline.run c.pipeline ds = .ok (c.hits ds) := by
  have hsearch := Pipeline.run_cons (ofDocument_search (.document c.search))
  rw [pipeline, List.singleton_append, hsearch, hits]
  by_cases hlimit : 0 < c.limit
  · have hpos : 0 < c.limit.toInt := Int64.lt_iff_toInt_lt.1 hlimit
    have hcount : Stage.ofDocument [("$limit", .int64 c.limit)] = _ :=
      Stage.ofDocument_limit (by omega)
    rw [if_pos hlimit, if_pos hlimit]
    change Pipeline.run [[("$limit", .int64 c.limit)]] ds = _
    rw [Pipeline.run_cons hcount]
    rfl
  · rw [if_neg hlimit, if_neg hlimit]
    rfl

end Criteria

namespace Repository

open RecordStore.Action

variable {ρ ι : Type} [Record ρ ι]

/-- The store in which the collection of a type of records remembers a pipeline. -/
def remember (ρ : Type) {ι : Type} [Record ρ ι] (s : Store) (pipeline : List Document) : Store :=
  s.put (Record.collection ρ)
    { s.contents (Record.collection ρ) with lastPipeline := some pipeline }

theorem outcome_search (c : Criteria) (s : Store) :
    (search ρ c : Action Store (List ρ)).outcome s =
      ((c.hits (Store.documents ρ s)).mapM Record.decode, remember ρ s c.pipeline) := by
  have hrequest : (request ρ (.aggregate c.pipeline) : Action Store (List Document)).outcome s =
      (.ok (c.hits (Store.documents ρ s)), remember ρ s c.pipeline) := by
    rw [Store.outcome_request, Collection.perform, Collection.outcome_aggregate,
      Criteria.run_pipeline, Store.documents_collection]
    rfl
  simp only [search, aggregate, outcome_bind, hrequest, outcome_lift]

/-- **Searching.** The stages of a search are accepted in every collection and let the first
documents pass, up to the limit. The answer is what these documents are read as, one after the
other: their records if all of them can be read, and a failure of serialization if one cannot. The
pipeline is remembered and nothing else changes. -/
theorem search_answers (c : Criteria) (s : Store) :
    (∀ collection : Collection, ((Collection.aggregate c.pipeline).outcome collection).1 =
      .ok (c.hits collection.documents)) ∧
    ((search ρ c : Action Store (List ρ)).outcome s).1 =
      (c.hits (Store.documents ρ s)).mapM Record.decode ∧
    (∀ records, ((search ρ c : Action Store (List ρ)).outcome s).1 = .ok records ↔
      List.Forall₂ (fun d r => Record.decode d = .ok r) (c.hits (Store.documents ρ s))
        records) ∧
    ((∃ fault, ((search ρ c : Action Store (List ρ)).outcome s).1 =
        .error (.serialization fault)) ↔
      ∃ d ∈ c.hits (Store.documents ρ s), ∀ r : ρ, Record.decode d ≠ .ok r) ∧
    ((search ρ c : Action Store (List ρ)).outcome s).2 = remember ρ s c.pipeline := by
  rw [outcome_search]
  refine ⟨fun collection => ?_, rfl, fun records => Except.mapM_eq_ok_iff, ?_, rfl⟩
  · rw [Collection.outcome_aggregate, Criteria.run_pipeline]
  constructor
  · rintro ⟨fault, hfault⟩
    obtain ⟨d, hd, herror⟩ := Except.exists_of_mapM_eq_error hfault
    refine ⟨d, hd, fun r hr => ?_⟩
    rw [hr] at herror
    cases herror
  · rintro ⟨d, hd, hunread⟩
    cases hanswer : (c.hits (Store.documents ρ s)).mapM (Record.decode (ρ := ρ)) with
    | ok records =>
      -- then every document is read, this one too
      obtain ⟨r, hr⟩ := Except.exists_ok_of_mem hanswer d hd
      exact absurd hr (hunread r)
    | error e =>
      obtain ⟨d, -, herror⟩ := Except.exists_of_mapM_eq_error hanswer
      cases e with
      | serialization fault => exact ⟨fault, rfl⟩
      | _ => exact absurd (Record.serialization_decode herror) Bool.false_ne_true

end Repository

end RecordStore
