import RecordStore.Proofs.Addressing
import RecordStore.Records.Measurement
/-!
# Inserting records

A repository leaves it to the store to refuse a record whose identity is there. The store looks at
the one field that it takes for the identity in every collection, so it refuses a record for the
identity of the record if and only if that is the field in which records of this type hold theirs.
In such a store identities of records stay unique as long as requests write none twice.

## Main definitions

* `Store.Taken`: a document has the identity of a stored one, as the store sees it.

## Main results

* `Repository.insertOne_rejects`: which records are refused, and with what error.
* `Store.Distinct.request`: requests that keep the identities of records unique.
-/

namespace RecordStore

variable {ρ ι : Type} [Record ρ ι] {s : Store} {d : Document}

namespace Store

/-- A stored document has the value of the given one in the identity field of the store. -/
def Taken (ρ : Type) {ι : Type} [Record ρ ι] (s : Store) (d : Document) : Prop :=
  ∃ e ∈ documents ρ s, e.Agree s.idField d

theorem checkNew_of_taken (h : Taken ρ s d) :
    ∃ v, d.get? s.idField = some v ∧
      (s.collection (Record.collection ρ)).checkNew d =
        .error (.duplicateKey (Record.collection ρ ++ "." ++ s.idField ++ " = " ++ v.text)) := by
  obtain ⟨e, he, w, v, hw, hv, hsame⟩ := h
  refine ⟨v, hv, ?_⟩
  have hfield : (s.collection (Record.collection ρ)).idField = s.idField := rfl
  have hhas : e.has s.idField v = true := Document.has_iff.2 ⟨w, hw, hsame⟩
  rw [Collection.checkNew, hfield, hv]
  exact if_pos (List.any_eq_true.2 ⟨e, he, hhas⟩)

theorem checkNew_of_not_taken (h : ¬ Taken ρ s d) :
    (s.collection (Record.collection ρ)).checkNew d = .ok () :=
  Collection.checkNew_eq_ok_iff.2 fun e he hagree => h ⟨e, he, hagree⟩

end Store

namespace Repository

open RecordStore.Action

variable {r : ρ}

theorem outcome_insertOne (hd : Record.encode r = .ok d) (s : Store) :
    (insertOne r : Action Store Unit).outcome s =
      match (s.collection (Record.collection ρ)).checkNew d with
      | .error e => (.error e, s)
      | .ok _ => (.ok (), Store.withDocuments ρ s (Store.documents ρ s ++ [d])) := by
  simp only [insertOne, hd, outcome_bind, outcome_lift]
  rw [Store.outcome_request, Collection.perform, Collection.outcome_insertOne]
  cases (s.collection (Record.collection ρ)).checkNew d with
  | error e => exact congrArg _ (Store.put_contents s _)
  | ok _ => rfl

/-- **Insertion.** In a store whose identity field is that of the records, a record is refused
with an error that shows its identity, and the store left alone, if a stored document has an
equal one. In any store the same happens by the field of the store, and a record that is not
refused is added at the end. -/
theorem insertOne_rejects (hd : Record.encode r = .ok d) (s : Store) :
    (s.idField = Record.idField ρ → ∀ v, d.get? (Record.idField ρ) = some v →
      (∃ e ∈ Store.documents ρ s, e.has (Record.idField ρ) v = true) →
        (insertOne r : Action Store Unit).outcome s =
          (.error (.duplicateKey
            (Record.collection ρ ++ "." ++ Record.idField ρ ++ " = " ++ v.text)), s)) ∧
      ((s.Taken ρ d ∧ ∃ v, d.get? s.idField = some v ∧
          (insertOne r : Action Store Unit).outcome s =
            (.error (.duplicateKey
              (Record.collection ρ ++ "." ++ s.idField ++ " = " ++ v.text)), s)) ∨
        (¬ s.Taken ρ d ∧ (insertOne r : Action Store Unit).outcome s =
          (.ok (), Store.withDocuments ρ s (Store.documents ρ s ++ [d])))) := by
  have hrefused : s.Taken ρ d → ∃ v, d.get? s.idField = some v ∧
      (insertOne r : Action Store Unit).outcome s =
        (.error (.duplicateKey
          (Record.collection ρ ++ "." ++ s.idField ++ " = " ++ v.text)), s) := by
    intro htaken
    obtain ⟨v, hv, herror⟩ := Store.checkNew_of_taken htaken
    exact ⟨v, hv, by rw [outcome_insertOne hd, herror]⟩
  constructor
  · rintro hfield v hv ⟨e, he, hhas⟩
    rw [← hfield] at hv hhas ⊢
    obtain ⟨w, hw, houtcome⟩ := hrefused ⟨e, he, (Document.agree_iff_has hv).2 hhas⟩
    rw [hv] at hw
    cases hw
    exact houtcome
  · by_cases htaken : s.Taken ρ d
    · exact .inl ⟨htaken, hrefused htaken⟩
    · refine .inr ⟨htaken, ?_⟩
      rw [outcome_insertOne hd, Store.checkNew_of_not_taken htaken]

/-- In a store for measurements a sensor has one measurement. -/
theorem insertOne_rejects_sensor :
    Record.encode (⟨1, ⟨0⟩⟩ : Measurement) =
        .ok [("sensor", .int64 1), ("value", .double ⟨0⟩)] ∧
      (insertOne (⟨1, ⟨0⟩⟩ : Measurement) : Action Store Unit).outcome
          (Store.withDocuments Measurement { idField := "sensor" }
            [[("sensor", .int64 1), ("value", .double .nan)]]) =
        (.error (.duplicateKey
            ("reading" ++ "." ++ "sensor" ++ " = " ++ (Value.int64 1).text)),
          Store.withDocuments Measurement { idField := "sensor" }
            [[("sensor", .int64 1), ("value", .double .nan)]]) := by
  refine ⟨rfl, (insertOne_rejects rfl _).1 rfl (.int64 1) rfl
    ⟨_, List.mem_singleton_self _, rfl⟩⟩

/-- In a store with another identity field it has two. -/
theorem insertOne_accepts_sensor :
    Record.encode (⟨1, ⟨0⟩⟩ : Measurement) =
        .ok [("sensor", .int64 1), ("value", .double ⟨0⟩)] ∧
      Document.get? [("sensor", .int64 1), ("value", .double ⟨0⟩)] (Record.idField Measurement) =
        some (.int64 1) ∧
      (∃ e ∈ Store.documents Measurement (Store.withDocuments Measurement {}
          [[("sensor", .int64 1), ("value", .double .nan)]]),
        e.has (Record.idField Measurement) (.int64 1) = true) ∧
      ((insertOne (⟨1, ⟨0⟩⟩ : Measurement) : Action Store Unit).outcome
          (Store.withDocuments Measurement {}
            [[("sensor", .int64 1), ("value", .double .nan)]])).1 = .ok () ∧
      Store.documents Measurement
          ((insertOne (⟨1, ⟨0⟩⟩ : Measurement) : Action Store Unit).outcome
            (Store.withDocuments Measurement {}
              [[("sensor", .int64 1), ("value", .double .nan)]])).2 =
        [[("sensor", .int64 1), ("value", .double .nan)],
          [("sensor", .int64 1), ("value", .double ⟨0⟩)]] :=
  ⟨rfl, rfl, ⟨_, List.mem_singleton_self _, rfl⟩, rfl, rfl⟩

end Repository

/-! ### Identities of records stay unique -/

namespace Store

theorem view_eq_collection (hfield : s.idField = Record.idField ρ) :
    view ρ s = s.collection (Record.collection ρ) := by
  rw [view, ← hfield]
  rfl

theorem view_request (hfield : s.idField = Record.idField ρ) (r : Request) :
    view ρ ((Repository.request ρ r : Action Store r.Reply).outcome s).2 =
      (view ρ s).after r := by
  obtain ⟨hname, hid⟩ := Collection.after_frame (view ρ s) r
  rw [outcome_request, view, contents_put_self, ← view_eq_collection hfield]
  exact congrArg₂ (Collection.mk _) hname.symm hid.symm

/-- A request that writes no identity twice keeps the identities of records unique, in a store
whose identity field is that of the records. -/
theorem Distinct.request {r : Request} (hs : s.Distinct ρ)
    (hfield : s.idField = Record.idField ρ) (hr : r.WellFormed)
    (hspares : (view ρ s).Spares r) :
    Distinct ρ ((Repository.request ρ r : Action Store r.Reply).outcome s).2 := by
  have hparts := (Collection.unique_parts_iff_spares hs.wellFormed hs.unique hr).2 hspares
  refine ⟨?_, ?_⟩ <;> rw [view_request hfield]
  · exact Collection.wellFormed_after hs.wellFormed hr
  · exact hparts r (.whole r)

end Store

end RecordStore
