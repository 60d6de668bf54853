import RecordStore.Proofs.Update
import RecordStore.Proofs.Upserting
/-!
# Runs of requests

The collection that a request leaves, and the one that a list of requests leaves. A request
never changes the name of a collection or its identity field. Documents stay well-formed as
long as those that requests bring along are.

## Main definitions

* `Collection.after`, `Collection.afterAll`: the collection behind a request, and behind a run.
* `Request.written`: the documents that a request brings along to be stored.
* `Collection.WellFormed`, `Request.WellFormed`: every document has each name once.

## Main results

* `Collection.after_frame`: a request keeps the name and the identity field.
* `Collection.wellFormed_after`: a well-formed request leaves a well-formed collection.
-/

namespace RecordStore

/-- The documents that a request brings along to be stored, whole or in parts. -/
def Request.written : Request → List Document
  | .insertOne d => [d]
  | .insertMany ds => ds
  | .updateOne _ update => [update]
  | .updateMany _ update => [update]
  | .bulkUpsert upserts => upserts.map Upsert.replacement
  | _ => []

/-- The documents that a request brings along have each name once. -/
def Request.WellFormed (r : Request) : Prop :=
  ∀ d ∈ r.written, d.wellFormed = true

instance (r : Request) : Decidable r.WellFormed :=
  inferInstanceAs (Decidable (∀ d ∈ r.written, d.wellFormed = true))

namespace Collection

variable {c : Collection}

/-- The collection that a request leaves, whether it succeeds or fails. -/
def after (c : Collection) (r : Request) : Collection :=
  ((perform r).outcome c).2

/-- The collection that requests leave, performed one after the other. -/
def afterAll (c : Collection) (rs : List Request) : Collection :=
  rs.foldl after c

/-- The documents of the collection have each name once. -/
def WellFormed (c : Collection) : Prop :=
  ∀ d ∈ c.documents, d.wellFormed = true

@[simp] theorem afterAll_nil (c : Collection) : c.afterAll [] = c := rfl

@[simp] theorem afterAll_cons (c : Collection) (r : Request) (rs : List Request) :
    c.afterAll (r :: rs) = (c.after r).afterAll rs := rfl

/-! ### The collection behind each request -/

theorem after_insertOne (c : Collection) (d : Document) :
    c.after (.insertOne d) =
      match c.checkNew d with
      | .error _ => c
      | .ok _ => c.withDocuments (c.documents ++ [d]) := by
  rw [after, perform, outcome_insertOne]
  cases c.checkNew d <;> rfl

@[simp] theorem after_insertMany_nil (c : Collection) : c.after (.insertMany []) = c := rfl

theorem after_insertMany_cons (c : Collection) (d : Document) (rest : List Document) :
    c.after (.insertMany (d :: rest)) =
      match c.checkNew d with
      | .error _ => c
      | .ok _ => (c.withDocuments (c.documents ++ [d])).after (.insertMany rest) := by
  rw [after, perform, outcome_insertMany_cons]
  cases c.checkNew d <;> rfl

theorem after_updateOne (c : Collection) (filter update : Document) :
    c.after (.updateOne filter update) =
      match Update.changes update, Filter.first? filter c.documents with
      | .ok fields, .ok (some p) =>
        c.withDocuments (p.replace (Update.apply fields p.document).1)
      | _, _ => c := by
  rw [after, perform, outcome_updateOne]
  cases Update.changes update with
  | error e => rfl
  | ok fields =>
    cases Filter.first? filter c.documents with
    | error e => rfl
    | ok place => cases place <;> rfl

/-- A fault of the filter means that no document matches, so the case needs no name here. -/
theorem after_updateMany (c : Collection) (filter update : Document) :
    c.after (.updateMany filter update) =
      match Update.changes update with
      | .ok fields => c.withDocuments (c.documents.map (Update.updated filter fields))
      | .error _ => c := by
  rw [after, perform, outcome_updateMany]
  cases Update.changes update with
  | error e => rfl
  | ok fields =>
    cases hfault : Filter.firstFault? filter c.documents with
    | none => rfl
    | some e =>
      -- nothing matches, so the update of each document is that document
      have hsame : Update.updated filter fields = id := by
        funext d
        rw [Update.updated, Filter.accepts_eq_false_of_firstFault? hfault d]
        rfl
      simp only [hsame, List.map_id, withDocuments_self]

theorem after_deleteOne (c : Collection) (filter : Document) :
    c.after (.deleteOne filter) =
      match Filter.first? filter c.documents with
      | .ok (some p) => c.withDocuments p.remove
      | _ => c := by
  rw [after, perform, outcome_deleteOne]
  cases Filter.first? filter c.documents with
  | error e => rfl
  | ok place => cases place <;> rfl

theorem after_deleteMany (c : Collection) (filter : Document) :
    c.after (.deleteMany filter) =
      match Filter.firstFault? filter c.documents with
      | some _ => c.withDocuments []
      | none => c.withDocuments (c.documents.filter (!Filter.accepts filter ·)) := by
  rw [after, perform, outcome_deleteMany]
  cases Filter.firstFault? filter c.documents <;> rfl

@[simp] theorem after_bulkUpsert_nil (c : Collection) : c.after (.bulkUpsert []) = c := rfl

/-- The collection behind the first of several upserts, if that upsert succeeds. -/
def upserted? (c : Collection) (u : Upsert) : Option Collection :=
  match Filter.first? u.filter c.documents with
  | .ok (some p) => some (c.withDocuments (p.replace u.replacement))
  | .ok none =>
    match c.checkNew u.replacement with
    | .ok _ => some (c.withDocuments (c.documents ++ [u.replacement]))
    | .error _ => none
  | .error _ => none

theorem after_bulkUpsert_cons (c : Collection) (u : Upsert) (rest : List Upsert) :
    c.after (.bulkUpsert (u :: rest)) =
      match c.upserted? u with
      | some left => left.after (.bulkUpsert rest)
      | none => c := by
  simp only [after, perform, bulkUpsert, outcome_upsertAll_cons, outcome_upsertOne, upserted?]
  cases Filter.first? u.filter c.documents with
  | error e => rfl
  | ok place =>
    cases place with
    | some p => simp only [outcome_upsertAll_add]
    | none =>
      dsimp only
      cases c.checkNew u.replacement with
      | error e => rfl
      | ok _ => simp only [outcome_upsertAll_add]

/-! ### What every request keeps -/

/-- The requests that neither add, change nor remove a document. -/
def keepsDocuments : Request → Bool
  | .findOne _ | .find _ _ | .count _ | .aggregate _ => true
  | .createIndexes _ | .createSearchIndexes _ | .createTimeSeries _ => true
  | _ => false

theorem after_of_keepsDocuments {r : Request} (h : keepsDocuments r = true) (c : Collection) :
    (c.after r).documents = c.documents ∧ (c.after r).name = c.name ∧
      (c.after r).idField = c.idField := by
  unfold after perform
  cases r with
  | findOne filter => simp only [outcome_findOne, and_self]
  | find filter options => simp only [outcome_find, and_self]
  | count filter => simp only [outcome_count, and_self]
  | aggregate pipeline => simp only [outcome_aggregate, and_self]
  | createIndexes indexes => exact ⟨rfl, rfl, rfl⟩
  | createSearchIndexes indexes => exact ⟨rfl, rfl, rfl⟩
  | createTimeSeries layout =>
    simp only [createTimeSeries, Action.outcome_bind, Action.outcome_get]
    split <;> exact ⟨rfl, rfl, rfl⟩
  | _ => cases h

/-- The documents that an upsert leaves if it succeeds. -/
theorem upserted?_eq_some {u : Upsert} {left : Collection} (h : c.upserted? u = some left) :
    (∃ p, Filter.first? u.filter c.documents = .ok (some p) ∧
      left = c.withDocuments (p.replace u.replacement)) ∨
    (Filter.first? u.filter c.documents = .ok none ∧ c.checkNew u.replacement = .ok () ∧
      left = c.withDocuments (c.documents ++ [u.replacement])) := by
  unfold upserted? at h
  split at h
  · next p hp => exact .inl ⟨p, hp, (Option.some.inj h).symm⟩
  · next hp =>
    split at h
    · next hnew => exact .inr ⟨hp, hnew, (Option.some.inj h).symm⟩
    · cases h
  · cases h

section Members

variable {P : Document → Prop}

theorem forall_mem_append (hc : ∀ d ∈ c.documents, P d) {d : Document} (hd : P d) :
    ∀ e ∈ (c.withDocuments (c.documents ++ [d])).documents, P e := by
  intro e he
  rw [documents_withDocuments, List.mem_append, List.mem_singleton] at he
  obtain he | rfl := he
  · exact hc e he
  · exact hd

theorem forall_mem_replace {filter : Document} {p : Filter.Place}
    (hc : ∀ d ∈ c.documents, P d) (hp : Filter.first? filter c.documents = .ok (some p))
    {d : Document} (hd : P p.document → P d) :
    ∀ e ∈ (c.withDocuments (p.replace d)).documents, P e := by
  intro e he
  rw [(Filter.first?_eq_some_iff.1 hp).1] at hc
  rw [documents_withDocuments, Filter.Place.replace, List.mem_append, List.mem_cons] at he
  obtain he | rfl | he := he
  · exact hc e (List.mem_append_left _ he)
  · exact hd (hc p.document (by simp))
  · exact hc e (by simp [he])

theorem forall_mem_after_insertMany {ds : List Document} (hc : ∀ d ∈ c.documents, P d)
    (hds : ∀ d ∈ ds, P d) : ∀ d ∈ (c.after (.insertMany ds)).documents, P d := by
  induction ds generalizing c with
  | nil => exact hc
  | cons d rest ih =>
    obtain ⟨hd, hrest⟩ := List.forall_mem_cons.1 hds
    rw [after_insertMany_cons]
    split
    · exact hc
    · exact ih (forall_mem_append hc hd) hrest

theorem forall_mem_upserted? {u : Upsert} {left : Collection} (hc : ∀ d ∈ c.documents, P d)
    (hu : P u.replacement) (h : c.upserted? u = some left) : ∀ d ∈ left.documents, P d := by
  obtain ⟨p, hp, rfl⟩ | ⟨-, -, rfl⟩ := upserted?_eq_some h
  · exact forall_mem_replace hc hp fun _ => hu
  · exact forall_mem_append hc hu

theorem forall_mem_after_bulkUpsert {us : List Upsert} (hc : ∀ d ∈ c.documents, P d)
    (hus : ∀ u ∈ us, P u.replacement) : ∀ d ∈ (c.after (.bulkUpsert us)).documents, P d := by
  induction us generalizing c with
  | nil => exact hc
  | cons u rest ih =>
    obtain ⟨hu, hrest⟩ := List.forall_mem_cons.1 hus
    rw [after_bulkUpsert_cons]
    split
    · next left hleft => exact ih (forall_mem_upserted? hc hu hleft) hrest
    · exact hc

theorem mem_of_mem_after_deleteOne {filter d : Document}
    (h : d ∈ (c.after (.deleteOne filter)).documents) : d ∈ c.documents := by
  rw [after_deleteOne] at h
  split at h
  · next p hp =>
    rw [documents_withDocuments, Filter.Place.remove, List.mem_append] at h
    rw [(Filter.first?_eq_some_iff.1 hp).1, List.mem_append, List.mem_cons]
    tauto
  · exact h

theorem mem_of_mem_after_deleteMany {filter d : Document}
    (h : d ∈ (c.after (.deleteMany filter)).documents) : d ∈ c.documents := by
  rw [after_deleteMany] at h
  split at h
  · cases h
  · exact List.mem_of_mem_filter h

end Members

/-- A well-formed request leaves a well-formed collection. -/
theorem wellFormed_after {r : Request} (hc : c.WellFormed) (hr : r.WellFormed) :
    (c.after r).WellFormed := by
  by_cases hkeeps : keepsDocuments r = true
  · unfold WellFormed
    rwa [(after_of_keepsDocuments hkeeps c).1]
  cases r with
  | insertOne d =>
    rw [after_insertOne]
    split
    · exact hc
    · exact forall_mem_append hc (hr d (by simp [Request.written]))
  | insertMany ds => exact forall_mem_after_insertMany hc hr
  | updateOne filter update =>
    rw [after_updateOne]
    split
    · next fields p hfields hp =>
      have hwell := Update.wellFormed_changes (hr update (by simp [Request.written])) hfields
      exact forall_mem_replace hc hp (Update.wellFormed_apply hwell)
    · exact hc
  | updateMany filter update =>
    rw [after_updateMany]
    split
    · next fields hfields =>
      have hwell := Update.wellFormed_changes (hr update (by simp [Request.written])) hfields
      intro e he
      obtain ⟨d, hd, rfl⟩ := List.mem_map.1 he
      unfold Update.updated
      split
      · exact Update.wellFormed_apply hwell (hc d hd)
      · exact hc d hd
    · exact hc
  | deleteOne filter => exact fun d hd => hc d (mem_of_mem_after_deleteOne hd)
  | deleteMany filter => exact fun d hd => hc d (mem_of_mem_after_deleteMany hd)
  | bulkUpsert us =>
    exact forall_mem_after_bulkUpsert hc fun u hu => hr _ (List.mem_map_of_mem hu)
  | _ => exact absurd rfl hkeeps

/-- A request keeps the name of the collection and its identity field. -/
theorem after_frame (c : Collection) (r : Request) :
    (c.after r).name = c.name ∧ (c.after r).idField = c.idField := by
  by_cases hkeeps : keepsDocuments r = true
  · exact (after_of_keepsDocuments hkeeps c).2
  cases r with
  | insertOne d => rw [after_insertOne]; split <;> exact ⟨rfl, rfl⟩
  | insertMany ds =>
    clear hkeeps
    induction ds generalizing c with
    | nil => exact ⟨rfl, rfl⟩
    | cons d rest ih =>
      rw [after_insertMany_cons]
      split
      · exact ⟨rfl, rfl⟩
      · exact ih _
  | updateOne filter update => rw [after_updateOne]; split <;> exact ⟨rfl, rfl⟩
  | updateMany filter update => rw [after_updateMany]; split <;> exact ⟨rfl, rfl⟩
  | deleteOne filter => rw [after_deleteOne]; split <;> exact ⟨rfl, rfl⟩
  | deleteMany filter => rw [after_deleteMany]; split <;> exact ⟨rfl, rfl⟩
  | bulkUpsert us =>
    clear hkeeps
    induction us generalizing c with
    | nil => exact ⟨rfl, rfl⟩
    | cons u rest ih =>
      rw [after_bulkUpsert_cons]
      split
      · next left hleft =>
        obtain ⟨p, -, rfl⟩ | ⟨-, -, rfl⟩ := upserted?_eq_some hleft <;> exact ih _
      · exact ⟨rfl, rfl⟩
  | _ => exact absurd rfl hkeeps

end Collection

end RecordStore
