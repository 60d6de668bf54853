import RecordStore.Proofs.Collection
/-!
# Batches of upserts

A batch of upserts is performed in order, and each of them searches what the ones before it have
left. So a batch may be cut anywhere: its parts, performed one after the other, leave the same
documents, fail with the same error and count the same together. An upsert puts a document in the
place of another or at the end, never between two others, and one that fails changes nothing.

## Main definitions

* `UpsertSummary.add`: the counts of two batches together.

## Main results

* `Collection.outcome_bulkUpsert_append`: a batch in two parts.
* `Collection.bulkUpsert_in_order`: what a batch counts and leaves, and how it fails.
-/

namespace RecordStore

namespace UpsertSummary

/-- The counts of two batches together. -/
def add (r s : UpsertSummary) : UpsertSummary where
  matched := r.matched + s.matched
  modified := r.modified + s.modified
  upserted := r.upserted + s.upserted

theorem add_assoc (r s t : UpsertSummary) : (r.add s).add t = r.add (s.add t) := by
  simp only [add, Nat.add_assoc]

@[simp] theorem add_empty (r : UpsertSummary) : r.add {} = r := rfl

@[simp] theorem empty_add (r : UpsertSummary) : add {} r = r := by
  simp only [add, Nat.zero_add]

end UpsertSummary

/-- The document in a place is replaced, and all others stay in theirs. -/
theorem Filter.Place.getElem?_replace (p : Place) (d : Document) (i : Nat) :
    (p.replace d)[i]? =
      if i = p.before.length then some d else (p.before ++ p.document :: p.after)[i]? := by
  rw [replace, List.getElem?_append, List.getElem?_append]
  split
  · next h => rw [if_neg (Nat.ne_of_lt h)]
  · next h =>
    cases hi : i - p.before.length with
    | zero => rw [if_pos (by omega), List.getElem?_cons_zero]
    | succ j => rw [if_neg (by omega), List.getElem?_cons_succ, List.getElem?_cons_succ]

namespace Collection

open RecordStore.Action

variable {c left : Collection} {u : Upsert} {us : List Upsert} {r : UpsertSummary}

/-! ### Counting on -/

/-- What was counted before is added to the counts of an upsert. -/
theorem outcome_upsertOne_add (c : Collection) (u : Upsert) (done : UpsertSummary) :
    (upsertOne u done).outcome c =
      (((bulkUpsert [u]).outcome c).1.map done.add, ((bulkUpsert [u]).outcome c).2) := by
  rw [bulkUpsert, outcome_upsertAll_cons, outcome_upsertOne, outcome_upsertOne]
  cases Filter.first? u.filter c.documents with
  | error e => rfl
  | ok place =>
    cases place with
    | some p => simp [UpsertSummary.add, Except.map]
    | none => cases c.checkNew u.replacement <;> rfl

theorem outcome_bulkUpsert_nil (c : Collection) : (bulkUpsert []).outcome c = (.ok {}, c) := rfl

/-- The first upsert of a batch is a batch of its own. -/
theorem outcome_upsertAll_cons_add (c : Collection) (u : Upsert) (rest : List Upsert)
    (done : UpsertSummary) :
    (upsertAll (u :: rest) done).outcome c =
      match (bulkUpsert [u]).outcome c with
      | (.error e, left) => (.error e, left)
      | (.ok r, left) => (upsertAll rest (done.add r)).outcome left := by
  rw [outcome_upsertAll_cons, outcome_upsertOne_add]
  obtain ⟨answer, left⟩ := (bulkUpsert [u]).outcome c
  cases answer <;> rfl

/-- What was counted before is added to the counts of a batch. -/
theorem outcome_upsertAll_add (c : Collection) (us : List Upsert) (done : UpsertSummary) :
    (upsertAll us done).outcome c =
      (((bulkUpsert us).outcome c).1.map done.add, ((bulkUpsert us).outcome c).2) := by
  induction us generalizing c done with
  | nil => rfl
  | cons u rest ih =>
    rw [bulkUpsert, outcome_upsertAll_cons_add, outcome_upsertAll_cons_add]
    obtain ⟨answer, left⟩ := (bulkUpsert [u]).outcome c
    cases answer with
    | error e => rfl
    | ok r =>
      simp only [UpsertSummary.empty_add]
      rw [ih left (done.add r), ih left r]
      cases ((bulkUpsert rest).outcome left).1 with
      | error e => rfl
      | ok s => exact congrArg (fun t => (Except.ok t, _)) (UpsertSummary.add_assoc done r s)

theorem outcome_bulkUpsert_cons (c : Collection) (u : Upsert) (rest : List Upsert) :
    (bulkUpsert (u :: rest)).outcome c =
      match (bulkUpsert [u]).outcome c with
      | (.error e, left) => (.error e, left)
      | (.ok r, left) =>
        (((bulkUpsert rest).outcome left).1.map r.add, ((bulkUpsert rest).outcome left).2) := by
  rw [bulkUpsert, outcome_upsertAll_cons_add]
  obtain ⟨answer, left⟩ := (bulkUpsert [u]).outcome c
  cases answer with
  | error e => rfl
  | ok r => simp only [UpsertSummary.empty_add, outcome_upsertAll_add left rest r]

/-- A batch in two parts. -/
theorem outcome_bulkUpsert_append (c : Collection) (us others : List Upsert) :
    (bulkUpsert (us ++ others)).outcome c =
      match (bulkUpsert us).outcome c with
      | (.error e, left) => (.error e, left)
      | (.ok r, left) =>
        (((bulkUpsert others).outcome left).1.map r.add,
          ((bulkUpsert others).outcome left).2) := by
  induction us generalizing c with
  | nil =>
    rw [List.nil_append, outcome_bulkUpsert_nil]
    dsimp only
    obtain ⟨answer, left⟩ := (bulkUpsert others).outcome c
    cases answer with
    | error e => rfl
    | ok s => simp [Except.map]
  | cons u rest ih =>
    rw [List.cons_append, outcome_bulkUpsert_cons, outcome_bulkUpsert_cons c u rest]
    obtain ⟨answer, mid⟩ := (bulkUpsert [u]).outcome c
    cases answer with
    | error e => rfl
    | ok r =>
      dsimp only
      rw [ih mid]
      obtain ⟨answer, left⟩ := (bulkUpsert rest).outcome mid
      cases answer with
      | error e => rfl
      | ok s =>
        simp only [Except.map]
        obtain ⟨answer, last⟩ := (bulkUpsert others).outcome left
        cases answer with
        | error e => rfl
        | ok t => simp only [UpsertSummary.add_assoc]

/-! ### One upsert -/

/-- An upsert that succeeds puts its document in the place of the first match, or at the end. -/
theorem exists_of_upsert_ok (h : (bulkUpsert [u]).outcome c = (.ok r, left)) :
    (∃ p, Filter.first? u.filter c.documents = .ok (some p) ∧
      r = ⟨1, if p.document.same u.replacement then 0 else 1, 0⟩ ∧
      left = c.withDocuments (p.replace u.replacement)) ∨
    (Filter.first? u.filter c.documents = .ok none ∧ c.checkNew u.replacement = .ok () ∧
      r = ⟨0, 0, 1⟩ ∧ left = c.withDocuments (c.documents ++ [u.replacement])) := by
  rw [bulkUpsert, outcome_upsertAll_cons, outcome_upsertOne] at h
  cases hplace : Filter.first? u.filter c.documents with
  | error e =>
    rw [hplace] at h
    cases h
  | ok place =>
    rw [hplace] at h
    cases place with
    | some p =>
      cases h
      exact .inl ⟨p, rfl, by simp, rfl⟩
    | none =>
      cases hnew : c.checkNew u.replacement with
      | error e =>
        simp only [hnew] at h
        cases h
      | ok _ =>
        simp only [hnew] at h
        cases h
        exact .inr ⟨rfl, rfl, rfl, rfl⟩

/-- An upsert that fails changes nothing: its filter is at fault, or nothing matches and its
document is not new. -/
theorem upsert_eq_error_iff {e : StorageError} :
    (bulkUpsert [u]).outcome c = (.error e, left) ↔
      left = c ∧ (Filter.first? u.filter c.documents = .error e ∨
        Filter.first? u.filter c.documents = .ok none ∧ c.checkNew u.replacement = .error e) := by
  rw [bulkUpsert, outcome_upsertAll_cons, outcome_upsertOne]
  cases Filter.first? u.filter c.documents with
  | error e' => simp [eq_comm, and_comm]
  | ok place =>
    cases place with
    | some p => simp
    | none => cases c.checkNew u.replacement <;> simp [eq_comm, and_comm]

/-! ### Batches -/

/-- What a batch that succeeds has counted and done to a list of documents. -/
structure Upserted (us : List Upsert) (r : UpsertSummary) (old new : List Document) : Prop where
  /-- Every upsert is counted once. -/
  counted : r.matched + r.upserted = us.length
  /-- Only a document that was found can have been changed. -/
  modified_le : r.modified ≤ r.matched
  /-- There are as many further documents as were counted. -/
  length : new.length = old.length + r.upserted
  /-- Every place holds the document that it held, or that of an upsert. -/
  places : ∀ i : Nat, new[i]? = old[i]? ∨ ∃ u ∈ us, new[i]? = some u.replacement

namespace Upserted

theorem nil (ds : List Document) : Upserted [] {} ds ds where
  counted := rfl
  modified_le := Nat.le_refl _
  length := rfl
  places _ := .inl rfl

theorem single (h : (bulkUpsert [u]).outcome c = (.ok r, left)) :
    Upserted [u] r c.documents left.documents := by
  obtain ⟨p, hp, rfl, rfl⟩ | ⟨-, -, rfl, rfl⟩ := exists_of_upsert_ok h
  · have hsplit := (Filter.first?_eq_some_iff.1 hp).1
    refine ⟨rfl, ?_, ?_, fun i => ?_⟩
    · dsimp only
      split <;> omega
    · rw [hsplit, documents_withDocuments, Filter.Place.replace]
      simp
    · rw [documents_withDocuments, Filter.Place.getElem?_replace, ← hsplit]
      by_cases hi : i = p.before.length
      · rw [if_pos hi]
        exact .inr ⟨u, List.mem_singleton_self u, rfl⟩
      · rw [if_neg hi]
        exact .inl rfl
  · refine ⟨rfl, Nat.le_refl _, ?_, fun i => ?_⟩
    · rw [documents_withDocuments, List.length_append, List.length_singleton]
    · rw [documents_withDocuments]
      obtain hi | hi | hi := Nat.lt_trichotomy i c.documents.length
      · exact .inl (List.getElem?_append_left hi)
      · subst hi
        exact .inr ⟨u, List.mem_singleton_self u, List.getElem?_concat_length⟩
      · have hlength : (c.documents ++ [u.replacement]).length ≤ i := by
          rw [List.length_append]
          exact hi
        exact .inl (by rw [List.getElem?_eq_none hlength, List.getElem?_eq_none (Nat.le_of_lt hi)])

theorem append {others : List Upsert} {s : UpsertSummary} {ds es fs : List Document}
    (h : Upserted us r ds es) (h' : Upserted others s es fs) :
    Upserted (us ++ others) (r.add s) ds fs where
  counted := by
    have hcounted := h.counted
    have hcounted' := h'.counted
    rw [List.length_append]
    simp only [UpsertSummary.add]
    omega
  modified_le := Nat.add_le_add h.modified_le h'.modified_le
  length := by
    rw [h'.length, h.length, Nat.add_assoc]
    rfl
  places i := by
    obtain hi | ⟨u, hu, hi⟩ := h'.places i
    · rw [hi]
      obtain hi | ⟨u, hu, hi⟩ := h.places i
      · exact .inl hi
      · exact .inr ⟨u, List.mem_append_left others hu, hi⟩
    · exact .inr ⟨u, List.mem_append_right us hu, hi⟩

end Upserted

theorem withDocuments_of_upsert_ok (h : (bulkUpsert [u]).outcome c = (.ok r, left)) :
    left = c.withDocuments left.documents := by
  obtain ⟨p, -, -, rfl⟩ | ⟨-, -, -, rfl⟩ := exists_of_upsert_ok h <;> rfl

/-- A batch that succeeds has done nothing else. -/
theorem upserted_of_ok (h : (bulkUpsert us).outcome c = (.ok r, left)) :
    left = c.withDocuments left.documents ∧ Upserted us r c.documents left.documents := by
  induction us generalizing c r with
  | nil =>
    rw [outcome_bulkUpsert_nil] at h
    cases h
    exact ⟨rfl, .nil _⟩
  | cons u rest ih =>
    rw [outcome_bulkUpsert_cons] at h
    rcases hfirst : (bulkUpsert [u]).outcome c with ⟨_ | s, mid⟩
    · rw [hfirst] at h
      cases h
    · rw [hfirst] at h
      simp only at h
      rcases hrest : (bulkUpsert rest).outcome mid with ⟨_ | t, last⟩
      · rw [hrest] at h
        cases h
      · rw [hrest] at h
        cases h
        obtain ⟨hlast, hdone⟩ := ih hrest
        refine ⟨?_, (Upserted.single hfirst).append hdone⟩
        rw [hlast, withDocuments_of_upsert_ok hfirst]
        rfl

/-- A batch that fails has performed the upserts before the one that fails. -/
theorem exists_of_error {e : StorageError} (h : (bulkUpsert us).outcome c = (.error e, left)) :
    ∃ before u after r, us = before ++ u :: after ∧
      (bulkUpsert before).outcome c = (.ok r, left) ∧
      (bulkUpsert [u]).outcome left = (.error e, left) := by
  induction us generalizing c with
  | nil => cases h
  | cons u rest ih =>
    rw [outcome_bulkUpsert_cons] at h
    rcases hfirst : (bulkUpsert [u]).outcome c with ⟨_ | s, mid⟩
    · rw [hfirst] at h
      cases h
      obtain ⟨rfl, -⟩ := upsert_eq_error_iff.1 hfirst
      exact ⟨[], u, rest, {}, rfl, rfl, hfirst⟩
    · rw [hfirst] at h
      simp only at h
      rcases hrest : (bulkUpsert rest).outcome mid with ⟨_ | t, last⟩
      · rw [hrest] at h
        cases h
        obtain ⟨before, v, after, r, rfl, hbefore, hv⟩ := ih hrest
        refine ⟨u :: before, v, after, s.add r, rfl, ?_, hv⟩
        rw [outcome_bulkUpsert_cons, hfirst]
        simp only [hbefore]
        rfl
      · rw [hrest] at h
        cases h

/-- **Batches of upserts.** A batch in two parts does what the first part does and then, if that
succeeded, what the second does, and it counts what they count together. A batch that succeeds
counts every upsert as one that found a document or as one that added one. Every document keeps
its place or gives it to that of an upsert, and those that are added stand at the end. A batch
that fails leaves what the upserts before the one that fails have left. -/
theorem bulkUpsert_in_order (c : Collection) (us : List Upsert) :
    (∀ others, (bulkUpsert (us ++ others)).outcome c =
      match (bulkUpsert us).outcome c with
      | (.error e, left) => (.error e, left)
      | (.ok r, left) =>
        (((bulkUpsert others).outcome left).1.map r.add,
          ((bulkUpsert others).outcome left).2)) ∧
    match (bulkUpsert us).outcome c with
    | (.ok r, left) =>
      left = c.withDocuments left.documents ∧ Upserted us r c.documents left.documents
    | (.error e, left) =>
      ∃ before u after r, us = before ++ u :: after ∧
        (bulkUpsert before).outcome c = (.ok r, left) ∧
        (Filter.first? u.filter left.documents = .error e ∨
          Filter.first? u.filter left.documents = .ok none ∧
            left.checkNew u.replacement = .error e) := by
  refine ⟨outcome_bulkUpsert_append c us, ?_⟩
  rcases h : (bulkUpsert us).outcome c with ⟨e | r, left⟩
  · obtain ⟨before, u, after, r, hsplit, hbefore, hu⟩ := exists_of_error h
    exact ⟨before, u, after, r, hsplit, hbefore, (upsert_eq_error_iff.1 hu).2⟩
  · exact upserted_of_ok h

end Collection

end RecordStore
