import RecordStore.Proofs.Collection
/-!
# Deletion of all matching documents

A deletion of all that match counts what a count would, and keeps the rest in order. It takes
the documents out before it looks at them, however, so a fault of the filter leaves the
collection empty. Whether it keeps its promise in both cases, `Collection.DeletesExactly`, is
therefore the question whether the filter can be evaluated on every document
(`Collection.deletesExactly_iff_decides`).

## Main definitions

* `Collection.DeletesExactly`: success removes what matches, failure removes nothing.
-/

namespace RecordStore

namespace Collection

variable {c : Collection} {filter : Document}

/-- A deletion that succeeds answers with the count of what matches and removes exactly that;
one that fails keeps all documents. -/
def DeletesExactly (c : Collection) (filter : Document) : Prop :=
  match (deleteMany filter).outcome c with
  | (.ok n, left) =>
    ((count filter).outcome c).1 = .ok n ∧
      left = c.withDocuments (c.documents.filter (!Filter.accepts filter ·))
  | (.error _, left) => left.documents = c.documents

/-- A deletion succeeds with the answer of a count, and keeps what does not match. -/
theorem outcome_deleteMany_of_decides (h : ∀ d ∈ c.documents, Filter.Decides filter d) :
    (deleteMany filter).outcome c =
      (.ok (c.documents.countP (Filter.accepts filter)),
        c.withDocuments (c.documents.filter (!Filter.accepts filter ·))) := by
  rw [outcome_deleteMany, Filter.firstFault?_eq_none_iff.2 h]

theorem outcome_count_of_decides (h : ∀ d ∈ c.documents, Filter.Decides filter d) :
    (count filter).outcome c = (.ok (c.documents.countP (Filter.accepts filter)), c) := by
  rw [outcome_count, Filter.select_eq, Filter.firstFault?_eq_none_iff.2 h,
    List.countP_eq_length_filter]
  rfl

/-- A deletion fails with the fault that a count fails with, and leaves no document. -/
theorem outcome_deleteMany_of_fault {e : StorageError}
    (h : Filter.firstFault? filter c.documents = some e) :
    (deleteMany filter).outcome c = (.error e, c.withDocuments []) ∧
      (count filter).outcome c = (.error e, c) := by
  rw [outcome_deleteMany, outcome_count, Filter.select_eq, h]
  exact ⟨rfl, rfl⟩

theorem documents_ne_nil_of_fault {e : StorageError}
    (h : Filter.firstFault? filter c.documents = some e) : c.documents ≠ [] := by
  intro hnil
  rw [hnil] at h
  cases h

/-- **Deletion of all that match.** A success is the answer of a count and removes exactly the
documents that match. A failure is the failure of a count and removes every document, of which
there is one at least. So the deletion does what it should if and only if the filter can be
evaluated on every document. -/
theorem deletesExactly_iff_decides (c : Collection) (filter : Document) :
    (∀ n left, (deleteMany filter).outcome c = (.ok n, left) →
      ((count filter).outcome c).1 = .ok n ∧
        left = c.withDocuments (c.documents.filter (!Filter.accepts filter ·))) ∧
    (∀ e left, (deleteMany filter).outcome c = (.error e, left) →
      ((count filter).outcome c).1 = .error e ∧
        c.documents ≠ [] ∧ left = c.withDocuments []) ∧
    (DeletesExactly c filter ↔ ∀ d ∈ c.documents, Filter.Decides filter d) := by
  cases hfault : Filter.firstFault? filter c.documents with
  | none =>
    have hdecides := Filter.firstFault?_eq_none_iff.1 hfault
    have hcount := congrArg Prod.fst (outcome_count_of_decides hdecides)
    refine ⟨fun n left h => ?_, fun e left h => ?_, ?_⟩
    · rw [outcome_deleteMany_of_decides hdecides] at h
      cases h
      exact ⟨hcount, rfl⟩
    · rw [outcome_deleteMany_of_decides hdecides] at h
      cases h
    · rw [DeletesExactly, outcome_deleteMany_of_decides hdecides]
      exact ⟨fun _ => hdecides, fun _ => ⟨hcount, rfl⟩⟩
  | some e =>
    obtain ⟨hdelete, hcount⟩ := outcome_deleteMany_of_fault hfault
    have hsome := documents_ne_nil_of_fault hfault
    refine ⟨fun n left h => ?_, fun e' left h => ?_, ?_⟩
    · rw [hdelete] at h
      cases h
    · rw [hdelete] at h
      cases h
      exact ⟨congrArg Prod.fst hcount, hsome, rfl⟩
    · rw [DeletesExactly, hdelete]
      refine ⟨fun h => absurd h.symm hsome, fun h => ?_⟩
      rw [Filter.firstFault?_eq_none_iff.2 h] at hfault
      cases hfault

/-- An unknown operator makes a deletion lose the document it cannot decide on. -/
theorem not_deletesExactly_of_unknown_operator :
    ¬ DeletesExactly ⟨{ documents := [[("id", .string "1")]] }, "c", "id"⟩
      [("id", .document [("$gt", .int32 0)])] := by
  intro h
  cases h

end Collection

end RecordStore
