import RecordStore.Proofs.Assignment
import RecordStore.Proofs.Run
/-!
# Updates of all matching documents

An update of all documents that match overwrites the fields of each of them, by what it is before
the update, and counts those for which a field is left to be set. If it fails nothing is changed,
although the documents are changed while the filter is still being tested: a filter that fails on
some document matches none, so there was nothing to change before.

## Main results

* `Collection.updateMany_exact`: what an update of all matching documents does.
-/

namespace RecordStore

namespace Collection

/-- **Updates of all matching documents.** An update that fails changes nothing; it fails for what
it is or for what a count fails with. One that succeeds counts as matching what a count counts,
keeps every document in its place, and leaves those alone that do not match before it. In each of
the others it overwrites the fields that the document does not have with an equal value, and it
counts those that have such a field. -/
theorem updateMany_exact (c : Collection) (filter update : Document) (hc : c.WellFormed)
    (hupdate : update.wellFormed = true) :
    match (updateMany filter update).outcome c with
    | (.error e, left) =>
      left = c ∧ (Update.changes update = .error e ∨ ((count filter).outcome c).1 = .error e)
    | (.ok result, left) =>
      ∃ fields, update = [("$set", .document fields)] ∧
        ((count filter).outcome c).1 = .ok result.matched ∧
        result.modified = c.documents.countP (fun d =>
          Filter.accepts filter d && !(Update.unmet fields d).isEmpty) ∧
        result.modified ≤ result.matched ∧
        left = c.withDocuments (c.documents.map fun d =>
          if Filter.accepts filter d then d.overwrite (Update.unmet fields d) else d) := by
  rw [outcome_updateMany, outcome_count, Filter.select_eq]
  cases hchanges : Update.changes update with
  | error e => exact ⟨rfl, .inl rfl⟩
  | ok fields =>
    have hfields := (Document.wellFormed_iff.1 (Update.wellFormed_changes hupdate hchanges)).1
    have happly : ∀ d ∈ c.documents, Update.apply fields d =
        (d.overwrite (Update.unmet fields d), !(Update.unmet fields d).isEmpty) := fun d hd =>
      Update.apply_eq hfields (Document.wellFormed_iff.1 (hc d hd)).1
    cases hfault : Filter.firstFault? filter c.documents with
    | some e => exact ⟨rfl, .inr rfl⟩
    | none =>
      have hmodified : (Update.countAll filter fields c.documents).modified =
          c.documents.countP (fun d =>
            Filter.accepts filter d && !(Update.unmet fields d).isEmpty) := by
        refine List.countP_congr fun d hd => ?_
        rw [happly d hd]
      have hmatched : c.documents.countP (Filter.accepts filter) =
          (c.documents.filter (Filter.accepts filter)).length := List.countP_eq_length_filter
      refine ⟨fields, Update.changes_eq_ok_iff.1 hchanges, ?_, hmodified, ?_, ?_⟩
      · exact congrArg Except.ok hmatched.symm
      · refine List.countP_mono_left fun d _ h => ?_
        exact (Bool.and_eq_true_iff.1 h).1
      · refine congrArg c.withDocuments (List.map_congr_left fun d hd => ?_)
        rw [Update.updated, happly d hd]

/-- Three documents with different values of one field. -/
def threeRows : Collection where
  documents := [[("id", .int32 1), ("a", .int32 1)],
    [("b", .int32 0), ("id", .int32 2), ("a", .int32 2)], [("id", .int32 3), ("a", .int32 3)]]
  name := "c"
  idField := "id"

/-- Two of the documents match, and one of these has the fields already. -/
theorem updateMany_exact_threeRows :
    threeRows.WellFormed ∧
      Document.wellFormed [("$set", .document [("a", .int32 2), ("b", .int32 0)])] = true ∧
      ∃ result left,
        (updateMany [("a", .document [("$in", .array [.int32 1, .int32 2])])]
          [("$set", .document [("a", .int32 2), ("b", .int32 0)])]).outcome threeRows =
            (.ok result, left) ∧
        ((count [("a", .document [("$in", .array [.int32 1, .int32 2])])]).outcome threeRows).1 =
          .ok result.matched ∧
        result.modified = 1 ∧ result.modified ≤ result.matched ∧
        left.documents = [[("id", .int32 1), ("a", .int32 2), ("b", .int32 0)],
          [("b", .int32 0), ("id", .int32 2), ("a", .int32 2)],
          [("id", .int32 3), ("a", .int32 3)]] := by
  have hwell : threeRows.WellFormed := by
    unfold WellFormed
    decide
  refine ⟨hwell, rfl, _, _, rfl, ?_⟩
  obtain ⟨fields, heq, hcount, hmodified, hle, hleft⟩ := updateMany_exact threeRows
    [("a", .document [("$in", .array [.int32 1, .int32 2])])]
    [("$set", .document [("a", .int32 2), ("b", .int32 0)])] hwell rfl
  cases heq
  exact ⟨hcount, hmodified, hle, congrArg (fun left => left.documents) hleft⟩

end Collection

end RecordStore
