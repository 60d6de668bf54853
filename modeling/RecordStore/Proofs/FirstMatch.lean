import RecordStore.Proofs.Collection
/-!
# First matches

The requests that stop at the first document that matches see what a scan of the whole collection
sees first. That they stop early hides no error: a filter that matches one document can be
evaluated on all of them, so the scan fails on none of the documents that were not looked at.

## Main results

* `Filter.first?_of_select_cons`: the place of the first document that is selected.
* `Collection.first_match_agrees`: requests for one document against the scan.
-/

namespace RecordStore

namespace Filter

variable {filter d : Document} {ds rest : List Document}

theorem test_eq_false_iff (h : Decides filter d) :
    test d filter = .ok false ↔ ¬ accepts filter d = true := by
  obtain ⟨found, hfound⟩ := h
  rw [accepts, hfound]
  cases found <;> simp

theorem first?_of_select_error {e : StorageError} (h : select filter ds = .error e) :
    first? filter ds = .error e :=
  first?_eq_error_iff.2 (select_eq_error_iff.1 h)

theorem first?_of_select_nil (h : select filter ds = .ok []) : first? filter ds = .ok none := by
  obtain ⟨hfault, hfilter⟩ := select_eq_ok_iff.1 h
  refine first?_eq_none_iff.2 fun d hd => ?_
  rw [test_eq_false_iff (firstFault?_eq_none_iff.1 hfault d hd)]
  exact List.filter_eq_nil_iff.1 hfilter d hd

/-- The first document that is selected stands in the place that the search for a match finds:
nothing before it is selected, and the rest of the selection stands behind it. -/
theorem first?_of_select_cons (h : select filter ds = .ok (d :: rest)) :
    ∃ before after, first? filter ds = .ok (some ⟨before, d, after⟩) ∧
      ds = before ++ d :: after ∧ select filter before = .ok [] ∧
      select filter after = .ok rest := by
  obtain ⟨-, hfilter⟩ := select_eq_ok_iff.1 h
  obtain ⟨before, after, hsplit, hbefore, hd, hafter⟩ := List.filter_eq_cons_iff.1 hfilter
  -- a match decides the filter on every document, so no part of the list is at fault
  have hfault : ∀ es, firstFault? filter es = none := fun es =>
    firstFault?_eq_none_iff.2 fun x _ => decides_of_accepts hd x
  refine ⟨before, after, ?_, hsplit, ?_, ?_⟩
  · refine first?_eq_some_iff.2 ⟨hsplit, hd, fun x hx => ?_⟩
    exact Bool.eq_false_iff.2 (hbefore x hx)
  · exact select_eq_ok_iff.2 ⟨hfault before, List.filter_eq_nil_iff.2 hbefore⟩
  · exact select_eq_ok_iff.2 ⟨hfault after, hafter⟩

/-- The search for a match answers with the head of the selection. -/
theorem map_document_first? (filter : Document) (ds : List Document) :
    (first? filter ds).map (Option.map Place.document) =
      (select filter ds).map List.head? := by
  cases h : select filter ds with
  | error e =>
    rw [first?_of_select_error h]
    rfl
  | ok selected =>
    cases selected with
    | nil =>
      rw [first?_of_select_nil h]
      rfl
    | cons d rest =>
      obtain ⟨before, after, hfirst, -⟩ := first?_of_select_cons h
      rw [hfirst]
      rfl

end Filter

namespace Collection

/-- A scan without options is a selection. -/
theorem outcome_find_plain (c : Collection) (filter : Document) :
    (find filter {}).outcome c = (Filter.select filter c.documents, c) := by
  rw [outcome_find]
  cases Filter.select filter c.documents <;> rfl

/-- **First matches.** Looking for one document answers with the first of a scan, or fails as the
scan does. Where the scan fails, changing and deleting one document fail with the same error and
nothing changes; where it finds nothing, they count nothing and nothing changes. Otherwise the
first document of the scan has no match before it, and it is the one that is changed, or that is
taken out from between the others. -/
theorem first_match_agrees (c : Collection) (filter fields : Document) :
    (findOne filter).outcome c = (((find filter {}).outcome c).1.map List.head?, c) ∧
    match ((find filter {}).outcome c).1 with
    | .error e =>
      (updateOne filter [("$set", .document fields)]).outcome c = (.error e, c) ∧
        (deleteOne filter).outcome c = (.error e, c)
    | .ok [] =>
      (updateOne filter [("$set", .document fields)]).outcome c = (.ok ⟨0, 0⟩, c) ∧
        (deleteOne filter).outcome c = (.ok 0, c)
    | .ok (d :: rest) =>
      ∃ before after, c.documents = before ++ d :: after ∧
        ((find filter {}).outcome (c.withDocuments before)).1 = .ok [] ∧
        ((find filter {}).outcome (c.withDocuments after)).1 = .ok rest ∧
        (updateOne filter [("$set", .document fields)]).outcome c =
          (.ok ⟨1, if (Update.apply fields d).2 then 1 else 0⟩,
            c.withDocuments (before ++ (Update.apply fields d).1 :: after)) ∧
        (deleteOne filter).outcome c = (.ok 1, c.withDocuments (before ++ after)) := by
  have hchanges : Update.changes [("$set", .document fields)] = .ok fields := rfl
  simp only [outcome_find_plain, outcome_findOne, outcome_updateOne, outcome_deleteOne, hchanges,
    Filter.map_document_first?, documents_withDocuments, true_and]
  cases h : Filter.select filter c.documents with
  | error e =>
    rw [Filter.first?_of_select_error h]
    exact ⟨rfl, rfl⟩
  | ok selected =>
    cases selected with
    | nil =>
      rw [Filter.first?_of_select_nil h]
      exact ⟨rfl, rfl⟩
    | cons d rest =>
      obtain ⟨before, after, hfirst, hsplit, hbefore, hafter⟩ := Filter.first?_of_select_cons h
      rw [hfirst]
      refine ⟨before, after, hsplit, hbefore, hafter, ?_, rfl⟩
      simp [Update.tally, Filter.Place.replace]

end Collection

end RecordStore
