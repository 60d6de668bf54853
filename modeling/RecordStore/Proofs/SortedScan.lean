import RecordStore.Proofs.Collection
import RecordStore.Proofs.Columns
/-!
# Sorted scans

A scan that is asked for an order compares documents by a list of keys. Where the values of every
key are comparable among the documents that match, this comparison is a lexicographic order, so
there is only one way to put these documents in order and leave those that are equal by all keys
as they were inserted. The scan answers with this list, or with the part of it that the options
ask for.

## Main definitions

* `SortKey.ofDirection`: the key of one direction.

## Main results

* `Collection.getElem?_cut`: the part of a list that options ask for.
* `Collection.find_sorted`: what a scan in order answers.
-/

namespace RecordStore

/-- The key of a direction, which descends if the direction is a negative number. -/
def SortKey.ofDirection (direction : String × Value) : SortKey :=
  ⟨direction.1, direction.2.number?.any Double.belowZero⟩

/-- Directions that are all numbers describe a key each. -/
theorem SortKey.ofDocument_eq {directions : Document}
    (h : ∀ p ∈ directions, p.2.number?.isSome = true) :
    ofDocument directions = .ok (directions.map ofDirection) := by
  induction directions with
  | nil => rfl
  | cons p rest ih =>
    obtain ⟨hp, hrest⟩ := List.forall_mem_cons.1 h
    obtain ⟨field, direction⟩ := p
    obtain ⟨d, hd⟩ := Option.isSome_iff_exists.1 hp
    have hkey : ofDirection (field, direction) = ⟨field, d.belowZero⟩ := by
      simp only [ofDirection, hd, Option.any_some]
    simp only [ofDocument, hd, ih hrest, List.map_cons, hkey]
    rfl

namespace Collection

/-- Options keep what stands from the number on that is to be left out, and below the limit. -/
theorem getElem?_cut {options : FindOptions} {ds : List Document} {i : Nat} {d : Document} :
    (cut options ds)[i]? = some d ↔
      ds[(options.skip.map UInt64.toNat).getD 0 + i]? = some d ∧
        ∀ limit, options.limit = some limit → 0 ≤ limit → (i : Int) < limit.toInt := by
  rw [cut]
  cases hlimit : options.limit with
  | none => simp
  | some limit =>
    simp only [Option.some_inj, forall_eq']
    by_cases hneg : limit < 0
    · have hnot : ¬ 0 ≤ limit := Int64.not_le.2 hneg
      rw [if_pos hneg, List.getElem?_drop]
      exact ⟨fun h => ⟨h, fun hpos => absurd hpos hnot⟩, And.left⟩
    · have hpos : 0 ≤ limit := Int64.not_lt.1 hneg
      have hbelow : i < limit.toInt.toNat ↔ (i : Int) < limit.toInt := by omega
      rw [if_neg hneg, List.getElem?_take, List.getElem?_drop, ← hbelow]
      by_cases hi : i < limit.toInt.toNat
      · rw [if_pos hi]
        exact ⟨fun h => ⟨h, fun _ => hi⟩, And.left⟩
      · rw [if_neg hi]
        exact ⟨nofun, fun h => absurd (h.2 hpos) hi⟩

/-- Where the columns of the documents that match are comparable, a scan in order sorts by the
scales. -/
theorem outcome_find_of_comparable {c : Collection} {filter directions : Document}
    (hdirections : ∀ p ∈ directions, p.2.number?.isSome = true)
    (hcolumns : ∀ p ∈ directions,
      Document.Comparable p.1 (c.documents.filter (Filter.accepts filter)))
    (hdecides : Filter.firstFault? filter c.documents = none) (options : FindOptions)
    (hsort : options.sort = some directions) :
    (find filter options).outcome c =
      (.ok (cut options (stableSort (SortKey.precedes (directions.map SortKey.ofDirection))
        (c.documents.filter (Filter.accepts filter)))), c) := by
  have hkeys : ∀ k ∈ directions.map SortKey.ofDirection,
      Document.Comparable k.field (c.documents.filter (Filter.accepts filter)) := by
    intro k hk
    obtain ⟨p, hp, rfl⟩ := List.mem_map.1 hk
    exact hcolumns p hp
  have hsorted := sortDocuments_eq_of_comparable (SortKey.ofDocument_eq hdirections) hkeys
  rw [outcome_find, Filter.select_eq, hdecides, hsort]
  simp only [bind, Except.bind, hsorted]
  rfl

/-- **Scans in order.** If all directions are numbers, and the documents that match have comparable
values in each of their fields, there is one list of these documents in which none stands before
another that it follows by the keys, and those that are equal by all keys stand as they were
inserted. A scan that is asked for the order alone answers with this list, and one that is also
asked to leave out and to limit answers with the documents from the one number on and below the
other. -/
theorem find_sorted {c : Collection} {filter directions : Document}
    (hdirections : ∀ p ∈ directions, p.2.number?.isSome = true)
    (hcolumns : ∀ p ∈ directions,
      Document.Comparable p.1 (c.documents.filter (Filter.accepts filter))) :
    match Filter.firstFault? filter c.documents with
    | some e => ∀ options, (find filter options).outcome c = (.error e, c)
    | none => ∃ sorted,
      (∀ other, StablySorted (SortKey.precedes (directions.map SortKey.ofDirection))
        (c.documents.filter (Filter.accepts filter)) other ↔ other = sorted) ∧
      (find filter { sort := some directions }).outcome c = (.ok sorted, c) ∧
      ∀ options : FindOptions, options.sort = some directions →
        ∃ page, (find filter options).outcome c = (.ok page, c) ∧
          ∀ (i : Nat) (d : Document), page[i]? = some d ↔
            sorted[(options.skip.map UInt64.toNat).getD 0 + i]? = some d ∧
              ∀ limit, options.limit = some limit → 0 ≤ limit → (i : Int) < limit.toInt := by
  cases hfault : Filter.firstFault? filter c.documents with
  | some e =>
    intro options
    rw [outcome_find, Filter.select_eq, hfault]
    rfl
  | none =>
    have hfind := outcome_find_of_comparable hdirections hcolumns hfault
    refine ⟨_, fun other => stablySorted_iff (SortKey.precedence_precedes _), hfind _ rfl, ?_⟩
    intro options hsort
    exact ⟨_, hfind options hsort, fun i d => getElem?_cut⟩

/-- Documents with numbers of all types, one of which has none, and two of which are equal by both
keys. -/
theorem find_sorted_of_mixed_numbers :
    ∃ (c : Collection) (directions : Document),
      c.documents = [[("id", .string "1"), ("s", .string "b"), ("a", .int32 2)],
        [("id", .string "2"), ("s", .string "b")],
        [("id", .string "3"), ("s", .string "a"), ("a", .double ⟨0x3FF8000000000000⟩)],
        [("id", .string "4"), ("s", .string "b"), ("a", .int64 2)]] ∧
      directions = [("s", .int32 1), ("a", .int64 (-1))] ∧
      (∀ p ∈ directions, p.2.number?.isSome = true) ∧
      (∀ p ∈ directions, Document.Comparable p.1 (c.documents.filter (Filter.accepts []))) ∧
      ∃ sorted, (∀ other, StablySorted (SortKey.precedes (directions.map SortKey.ofDirection))
          (c.documents.filter (Filter.accepts [])) other ↔ other = sorted) ∧
        sorted.map (fun d => (d.get? "id").map Value.letters) =
          [some "3", some "1", some "4", some "2"] := by
  have hdirections : ∀ p ∈ ([("s", .int32 1), ("a", .int64 (-1))] : Document),
      p.2.number?.isSome = true := by decide
  let c : Collection :=
    { name := "c", idField := "id"
      documents := [[("id", .string "1"), ("s", .string "b"), ("a", .int32 2)],
        [("id", .string "2"), ("s", .string "b")],
        [("id", .string "3"), ("s", .string "a"), ("a", .double ⟨0x3FF8000000000000⟩)],
        [("id", .string "4"), ("s", .string "b"), ("a", .int64 2)]] }
  have hcolumns : ∀ p ∈ ([("s", .int32 1), ("a", .int64 (-1))] : Document),
      Document.Comparable p.1 (c.documents.filter (Filter.accepts [])) := by
    have htext : ∀ d ∈ c.documents.filter (Filter.accepts []), ∀ v ∈ d.get? "s",
        v.kind? = some .text := by decide
    have hnumber : ∀ d ∈ c.documents.filter (Filter.accepts []), ∀ v ∈ d.get? "a",
        v.kind? = some .number := by decide
    exact List.forall_mem_cons.2 ⟨⟨_, htext⟩, List.forall_mem_singleton.2 ⟨_, hnumber⟩⟩
  obtain ⟨sorted, honly, hplain, -⟩ := find_sorted hdirections hcolumns
  have hsorted : ((find [] { sort := some [("s", .int32 1), ("a", .int64 (-1))] }).outcome c).1.map
      (List.map fun d => (d.get? "id").map Value.letters) =
        .ok [some "3", some "1", some "4", some "2"] := by decide +kernel
  rw [hplain] at hsorted
  exact ⟨c, _, rfl, rfl, hdirections, hcolumns, sorted, honly, Except.ok.inj hsorted⟩

end Collection

end RecordStore
