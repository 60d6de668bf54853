import RecordStore.Proofs.Clauses
import RecordStore.Proofs.Columns
/-!
# Priority of the fields to sort by

The fields to sort by are given by priority, the first before the others, and a field may be
given again; then its later entry never matters, because the earlier one has already compared the
same values. The pipeline of a search keeps each field once, in the place of its first entry but
with the direction of its last one. So documents are sorted by priority exactly if no field is
given one direction first and the other last.

## Main definitions

* `SortEntry.key`: a field to sort by as a key.
* `SortEntry.EndsAgree`: the first and the last entry of every field have the same direction.

## Main results

* `SortEntry.lexicographic_firsts`: later entries of a field do not matter.
* `Criteria.sorts_by_priority_iff`: when a search sorts by priority.
-/

namespace RecordStore

attribute [ext] SortEntry

namespace SortEntry

/-- The key that an entry stands for. -/
def key (e : SortEntry) : SortKey :=
  ⟨e.field, e.direction == .descending⟩

/-- The first and the last entry of every field have the same direction. -/
def EndsAgree (entries : List SortEntry) : Prop :=
  ∀ name, (entries.find? fun e => e.field == name) = entries.reverse.find? fun e => e.field == name

/-- The fields to sort by, each once: in the place and with the direction of its first entry. -/
def firsts (entries : List SortEntry) : List SortEntry :=
  (entries.map field).eraseDups.filterMap fun name => entries.find? fun e => e.field == name

theorem collapse_eq_firsts {entries : List SortEntry} (h : EndsAgree entries) :
    collapse entries = firsts entries :=
  List.filterMap_congr fun name _ => (h name).symm

theorem find?_field_eq_none_iff {entries : List SortEntry} {name : String} :
    (entries.find? fun e => e.field == name) = none ↔ name ∉ entries.map field := by
  simp

/-- A further entry counts only if its field has none yet. -/
theorem firsts_append_singleton (entries : List SortEntry) (e : SortEntry) :
    firsts (entries ++ [e]) =
      if e.field ∈ entries.map field then firsts entries else firsts entries ++ [e] := by
  -- the entries there were are found before the further one
  have hold : (entries.map field).eraseDups.filterMap
      (fun name => (entries ++ [e]).find? fun e' => e'.field == name) = firsts entries := by
    refine List.filterMap_congr fun name hname => ?_
    rw [List.find?_append]
    cases hfound : entries.find? fun e' => e'.field == name with
    | none => exact absurd (List.mem_eraseDups.1 hname) (find?_field_eq_none_iff.1 hfound)
    | some first => rfl
  rw [firsts, List.map_append, List.eraseDups_append, List.filterMap_append, hold]
  by_cases he : e.field ∈ entries.map field
  · have hnone : ([e].map field).removeAll (entries.map field) = [] := by
      simpa [List.removeAll] using he
    rw [hnone, if_pos he, List.eraseDups_nil, List.filterMap_nil, List.append_nil]
  · have hnew : ([e].map field).removeAll (entries.map field) = [e.field] := by
      simpa [List.removeAll] using he
    have hfound : ((entries ++ [e]).find? fun e' => e'.field == e.field) = some e := by
      rw [List.find?_append, find?_field_eq_none_iff.2 he]
      simp
    rw [hnew, if_neg he, List.eraseDups_cons, List.filterMap_cons, hfound]
    rfl

/-- An entry sees no difference between documents that an entry of its field has not told
apart. -/
theorem scale_key_of_mem {entries : List SortEntry} {e : SortEntry} {a b : Document}
    (hfield : e.field ∈ entries.map field)
    (htie : SortKey.lexicographic (entries.map key) a b = .eq) : e.key.scale a b = .eq := by
  obtain ⟨e', he', hname⟩ := List.mem_map.1 hfield
  have hscale := SortKey.lexicographic_eq_eq_iff.1 htie e'.key (List.mem_map_of_mem he')
  rw [SortKey.scale_eq_eq_iff, show e'.key.field = e.key.field from hname] at hscale
  exact SortKey.scale_eq_eq_iff.2 hscale

/-- Later entries of a field do not matter. -/
theorem lexicographic_firsts (entries : List SortEntry) (a b : Document) :
    SortKey.lexicographic ((firsts entries).map key) a b =
      SortKey.lexicographic (entries.map key) a b := by
  induction entries using List.reverseRecOn with
  | nil => rfl
  | append_singleton entries e ih =>
    rw [firsts_append_singleton, List.map_append, SortKey.lexicographic_append]
    by_cases he : e.field ∈ entries.map field
    · rw [if_pos he, ih]
      cases htie : SortKey.lexicographic (entries.map key) a b with
      | eq => rw [Ordering.eq_then, List.map_singleton, SortKey.lexicographic_cons,
          scale_key_of_mem he htie]; rfl
      | lt => rfl
      | gt => rfl
    · rw [if_neg he, List.map_append, SortKey.lexicographic_append, ih]

/-! ### What is kept of the entries -/

theorem find?_collapse (entries : List SortEntry) (name : String) :
    ((collapse entries).find? fun e => e.field == name) =
      entries.reverse.find? fun e => e.field == name := by
  refine Option.map_injective pair_injective ?_
  have hvalue := Document.get?_ofPairs (entries.map pair) name
  rw [ofPairs_map_pair, ← List.map_reverse] at hvalue
  rw [← lookup_map_pair, ← lookup_map_pair, ← hvalue]
  rfl

theorem mem_of_mem_collapse {entries : List SortEntry} {e : SortEntry}
    (h : e ∈ collapse entries) : e ∈ entries := by
  obtain ⟨name, -, hfound⟩ := List.mem_filterMap.1 h
  exact List.mem_reverse.1 (List.mem_of_find?_eq_some hfound)

theorem ofDocument_map_pair (entries : List SortEntry) :
    SortKey.ofDocument (entries.map pair) = .ok (entries.map key) := by
  induction entries with
  | nil => rfl
  | cons e rest ih =>
    have hsign : (Double.ofInt e.direction.sign.toInt).belowZero =
        (e.direction == .descending) := by
      cases e.direction <;> decide +kernel
    rw [List.map_cons, pair, SortKey.ofDocument, Value.number?, ih]
    change Except.ok _ = _
    rw [hsign]
    rfl

/-! ### Directions that disagree -/

theorem scale_key_of_ne {e : SortEntry} {name : String} (h : e.field ≠ name) (v w : Value) :
    e.key.scale [(name, v)] [(name, w)] = .eq := by
  have hnone : ∀ u, Document.get? [(name, u)] e.field = none := fun u => by
    rw [Document.get?_cons, if_neg h]
    rfl
  rw [SortKey.scale_eq_eq_iff, key, hnone, hnone]
  rfl

theorem scale_key_of_eq {e : SortEntry} {name : String} (h : e.field = name) (v w : Value) :
    e.key.scale [(name, v)] [(name, w)] =
      if e.direction = .descending then Value.scale (some w) (some v)
      else Value.scale (some v) (some w) := by
  have hsome : ∀ u, Document.get? [(name, u)] e.field = some u := fun u => by
    rw [Document.get?_cons, if_pos h]
  simp only [SortKey.scale, key, hsome, beq_iff_eq]

/-- Documents that differ in one field are told apart by its first entry. -/
theorem lexicographic_of_single {entries : List SortEntry} {e : SortEntry} {name : String}
    (he : (entries.find? fun e => e.field == name) = some e) {v w : Value}
    (hne : e.key.scale [(name, v)] [(name, w)] ≠ .eq) :
    SortKey.lexicographic (entries.map key) [(name, v)] [(name, w)] =
      e.key.scale [(name, v)] [(name, w)] := by
  induction entries with
  | nil => cases he
  | cons e' rest ih =>
    rw [List.map_cons, SortKey.lexicographic_cons]
    rw [List.find?_cons] at he
    by_cases hfield : e'.field = name
    · rw [beq_iff_eq.2 hfield] at he
      obtain rfl := Option.some.inj he
      cases hscale : e'.key.scale [(name, v)] [(name, w)] with
      | eq => exact absurd hscale hne
      | lt => rfl
      | gt => rfl
    · rw [beq_eq_false_iff_ne.2 hfield] at he
      rw [scale_key_of_ne hfield, Ordering.eq_then]
      exact ih he

theorem exists_of_direction_ne {e e' : SortEntry} (hfield : e.field = e'.field)
    (hdirection : e.direction ≠ e'.direction) :
    ∃ v w : Bool, v ≠ w ∧
      e.key.scale [(e.field, .boolean v)] [(e.field, .boolean w)] = .lt ∧
      e'.key.scale [(e.field, .boolean v)] [(e.field, .boolean w)] = .gt := by
  cases he : e.direction <;> cases he' : e'.direction
  case ascending.descending =>
    refine ⟨false, true, by decide, ?_, ?_⟩
    · rw [scale_key_of_eq rfl, he]
      rfl
    · rw [scale_key_of_eq hfield.symm, he']
      rfl
  case descending.ascending =>
    refine ⟨true, false, by decide, ?_, ?_⟩
    · rw [scale_key_of_eq rfl, he]
      rfl
    · rw [scale_key_of_eq hfield.symm, he']
      rfl
  all_goals exact absurd (he.trans he'.symm) hdirection

theorem uniform_single (field name : String) (v w : Bool) :
    Document.Uniform field [[(name, .boolean v)], [(name, .boolean w)]] := by
  refine ⟨.truth, fun d hd u hu => ?_⟩
  obtain ⟨b, rfl⟩ : ∃ b, d = [(name, .boolean b)] := by
    simp only [List.mem_cons, List.not_mem_nil, or_false] at hd
    obtain rfl | rfl := hd
    · exact ⟨v, rfl⟩
    · exact ⟨w, rfl⟩
  rw [Document.get?_cons] at hu
  split at hu
  · obtain rfl := Option.some.inj hu
    rfl
  · cases hu

theorem exists_of_not_endsAgree {entries : List SortEntry} (h : ¬EndsAgree entries) :
    ∃ name e e', (entries.find? fun e => e.field == name) = some e ∧
      (entries.reverse.find? fun e => e.field == name) = some e' ∧ e.direction ≠ e'.direction := by
  obtain ⟨name, hname⟩ := Classical.not_forall.1 h
  have hnone : (entries.find? fun e => e.field == name) = none ↔
      (entries.reverse.find? fun e => e.field == name) = none := by
    rw [find?_field_eq_none_iff, find?_field_eq_none_iff, List.map_reverse, List.mem_reverse]
  cases hfirst : entries.find? fun e => e.field == name with
  | none => exact absurd (hfirst.trans (hnone.1 hfirst).symm) hname
  | some e =>
    cases hlast : entries.reverse.find? fun e => e.field == name with
    | none => exact absurd ((hnone.2 hlast).trans hlast.symm) hname
    | some e' =>
      refine ⟨name, e, e', hfirst, hlast, fun hdirection => hname ?_⟩
      have hfield : e.field = e'.field := by
        rw [show e.field = name by simpa using List.find?_some hfirst,
          show e'.field = name by simpa using List.find?_some hlast]
      rw [hfirst, hlast, Option.some_inj]
      exact SortEntry.ext hfield hdirection

/-- If the first and the last entry of a field disagree, two documents are sorted differently by
the entries and by what is kept of them. -/
theorem exists_stableSort_ne {entries : List SortEntry} {e e' : SortEntry} {name : String}
    (hfirst : (entries.find? fun e => e.field == name) = some e)
    (hlast : (entries.reverse.find? fun e => e.field == name) = some e')
    (hdirection : e.direction ≠ e'.direction) :
    ∃ ds, (∀ field, Document.Uniform field ds) ∧
      stableSort (SortKey.precedes (entries.map key)) ds ≠
        stableSort (SortKey.precedes ((collapse entries).map key)) ds := by
  have hname : e.field = name := by simpa using List.find?_some hfirst
  have hname' : e'.field = name := by simpa using List.find?_some hlast
  obtain ⟨v, w, hne, hlt, hgt⟩ := exists_of_direction_ne (hname.trans hname'.symm) hdirection
  rw [hname] at hlt hgt
  have hentries : SortKey.lexicographic (entries.map key) [(name, .boolean v)]
      [(name, .boolean w)] = .lt := by
    rw [lexicographic_of_single hfirst (by simp [hlt]), hlt]
  have hkept : SortKey.lexicographic ((collapse entries).map key) [(name, .boolean v)]
      [(name, .boolean w)] = .gt := by
    rw [lexicographic_of_single ((find?_collapse entries name).trans hlast) (by simp [hgt]), hgt]
  refine ⟨[[(name, .boolean v)], [(name, .boolean w)]], fun field => uniform_single field name v w,
    fun h => ?_⟩
  -- the entries leave the two documents as they are, and what is kept of them swaps them
  have hstay : SortKey.precedes (entries.map key) [(name, .boolean w)] [(name, .boolean v)] =
      false := by
    rw [SortKey.precedes, SortKey.lexicographic_swap, hentries]
    rfl
  have hswap : SortKey.precedes ((collapse entries).map key) [(name, .boolean w)]
      [(name, .boolean v)] = true := by
    rw [SortKey.precedes, SortKey.lexicographic_swap, hkept]
    rfl
  rw [stableSort_pair, stableSort_pair, hstay, hswap] at h
  simp [hne] at h

end SortEntry

namespace Criteria

/-- Columns of one kind are sorted by the fields in the places and directions that are kept. -/
theorem sortDocuments_directions {c : Criteria} {ds : List Document}
    (h : ∀ e ∈ c.sortEntries, Document.Uniform e.field ds) :
    sortDocuments c.directions ds = .ok (stableSort
      (SortKey.precedes ((SortEntry.collapse c.sortEntries).map SortEntry.key)) ds) := by
  have hkeys := SortEntry.ofDocument_map_pair (SortEntry.collapse c.sortEntries)
  rw [← directions_eq] at hkeys
  refine sortDocuments_eq_of_comparable hkeys fun k hk => ?_
  obtain ⟨e, he, rfl⟩ := List.mem_map.1 hk
  exact (h e (SortEntry.mem_of_mem_collapse he)).comparable

theorem get?_sort (c : Criteria) :
    Document.get? c.search "sort" =
      if c.sortEntries = [] then none else some (.document c.directions) := by
  unfold search
  cases c.sortEntries <;> rfl

/-- **Sorting by priority.** A search that is to be sorted says by which directions, and one that
is not says nothing. In columns of one kind these directions sort every list of documents as the
fields do by their priority, the only list that is stably sorted so, if and only if the first and
the last entry of every field have the same direction. -/
theorem sorts_by_priority_iff (c : Criteria) :
    ∃ search directions, Pipeline.search? c.pipeline = some search ∧
      search.get? "sort" =
        (if c.sortEntries = [] then none else some (.document directions)) ∧
      ((∀ ds, (∀ e ∈ c.sortEntries, Document.Uniform e.field ds) →
          ∃ sorted, sortDocuments directions ds = .ok sorted ∧
            ∀ other, StablySorted (SortKey.precedes (c.sortEntries.map SortEntry.key)) ds other ↔
              other = sorted) ↔
        SortEntry.EndsAgree c.sortEntries) := by
  refine ⟨c.search, c.directions, rfl, c.get?_sort, ?_, ?_⟩
  · intro h
    by_contra hends
    obtain ⟨name, e, e', hfirst, hlast, hdirection⟩ := SortEntry.exists_of_not_endsAgree hends
    obtain ⟨ds, huniform, hne⟩ := SortEntry.exists_stableSort_ne hfirst hlast hdirection
    have hds : ∀ e ∈ c.sortEntries, Document.Uniform e.field ds := fun e _ => huniform e.field
    obtain ⟨sorted, hsorted, hall⟩ := h ds hds
    obtain rfl := Except.ok.inj ((sortDocuments_directions hds).symm.trans hsorted)
    exact hne ((stablySorted_iff (SortKey.precedence_precedes _)).1 ((hall _).2 rfl)).symm
  · intro hends ds hds
    refine ⟨_, sortDocuments_directions hds, fun other => ?_⟩
    rw [stablySorted_iff (SortKey.precedence_precedes _), SortEntry.collapse_eq_firsts hends]
    have hless : SortKey.precedes ((SortEntry.firsts c.sortEntries).map SortEntry.key) =
        SortKey.precedes (c.sortEntries.map SortEntry.key) := by
      funext a b
      rw [SortKey.precedes, SortEntry.lexicographic_firsts, SortKey.precedes]
    rw [hless]

/-- A field that is to be sorted upwards, and downwards where that sees no difference, is sorted
downwards. -/
theorem sorts_against_priority :
    ∃ search directions, Pipeline.search?
        (((on "i").addSort "a" .ascending).addSort "a" .descending).pipeline = some search ∧
      search.get? "sort" = some (.document directions) ∧
      sortDocuments directions [[("a", .boolean false)], [("a", .boolean true)]] =
        .ok [[("a", .boolean true)], [("a", .boolean false)]] ∧
      ∀ other, StablySorted (SortKey.precedes [⟨"a", false⟩, ⟨"a", true⟩])
          [[("a", .boolean false)], [("a", .boolean true)]] other ↔
        other = [[("a", .boolean false)], [("a", .boolean true)]] := by
  have hkeys := SortEntry.ofDocument_map_pair [⟨"a", .descending⟩]
  refine ⟨_, _, rfl, rfl, ?_, fun other => stablySorted_iff (SortKey.precedence_precedes _)⟩
  rw [sortDocuments]
  change (SortKey.ofDocument ([⟨"a", .descending⟩].map SortEntry.pair) >>= _) = _
  rw [hkeys]
  rfl

end Criteria

end RecordStore
