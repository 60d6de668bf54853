import RecordStore.Criteria.Pipeline
import RecordStore.Proofs.Pairs
/-!
# What the pipeline of a search keeps

Two descriptions of a search have the same pipeline if and only if they agree on everything that
a search can show: the index, the free text with its fields, the filters of each kind in their
order, the order of the results and the limit. What is lost is little. Fields for a free text
count only if there is one, and the text only if there are fields for it; a limit that is not
positive is none; a field to sort by that is named again keeps its first place and takes the last
direction.

A description is made by calls of the builders in any order, and each call shows in the one list
or setting that it is about. So two lists of calls are compiled alike exactly if what each kind of
call says agrees.

## Main definitions

* `SortEntry.collapse`: each field to sort by once.
* `Criteria.SameText`, `Criteria.SameSearch`: descriptions that ask for the same.
* `Criteria.Call`, `Criteria.applyAll`: calls of the builders.

## Main results

* `Criteria.pipeline_eq_iff`: descriptions with the same pipeline.
* `Criteria.applyAll_eq`: the description that calls make.
* `Criteria.pipeline_applyAll_eq_iff`: calls that are compiled alike.
-/

namespace RecordStore

/-! ### Clauses -/

/-- A list of images in front of entries that are none can be told from them. -/
theorem map_append_eq_iff {α β : Type} {f : α → β} (hf : Function.Injective f) {as bs : List α}
    {xs ys : List β} (hxs : ∀ x ∈ xs, ∀ a, f a ≠ x) (hys : ∀ y ∈ ys, ∀ a, f a ≠ y) :
    as.map f ++ xs = bs.map f ++ ys ↔ as = bs ∧ xs = ys := by
  induction as generalizing bs with
  | nil =>
    cases bs with
    | nil => simp
    | cons b bs =>
      refine iff_of_false (fun h => ?_) (by simp)
      have h : xs = f b :: (bs.map f ++ ys) := h
      exact hxs (f b) (h ▸ List.mem_cons_self) b rfl
  | cons a as ih =>
    cases bs with
    | nil =>
      refine iff_of_false (fun h => ?_) (by simp)
      have h : f a :: (as.map f ++ xs) = ys := h
      exact hys (f a) (h ▸ List.mem_cons_self) a rfl
    | cons b bs => simp [ih, hf.eq_iff, and_assoc]

theorem RangeOperator.name_injective : Function.Injective RangeOperator.name := by
  intro o p h
  cases o <;> cases p <;> first | rfl | exact absurd h (by decide)

namespace Criteria

theorem texts_injective : Function.Injective texts := by
  intro ss ts h
  have hmap : ss.map Value.string = ts.map Value.string := Value.array.inj h
  exact List.map_injective_iff.2 (fun _ _ => Value.string.inj) hmap

theorem tokenClause_injective : Function.Injective tokenClause := by
  rintro ⟨field, values⟩ ⟨other, others⟩ h
  simp only [tokenClause, Value.document.injEq, List.cons.injEq, Prod.mk.injEq, true_and,
    and_true, Value.string.injEq] at h
  rw [h.1, texts_injective h.2]

theorem rangeClause_injective : Function.Injective rangeClause := by
  rintro ⟨field, operator, bound⟩ ⟨other, operator', bound'⟩ h
  simp only [rangeClause, Value.document.injEq, List.cons.injEq, Prod.mk.injEq, true_and,
    and_true, Value.string.injEq, Value.double.injEq] at h
  rw [h.1, RangeOperator.name_injective h.2.1, h.2.2]

theorem booleanClause_injective : Function.Injective booleanClause := by
  intro field other h
  simpa [booleanClause] using h

/-- The clauses of the filters show each kind of filter in its order. -/
theorem filterClauses_eq_iff {c d : Criteria} :
    c.filterClauses = d.filterClauses ↔
      c.tokenFilters = d.tokenFilters ∧ c.rangeFilters = d.rangeFilters ∧
        c.booleanFields = d.booleanFields := by
  have hboolean : ∀ fields : List String, ∀ x ∈ fields.map booleanClause, ∀ r,
      rangeClause r ≠ x := by
    rintro fields x hx r rfl
    obtain ⟨field, -, h⟩ := List.mem_map.1 hx
    simp [booleanClause, rangeClause] at h
  have hothers : ∀ (rs : List RangeFilter) (fields : List String),
      ∀ x ∈ rs.map rangeClause ++ fields.map booleanClause, ∀ t, tokenClause t ≠ x := by
    rintro rs fields x hx t rfl
    obtain hx | hx := List.mem_append.1 hx
    · obtain ⟨r, -, h⟩ := List.mem_map.1 hx
      simp [tokenClause, rangeClause] at h
    · obtain ⟨field, -, h⟩ := List.mem_map.1 hx
      simp [tokenClause, booleanClause] at h
  rw [filterClauses, filterClauses, List.append_assoc, List.append_assoc,
    map_append_eq_iff tokenClause_injective (hothers _ _) (hothers _ _),
    map_append_eq_iff rangeClause_injective (hboolean _) (hboolean _),
    (List.map_injective_iff.2 booleanClause_injective).eq_iff]

/-! ### The free text and the filters -/

/-- Two descriptions ask for the same free text: none, or one in the same fields, of which there
may be none. -/
def SameText (query other : String) (fields others : List String) : Prop :=
  (query = "" ∧ other = "") ∨
    (query ≠ "" ∧ other ≠ "" ∧ fields = others ∧ (fields ≠ [] → query = other))

theorem map_queryClause_eq_iff (query other : String) (fields others : List String) :
    (fields.map fun field => Value.document [("autocomplete",
        .document [("query", .string query), ("path", .string field)])]) =
      (others.map fun field => Value.document [("autocomplete",
        .document [("query", .string other), ("path", .string field)])]) ↔
      fields = others ∧ (fields ≠ [] → query = other) := by
  induction fields generalizing others with
  | nil => cases others <;> simp
  | cons field fields ih =>
    cases others with
    | nil => simp
    | cons next others =>
      simp only [List.map_cons, List.cons.injEq, ih others, Value.document.injEq, Prod.mk.injEq,
        Value.string.injEq, true_and, and_true, ne_eq, reduceCtorEq, not_false_eq_true,
        forall_const]
      tauto

theorem hasFilters_eq (c : Criteria) : c.hasFilters = !c.filterClauses.isEmpty := by
  unfold hasFilters filterClauses
  cases c.tokenFilters <;> cases c.rangeFilters <;> cases c.booleanFields <;> rfl

/-- The compound shows the free text as far as it is asked for, and the filters. -/
theorem compound_eq_iff {c d : Criteria} :
    c.compound = d.compound ↔
      SameText c.query d.query c.autocompleteFields d.autocompleteFields ∧
        c.filterClauses = d.filterClauses := by
  have hclauses := map_queryClause_eq_iff c.query d.query c.autocompleteFields d.autocompleteFields
  unfold compound SameText
  rw [hasFilters_eq, hasFilters_eq]
  by_cases hc : c.query = "" <;> by_cases hd : d.query = "" <;>
    cases c.filterClauses <;> cases d.filterClauses <;>
    simp [hasQuery, queryClauses, hc, hd, hclauses]

end Criteria

/-! ### The order of the results -/

namespace SortEntry

/-- The fields to sort by, each once: in the place where it is named first, with the direction
that it is given last. -/
def collapse (entries : List SortEntry) : List SortEntry :=
  (entries.map field).eraseDups.filterMap fun name =>
    entries.reverse.find? fun e => e.field == name

/-- A field with its direction as a number. -/
def pair (e : SortEntry) : String × Value :=
  (e.field, .int32 e.direction.sign)

theorem pair_injective : Function.Injective pair := by
  rintro ⟨field, direction⟩ ⟨other, direction'⟩ h
  simp only [pair, Prod.mk.injEq, Value.int32.injEq] at h
  obtain ⟨rfl, hsign⟩ := h
  cases direction <;> cases direction' <;> first | rfl | exact absurd hsign (by decide)

theorem lookup_map_pair (entries : List SortEntry) (name : String) :
    ((entries.map pair).lookup name).map (fun value => (name, value)) =
      (entries.find? fun e => e.field == name).map pair := by
  induction entries with
  | nil => rfl
  | cons e rest ih =>
    rw [List.map_cons, pair, List.lookup_cons, List.find?_cons]
    by_cases h : e.field = name
    · simp [h, pair]
    · rw [beq_eq_false_iff_ne.2 h, beq_eq_false_iff_ne.2 (Ne.symm h)]
      exact ih

/-- Naming a field again changes its direction and not its place. -/
theorem ofPairs_map_pair (entries : List SortEntry) :
    Document.ofPairs (entries.map pair) = (collapse entries).map pair := by
  rw [Document.ofPairs_eq, collapse, List.map_filterMap, List.map_map, ← List.map_reverse]
  exact List.filterMap_congr fun name _ => lookup_map_pair entries.reverse name

example : collapse [⟨"a", .ascending⟩, ⟨"b", .descending⟩, ⟨"a", .descending⟩] =
    [⟨"a", .descending⟩, ⟨"b", .descending⟩] := by decide

theorem collapse_eq_nil_iff {entries : List SortEntry} : collapse entries = [] ↔ entries = [] := by
  refine ⟨fun h => ?_, by rintro rfl; rfl⟩
  cases entries with
  | nil => rfl
  | cons e rest =>
    -- the first field to sort by is there, and some entry names it
    have hnone := List.filterMap_eq_nil_iff.1 h e.field (List.mem_eraseDups.2 List.mem_cons_self)
    simpa using List.find?_eq_none.1 hnone e (by simp)

end SortEntry

/-! ### The whole pipeline -/

namespace Criteria

theorem directions_eq (c : Criteria) :
    c.directions = (SortEntry.collapse c.sortEntries).map SortEntry.pair :=
  SortEntry.ofPairs_map_pair c.sortEntries

theorem directions_eq_iff {c d : Criteria} :
    c.directions = d.directions ↔
      SortEntry.collapse c.sortEntries = SortEntry.collapse d.sortEntries := by
  rw [directions_eq, directions_eq, (List.map_injective_iff.2 SortEntry.pair_injective).eq_iff]

theorem directions_eq_nil_iff {c : Criteria} : c.directions = [] ↔ c.sortEntries = [] := by
  rw [directions_eq, List.map_eq_nil_iff, SortEntry.collapse_eq_nil_iff]

/-- Two descriptions agree on everything that a search can show. -/
structure SameSearch (c d : Criteria) : Prop where
  index : c.index = d.index
  text : SameText c.query d.query c.autocompleteFields d.autocompleteFields
  tokens : c.tokenFilters = d.tokenFilters
  ranges : c.rangeFilters = d.rangeFilters
  booleans : c.booleanFields = d.booleanFields
  order : SortEntry.collapse c.sortEntries = SortEntry.collapse d.sortEntries
  /-- The limit, where all that are not positive are alike. -/
  limit : max c.limit.toInt 0 = max d.limit.toInt 0

theorem search_eq_iff {c d : Criteria} :
    c.search = d.search ↔
      c.index = d.index ∧ c.compound = d.compound ∧ c.directions = d.directions := by
  have hc := directions_eq_nil_iff (c := c)
  have hd := directions_eq_nil_iff (c := d)
  unfold search
  -- no directions are written as no field at all, and then there are none to compare
  by_cases hcsort : c.sortEntries = [] <;> by_cases hdsort : d.sortEntries = [] <;>
    simp only [hcsort, hdsort, iff_true, iff_false] at hc hd <;>
    simp [hcsort, hdsort, hc, hd]

/-- Limits that are not positive are alike. -/
theorem limitStage_eq_iff {l m : Int64} :
    (if 0 < l then [[("$limit", Value.int64 l)]] else []) =
      (if 0 < m then [[("$limit", Value.int64 m)]] else []) ↔ max l.toInt 0 = max m.toInt 0 := by
  have hl : 0 < l ↔ 0 < l.toInt := Int64.lt_iff_toInt_lt
  have hm : 0 < m ↔ 0 < m.toInt := Int64.lt_iff_toInt_lt
  have hinj : l = m ↔ l.toInt = m.toInt := Int64.toInt_inj.symm
  by_cases hlpos : 0 < l.toInt <;> by_cases hmpos : 0 < m.toInt <;>
    simp only [hl, hm, hlpos, hmpos, if_true, if_false, List.cons.injEq, Prod.mk.injEq,
      Value.int64.injEq, true_and, and_true, hinj, reduceCtorEq, false_iff, true_iff] <;>
    omega

/-- **Pipelines of searches.** Two descriptions have the same pipeline if and only if they agree
on everything that a search can show. -/
theorem pipeline_eq_iff {c d : Criteria} : c.pipeline = d.pipeline ↔ c.SameSearch d := by
  have hpipeline : c.pipeline = d.pipeline ↔
      c.search = d.search ∧ max c.limit.toInt 0 = max d.limit.toInt 0 := by
    rw [← limitStage_eq_iff, pipeline, pipeline]
    simp
  rw [hpipeline, search_eq_iff, compound_eq_iff, filterClauses_eq_iff, directions_eq_iff]
  constructor
  · rintro ⟨⟨hindex, ⟨htext, htokens, hranges, hbooleans⟩, horder⟩, hlimit⟩
    exact ⟨hindex, htext, htokens, hranges, hbooleans, horder, hlimit⟩
  · intro h
    exact ⟨⟨h.index, ⟨h.text, h.tokens, h.ranges, h.booleans⟩, h.order⟩, h.limit⟩

/-! ### Calls of the builders -/

/-- A call of one of the builders: the free text and the limit are set, the rest is added. -/
inductive Call
  | query (text : String)
  | limit (n : Int64)
  | autocomplete (field : String)
  | token (field : String) (values : List String)
  | range (field : String) (operator : RangeOperator) (bound : Double)
  | boolean (field : String)
  | sort (field : String) (direction : SortDirection)

namespace Call

/-- What the builder makes of a description. -/
def apply (c : Criteria) : Call → Criteria
  | query text => c.withQuery text
  | limit n => c.withLimit n
  | autocomplete field => c.addAutocomplete field
  | token field values => c.addToken field values
  | range field operator bound => c.addRange field operator bound
  | boolean field => c.addBoolean field
  | sort field direction => c.addSort field direction

/-! What a call says, if it is one of the kind. -/

def query? : Call → Option String
  | query text => some text
  | _ => none

def limit? : Call → Option Int64
  | limit n => some n
  | _ => none

def autocomplete? : Call → Option String
  | autocomplete field => some field
  | _ => none

def token? : Call → Option TokenFilter
  | token field values => some ⟨field, values⟩
  | _ => none

def range? : Call → Option RangeFilter
  | range field operator bound => some ⟨field, operator, bound⟩
  | _ => none

def boolean? : Call → Option String
  | boolean field => some field
  | _ => none

def sort? : Call → Option SortEntry
  | sort field direction => some ⟨field, direction⟩
  | _ => none

/-- The free text that is set last, or none. -/
def lastQuery (calls : List Call) : String :=
  (calls.filterMap query?).getLastD ""

/-- The limit that is set last, or none. -/
def lastLimit (calls : List Call) : Int64 :=
  (calls.filterMap limit?).getLastD 0

end Call

/-- The description after calls, one after the other. -/
def applyAll (c : Criteria) (calls : List Call) : Criteria :=
  calls.foldl Call.apply c

/-- Every call shows in the one setting or list that it is about, whatever calls of other kinds
stand between. -/
theorem applyAll_eq (c : Criteria) (calls : List Call) :
    c.applyAll calls =
      { index := c.index
        query := (calls.filterMap Call.query?).getLastD c.query
        limit := (calls.filterMap Call.limit?).getLastD c.limit
        autocompleteFields := c.autocompleteFields ++ calls.filterMap Call.autocomplete?
        tokenFilters := c.tokenFilters ++ calls.filterMap Call.token?
        rangeFilters := c.rangeFilters ++ calls.filterMap Call.range?
        booleanFields := c.booleanFields ++ calls.filterMap Call.boolean?
        sortEntries := c.sortEntries ++ calls.filterMap Call.sort? } := by
  induction calls generalizing c with
  | nil => simp [applyAll]
  | cons call rest ih =>
    rw [applyAll, List.foldl_cons, ← applyAll, ih]
    cases call <;>
      simp only [Call.apply, withQuery, withLimit, addAutocomplete, addToken, addRange,
        addBoolean, addSort, List.filterMap_cons, Call.query?, Call.limit?, Call.autocomplete?,
        Call.token?, Call.range?, Call.boolean?, Call.sort?, List.getLastD_cons,
        List.append_assoc, List.singleton_append]

/-- **Calls that are compiled alike.** Two lists of calls, each in any order, have the same
pipeline if and only if they name the same index, ask for the same free text, add the same
filters of each kind in the same order, sort alike once each field is named only once, and set
the same limit up to those that are none. -/
theorem pipeline_applyAll_eq_iff (index other : String) (calls others : List Call) :
    ((on index).applyAll calls).pipeline = ((on other).applyAll others).pipeline ↔
      index = other ∧
      ((Call.lastQuery calls = "" ∧ Call.lastQuery others = "") ∨
        (Call.lastQuery calls ≠ "" ∧ Call.lastQuery others ≠ "" ∧
          calls.filterMap Call.autocomplete? = others.filterMap Call.autocomplete? ∧
          (calls.filterMap Call.autocomplete? ≠ [] →
            Call.lastQuery calls = Call.lastQuery others))) ∧
      calls.filterMap Call.token? = others.filterMap Call.token? ∧
      calls.filterMap Call.range? = others.filterMap Call.range? ∧
      calls.filterMap Call.boolean? = others.filterMap Call.boolean? ∧
      SortEntry.collapse (calls.filterMap Call.sort?) =
        SortEntry.collapse (others.filterMap Call.sort?) ∧
      max (Call.lastLimit calls).toInt 0 = max (Call.lastLimit others).toInt 0 := by
  rw [pipeline_eq_iff, applyAll_eq, applyAll_eq]
  simp only [on, List.nil_append]
  constructor
  · intro h
    exact ⟨h.index, h.text, h.tokens, h.ranges, h.booleans, h.order, h.limit⟩
  · rintro ⟨hindex, htext, htokens, hranges, hbooleans, horder, hlimit⟩
    exact ⟨hindex, htext, htokens, hranges, hbooleans, horder, hlimit⟩

end Criteria

end RecordStore
