import RecordStore.Proofs.SearchForm
/-!
# What a description says about its clauses

The questions that a description answers are about the clauses of its search stage. The filters
are described as they are. A free text is said to have a clause whenever it is not empty, but
there is one clause for each field it is looked for in, and there may be no field. Then the stage
asks for one of no clauses to hold.

## Main definitions

* `Pipeline.search?`, `Pipeline.compound?`: the search that a pipeline starts with, and its
  clauses.
* `Document.textClauses`, `Document.IsSatisfiable`: those for a free text, and whether enough of
  the optional ones are there.

## Main results

* `Criteria.questions_describe_clauses_iff`: when every answer fits the clauses.
-/

namespace RecordStore

/-- Whether a clause looks for a free text. -/
def Value.isTextClause : Value → Bool
  | .document clause => (Document.get? clause "autocomplete").isSome
  | _ => false

namespace Document

/-- The items of the array that a name has. -/
def array? (d : Document) (name : String) : Option (List Value) :=
  match d.get? name with
  | some (.array items) => some items
  | _ => none

/-- The document that a name has. -/
def nested? (d : Document) (name : String) : Option Document :=
  match d.get? name with
  | some (.document fields) => some fields
  | _ => none

/-- The clauses that look for a free text, be they optional or not. -/
def textClauses (compound : Document) : List Value :=
  ((compound.array? "should").getD [] ++ (compound.array? "filter").getD []).filter
    Value.isTextClause

/-- There are at least as many optional clauses as have to hold. -/
def IsSatisfiable (compound : Document) : Prop :=
  ∀ required, compound.get? "minimumShouldMatch" = some required →
    ∃ n : Int32, required = .int32 n ∧ n.toInt ≤ ((compound.array? "should").getD []).length

end Document

/-- What the first stage asks for, if it is a search. -/
def Pipeline.search? : List Document → Option Document
  | [] => none
  | first :: _ => first.nested? "$search"

/-- The clauses of the search in the first stage. -/
def Pipeline.compound? (pipeline : List Document) : Option Document :=
  (search? pipeline).bind fun search => search.nested? "compound"

namespace Criteria

theorem compound?_pipeline (c : Criteria) : Pipeline.compound? c.pipeline = some c.compound := rfl

theorem array?_should (c : Criteria) :
    c.compound.array? "should" = if c.hasQuery then some c.queryClauses else none := by
  unfold compound
  cases c.hasQuery <;> cases c.hasFilters <;> rfl

theorem array?_filter (c : Criteria) :
    c.compound.array? "filter" = if c.hasFilters then some c.filterClauses else none := by
  unfold compound
  cases c.hasQuery <;> cases c.hasFilters <;> rfl

theorem get?_minimumShouldMatch (c : Criteria) :
    c.compound.get? "minimumShouldMatch" = if c.hasQuery then some (.int32 1) else none := by
  unfold compound
  cases c.hasQuery <;> cases c.hasFilters <;> rfl

theorem filterCount_eq (c : Criteria) : c.filterCount = c.filterClauses.length := by
  simp [filterCount, filterClauses, Nat.add_assoc]

/-- No filter looks for a free text. -/
theorem isTextClause_of_mem_filterClauses {c : Criteria} {clause : Value}
    (h : clause ∈ c.filterClauses) : clause.isTextClause = false := by
  simp only [filterClauses, List.mem_append, List.mem_map] at h
  obtain (⟨t, -, rfl⟩ | ⟨r, -, rfl⟩) | ⟨field, -, rfl⟩ := h <;> rfl

theorem isTextClause_of_mem_queryClauses {c : Criteria} {clause : Value}
    (h : clause ∈ c.queryClauses) : clause.isTextClause = true := by
  obtain ⟨field, -, rfl⟩ := List.mem_map.1 h
  rfl

theorem textClauses_compound (c : Criteria) :
    c.compound.textClauses = if c.hasQuery then c.queryClauses else [] := by
  have hquery : c.queryClauses.filter Value.isTextClause = c.queryClauses :=
    List.filter_eq_self.2 fun _ => isTextClause_of_mem_queryClauses
  have hfilter : c.filterClauses.filter Value.isTextClause = [] :=
    List.filter_eq_nil_iff.2 fun _ h => Bool.eq_false_iff.1 (isTextClause_of_mem_filterClauses h)
  rw [Document.textClauses, array?_should, array?_filter]
  cases c.hasQuery <;> cases c.hasFilters <;> simp [hquery, hfilter]

theorem hasQuery_eq_true_iff {c : Criteria} : c.hasQuery = true ↔ c.query ≠ "" := by
  simp [hasQuery]

theorem hasQuery_describes_iff (c : Criteria) :
    (c.hasQuery = true ↔ c.compound.textClauses ≠ []) ↔
      c.query = "" ∨ c.autocompleteFields ≠ [] := by
  rw [textClauses_compound]
  by_cases hquery : c.query = ""
  · have hnone : ¬c.hasQuery = true := fun h => hasQuery_eq_true_iff.1 h hquery
    simp [hquery, hnone]
  · simp [hasQuery_eq_true_iff.2 hquery, hquery, queryClauses]

theorem isSatisfiable_compound_iff (c : Criteria) :
    c.compound.IsSatisfiable ↔ c.query = "" ∨ c.autocompleteFields ≠ [] := by
  unfold Document.IsSatisfiable
  rw [array?_should, get?_minimumShouldMatch]
  by_cases hquery : c.query = ""
  · have hnone : ¬c.hasQuery = true := fun h => hasQuery_eq_true_iff.1 h hquery
    simp [hquery, hnone]
  · rw [if_pos (hasQuery_eq_true_iff.2 hquery), if_pos (hasQuery_eq_true_iff.2 hquery)]
    have hlength : c.queryClauses.length = c.autocompleteFields.length := List.length_map _
    constructor
    · intro h
      obtain ⟨n, hn, hle⟩ := h _ rfl
      obtain rfl := Value.int32.inj hn
      refine .inr fun hfields => ?_
      rw [Option.getD_some, hlength, hfields] at hle
      exact absurd hle (by decide)
    · rintro (h | hfields) required hrequired
      · exact absurd h hquery
      · have hpos : 0 < c.autocompleteFields.length := List.length_pos_iff.2 hfields
        refine ⟨1, (Option.some.inj hrequired).symm, ?_⟩
        change (1 : Int) ≤ (c.queryClauses.length : Int)
        omega

/-- **Questions about clauses.** There is an array of filters exactly if a filter is said to be
there, and it has as many clauses as are counted. A clause for the free text is there exactly if
it is said to be, and the optional clauses suffice, both if and only if the free text is empty or
has a field to look for it in. -/
theorem questions_describe_clauses_iff (c : Criteria) :
    ∃ compound, Pipeline.compound? c.pipeline = some compound ∧
      (c.hasFilters = true ↔ ∃ clauses, compound.array? "filter" = some clauses) ∧
      c.filterCount = ((compound.array? "filter").getD []).length ∧
      ((c.hasQuery = true ↔ compound.textClauses ≠ []) ↔
        c.query = "" ∨ c.autocompleteFields ≠ []) ∧
      (compound.IsSatisfiable ↔ c.query = "" ∨ c.autocompleteFields ≠ []) := by
  refine ⟨c.compound, c.compound?_pipeline, ?_, ?_, c.hasQuery_describes_iff,
    c.isSatisfiable_compound_iff⟩
  · rw [array?_filter]
    cases c.hasFilters <;> simp
  · rw [array?_filter, filterCount_eq, hasFilters_eq]
    cases c.filterClauses <;> rfl

/-- A free text without a field is said to have a clause, and one of no clauses has to hold. -/
theorem hasQuery_without_clause :
    ∃ compound, Pipeline.compound? ((on "i").withQuery "x").pipeline = some compound ∧
      ¬(((on "i").withQuery "x").hasQuery = true ↔ compound.textClauses ≠ []) ∧
      ¬compound.IsSatisfiable := by
  refine ⟨_, rfl, fun h => h.1 rfl rfl, fun h => ?_⟩
  obtain ⟨n, hn, hle⟩ := h (.int32 1) rfl
  obtain rfl := Value.int32.inj hn
  exact absurd hle (by decide)

end Criteria

end RecordStore
