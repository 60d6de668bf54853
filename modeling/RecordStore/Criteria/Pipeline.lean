import RecordStore.Criteria.Basic
/-!
# The pipeline of a search

Criteria become a `$search` stage and, if a limit is set, a `$limit` stage behind it. Within
the search stage the free text comes first, of whose clauses one has to hold, then the filters:
those by texts, those by bounds and those by truth, each in their order. A field to sort by that
is named again keeps its first place and takes the last direction.

## Main definitions

* `Criteria.pipeline`.
-/

namespace RecordStore

namespace Criteria

/-- Texts as an array. -/
def texts (ss : List String) : Value :=
  .array (ss.map .string)

/-- The clauses that look for the free text. -/
def queryClauses (c : Criteria) : List Value :=
  c.autocompleteFields.map fun field =>
    .document [("autocomplete",
      .document [("query", .string c.query), ("path", .string field)])]

/-- The clause of a filter by texts. -/
def tokenClause (t : TokenFilter) : Value :=
  .document [("in", .document [("path", .string t.field), ("value", texts t.values)])]

/-- The clause of a filter by a bound. -/
def rangeClause (r : RangeFilter) : Value :=
  .document [("range",
    .document [("path", .string r.field), (r.operator.name, .double r.bound)])]

/-- The clause of a field that is true. -/
def booleanClause (field : String) : Value :=
  .document [("equals", .document [("path", .string field), ("value", .boolean true)])]

/-- The clauses of all filters. -/
def filterClauses (c : Criteria) : List Value :=
  c.tokenFilters.map tokenClause ++ c.rangeFilters.map rangeClause ++
    c.booleanFields.map booleanClause

/-- The free text and the filters, each left out if there is none. -/
def compound (c : Criteria) : Document :=
  (if c.hasQuery then
    [("should", .array c.queryClauses), ("minimumShouldMatch", .int32 1)]
   else []) ++
  (if c.hasFilters then [("filter", .array c.filterClauses)] else [])

/-- The fields to sort by with their directions. -/
def directions (c : Criteria) : Document :=
  Document.ofPairs (c.sortEntries.map fun s => (s.field, .int32 s.direction.sign))

/-- The argument of the search stage. -/
def search (c : Criteria) : Document :=
  [("index", .string c.index), ("compound", .document c.compound)] ++
    (if c.sortEntries.isEmpty then [] else [("sort", .document c.directions)])

/-- The stages of the search. -/
def pipeline (c : Criteria) : List Document :=
  [[("$search", .document c.search)]] ++
    (if 0 < c.limit then [[("$limit", .int64 c.limit)]] else [])

end Criteria

end RecordStore
