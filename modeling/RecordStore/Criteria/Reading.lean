import RecordStore.Criteria.Basic
import RecordStore.Reading
/-!
# Reading search criteria

Criteria are read from an object by name or from an array by position. A setting of
the criteria that is absent takes its default; the parts of a filter and of a sort entry have
to be there.

## Main definitions

* `Criteria.read`: criteria from a tree.
-/

namespace RecordStore

variable {τ : Type} [Tree τ]

/-- One filter by texts. -/
def TokenFilter.read : Reader τ TokenFilter :=
  Reader.struct "TokenField" <|
    TokenFilter.mk <$> Fields.required "name" Reader.text
      <*> Fields.required "values" (Reader.list Reader.text)

/-- One operator by its name. -/
def RangeOperator.read : Reader τ RangeOperator :=
  Reader.choice (RangeOperator.all.map fun o => (o.name, o))

/-- One filter by a bound. -/
def RangeFilter.read : Reader τ RangeFilter :=
  Reader.struct "RangeField" <|
    RangeFilter.mk <$> Fields.required "name" Reader.text
      <*> Fields.required "operator" RangeOperator.read
      <*> Fields.required "value" Reader.double

/-- One direction by its name. -/
def SortDirection.read : Reader τ SortDirection :=
  Reader.choice (SortDirection.all.map fun d => (d.name, d))

/-- One field to sort by. -/
def SortEntry.read : Reader τ SortEntry :=
  Reader.struct "SortField" <|
    SortEntry.mk <$> Fields.required "name" Reader.text
      <*> Fields.required "direction" SortDirection.read

namespace Criteria

/-- The settings with their names and defaults. -/
def fields : Fields τ Criteria :=
  Criteria.mk <$> Fields.optional "index_name" "" Reader.text
    <*> Fields.optional "query" "" Reader.text
    <*> Fields.optional "limit" 0 Reader.int64
    <*> Fields.optional "autocomplete_fields" [] (Reader.list Reader.text)
    <*> Fields.optional "token_fields" [] (Reader.list TokenFilter.read)
    <*> Fields.optional "range_fields" [] (Reader.list RangeFilter.read)
    <*> Fields.optional "boolean_fields" [] (Reader.list Reader.text)
    <*> Fields.optional "sort_fields" [] (Reader.list SortEntry.read)

/-- Criteria from a tree. -/
def read : Reader τ Criteria :=
  Reader.struct "SearchCriteria" fields

end Criteria

end RecordStore
