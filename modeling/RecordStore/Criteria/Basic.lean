import RecordStore.Payload.Basic
import RecordStore.Value.Basic
/-!
# Search criteria

A `Criteria` describes one search: a free text that is looked for in some fields, filters that
all have to hold, an order and a limit. It starts empty and is extended by builders, which add
to the end of a list or replace a single setting.

Criteria are written with all settings in the order of declaration, and so are their filters and
the fields to sort by. Where they are written to decides what becomes of a text or a number: a
payload has no infinities and NaNs and gets nothing in their place.

## Main definitions

* `Criteria` with `TokenFilter`, `RangeFilter` and `SortEntry`.
* `Criteria.hasQuery`, `Criteria.hasFilters`, `Criteria.filterCount`.
* `Medium`: what data are written to.
* `Criteria.members`, `Criteria.toPayload`, `Criteria.toDocument`: the settings in any medium, as a
  payload and as a document.
-/

namespace RecordStore

/-- A field that holds one of several texts. -/
structure TokenFilter where
  /-- The field. -/
  field : String
  /-- The texts. -/
  values : List String
deriving DecidableEq, Repr

/-- How a field compares with a bound. -/
inductive RangeOperator
  /-- Above the bound. -/
  | gt
  /-- At the bound or above it. -/
  | gte
  /-- Below the bound. -/
  | lt
  /-- At the bound or below it. -/
  | lte
deriving DecidableEq, Repr

namespace RangeOperator

/-- The operators in the order in which they are listed. -/
def all : List RangeOperator :=
  [gt, gte, lt, lte]

/-- The written form. -/
def name : RangeOperator → String
  | gt => "gt"
  | gte => "gte"
  | lt => "lt"
  | lte => "lte"

end RangeOperator

/-- A field whose number lies on one side of a bound. -/
structure RangeFilter where
  /-- The field. -/
  field : String
  /-- The side. -/
  operator : RangeOperator
  /-- The bound. -/
  bound : Double
deriving DecidableEq, Repr

/-- Whether small or great values come first. -/
inductive SortDirection
  /-- Small values come first. -/
  | ascending
  /-- Great values come first. -/
  | descending
deriving DecidableEq, Repr

namespace SortDirection

/-- The directions in the order in which they are listed. -/
def all : List SortDirection :=
  [ascending, descending]

/-- The written form. -/
def name : SortDirection → String
  | ascending => "ascending"
  | descending => "descending"

/-- The direction as a number: its sign says which way. -/
def sign : SortDirection → Int32
  | ascending => 1
  | descending => -1

end SortDirection

/-- A field to sort by. -/
structure SortEntry where
  /-- The field. -/
  field : String
  /-- The direction. -/
  direction : SortDirection
deriving DecidableEq, Repr

/-- The description of a search. -/
structure Criteria where
  /-- The index that is searched. -/
  index : String := ""
  /-- The free text; an empty one is none. -/
  query : String := ""
  /-- The greatest number of results; a number that is not positive is no limit. -/
  limit : Int64 := 0
  /-- The fields in which the free text is looked for; one of them suffices. -/
  autocompleteFields : List String := []
  /-- Fields that hold one of several texts. -/
  tokenFilters : List TokenFilter := []
  /-- Fields that lie on one side of a bound. -/
  rangeFilters : List RangeFilter := []
  /-- Fields that are true. -/
  booleanFields : List String := []
  /-- The fields to sort by, the most important first. -/
  sortEntries : List SortEntry := []
deriving DecidableEq, Repr

namespace Criteria

/-! ### Builders -/

/-- The empty criteria on an index. -/
def on (index : String) : Criteria :=
  { index }

/-- Sets the free text. -/
def withQuery (c : Criteria) (query : String) : Criteria :=
  { c with query }

/-- Sets the limit. -/
def withLimit (c : Criteria) (limit : Int64) : Criteria :=
  { c with limit }

/-- Adds a field in which the free text is looked for. -/
def addAutocomplete (c : Criteria) (field : String) : Criteria :=
  { c with autocompleteFields := c.autocompleteFields ++ [field] }

/-- Adds a field that holds one of several texts. -/
def addToken (c : Criteria) (field : String) (values : List String) : Criteria :=
  { c with tokenFilters := c.tokenFilters ++ [⟨field, values⟩] }

/-- Adds a field that lies on one side of a bound. -/
def addRange (c : Criteria) (field : String) (operator : RangeOperator) (bound : Double) :
    Criteria :=
  { c with rangeFilters := c.rangeFilters ++ [⟨field, operator, bound⟩] }

/-- Adds a field that is true. -/
def addBoolean (c : Criteria) (field : String) : Criteria :=
  { c with booleanFields := c.booleanFields ++ [field] }

/-- Adds a field to sort by behind the others. -/
def addSort (c : Criteria) (field : String) (direction : SortDirection) : Criteria :=
  { c with sortEntries := c.sortEntries ++ [⟨field, direction⟩] }

/-! ### Questions -/

/-- Whether there is a free text. -/
def hasQuery (c : Criteria) : Bool :=
  !c.query.isEmpty

/-- Whether there is a filter. -/
def hasFilters (c : Criteria) : Bool :=
  !c.tokenFilters.isEmpty || !c.rangeFilters.isEmpty || !c.booleanFields.isEmpty

/-- How many filters there are. -/
def filterCount (c : Criteria) : Nat :=
  c.tokenFilters.length + c.rangeFilters.length + c.booleanFields.length

end Criteria

/-! ### Written settings -/

/-- What data are written to. -/
class Medium (σ : Type) where
  /-- A text. -/
  text : String → σ
  /-- A whole number of 64 bits. -/
  int64 : Int64 → σ
  /-- A binary64 number. -/
  double : Double → σ
  /-- Data in a row. -/
  sequence : List σ → σ
  /-- Data with names. -/
  mapping : List (String × σ) → σ

instance : Medium Payload where
  text := .string
  int64 i := .integer i.toInt
  double d := if d.isFinite then .float d else .null
  sequence := .array
  mapping := .object

@[simp] theorem Medium.text_payload : (Medium.text : String → Payload) = .string := rfl

@[simp] theorem Medium.double_payload (d : Double) :
    (Medium.double d : Payload) = if d.isFinite then .float d else .null := rfl

@[simp] theorem Medium.sequence_payload : (Medium.sequence : List Payload → Payload) = .array := rfl

instance : Medium Value where
  text := .string
  int64 := .int64
  double := .double
  sequence := .array
  mapping := .document

variable {σ : Type} [Medium σ]

def TokenFilter.members (t : TokenFilter) : List (String × σ) :=
  [("name", Medium.text t.field),
    ("values", Medium.sequence (t.values.map Medium.text))]

def RangeFilter.members (r : RangeFilter) : List (String × σ) :=
  [("name", Medium.text r.field),
    ("operator", Medium.text r.operator.name),
    ("value", Medium.double r.bound)]

def SortEntry.members (s : SortEntry) : List (String × σ) :=
  [("name", Medium.text s.field),
    ("direction", Medium.text s.direction.name)]

namespace Criteria

/-- All settings in the order of declaration. -/
def members (c : Criteria) : List (String × σ) :=
  [("index_name", Medium.text c.index),
    ("query", Medium.text c.query),
    ("limit", Medium.int64 c.limit),
    ("autocomplete_fields", Medium.sequence (c.autocompleteFields.map Medium.text)),
    ("token_fields", Medium.sequence (c.tokenFilters.map fun t => Medium.mapping t.members)),
    ("range_fields", Medium.sequence (c.rangeFilters.map fun r => Medium.mapping r.members)),
    ("boolean_fields", Medium.sequence (c.booleanFields.map Medium.text)),
    ("sort_fields", Medium.sequence (c.sortEntries.map fun s => Medium.mapping s.members))]

/-- Criteria as a payload. -/
def toPayload (c : Criteria) : Payload :=
  .object c.members

/-- Criteria as a document. -/
def toDocument (c : Criteria) : Document :=
  c.members

end Criteria

end RecordStore
