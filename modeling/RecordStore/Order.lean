import RecordStore.Double.Rounding
import RecordStore.Error
import RecordStore.Value.Basic
/-!
# Order of documents

Documents are ordered by a list of keys, each a field with a direction; a later key decides
where the earlier ones see no difference. A missing value comes before every value that is
present, and a descending key turns its whole order round. Numbers of all types compare as
doubles. Strings compare by code point, false comes before true, and points of time compare by
time. Values of different kinds, and of kinds without an order, count as equal; so does a NaN
beside any number.

Sorting is stable: documents that compare equal keep their order. It works by insertion and recurses
on the list, so that closed instances evaluate.

## Main definitions

* `SortKey`, `SortKey.ofDocument`: the keys that a document of directions describes.
* `compareValues`, `SortKey.compareAll`: the order of values and of documents.
* `stableSort`, `sortDocuments`: a list in the order of a test, and documents by their keys.
-/

namespace RecordStore

/-! ### Values -/

/-- The double nearest to a number. -/
def Value.number? : Value → Option Double
  | .int32 i => some (Double.ofInt i.toInt)
  | .int64 i => some (Double.ofInt i.toInt)
  | .double d => some d
  | _ => none

/-- The order of two values that are not both numbers. -/
def compareKinds : Value → Value → Ordering
  | .string a, .string b => compare a b
  | .boolean a, .boolean b => compare a b
  | .dateTime a, .dateTime b => compare a.toInt b.toInt
  | _, _ => .eq

/-- The order of two values, either of which may be missing. -/
def compareValues : Option Value → Option Value → Ordering
  | none, none => .eq
  | none, some _ => .lt
  | some _, none => .gt
  | some a, some b =>
    match a.number?, b.number? with
    | some x, some y => (x.compare? y).getD .eq
    | _, _ => compareKinds a b

/-! ### Documents -/

/-- A field to order by. -/
structure SortKey where
  /-- The name of the field. -/
  field : String
  /-- Whether greater values come first. -/
  descending : Bool
deriving DecidableEq, Repr

namespace SortKey

/-- The order of two documents by one key. -/
def compare (k : SortKey) (a b : Document) : Ordering :=
  let o := compareValues (a.get? k.field) (b.get? k.field)
  if k.descending then o.swap else o

/-- The order of two documents by all keys, the first that tells them apart. -/
def compareAll : List SortKey → Document → Document → Ordering
  | [], _, _ => .eq
  | k :: rest, a, b => (k.compare a b).then (compareAll rest a b)

/-- The keys that a document of directions describes. A direction is a number, and a negative
one descends. -/
def ofDocument : Document → Except StorageError (List SortKey)
  | [] => .ok []
  | (field, direction) :: rest => do
    match direction.number? with
    | some d =>
      let keys ← ofDocument rest
      pure (⟨field, d.belowZero⟩ :: keys)
    | none => throw (.store (.sortDirection field))

end SortKey

/-! ### Sorting -/

variable {α : Type}

/-- Puts an entry into a list that is sorted with the last entry at its head: before the first
entry from the head that it is not less than. -/
def insertLast (less : α → α → Bool) (a : α) : List α → List α
  | [] => [a]
  | b :: rest => if less a b then b :: insertLast less a rest else a :: b :: rest

/-- Sorts by inserting the entries one after the other behind all that they do not precede. -/
def stableSort (less : α → α → Bool) (entries : List α) : List α :=
  (entries.foldl (fun sorted a => insertLast less a sorted) []).reverse

/-- Sorts documents by the keys that a document of directions describes. -/
def sortDocuments (directions : Document) (ds : List Document) :
    Except StorageError (List Document) := do
  let keys ← SortKey.ofDocument directions
  pure (stableSort (fun a b => SortKey.compareAll keys a b == .lt) ds)

end RecordStore
