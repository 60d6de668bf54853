import RecordStore.Filter
import RecordStore.Request
/-!
# Updates

An update is a document with the single name `$set`, whose value holds the fields to set.
A field that already equals its new value is left alone, so that a document counts as modified
only if some field was added or changed.

## Main definitions

* `Update.changes`: the fields that an update sets.
* `Update.apply`: a document after the update.
* `Update.applyAll`: all matching documents of a list updated.
-/

namespace RecordStore

namespace Update

/-- The fields that an update sets. -/
def changes (update : Document) : Except StorageError Document :=
  match update with
  | [("$set", .document fields)] => .ok fields
  | _ => .error (.store .onlySetUpdates)

/-- Sets the fields one after the other; also says whether any of them changed. -/
def apply : Document → Document → Document × Bool
  | [], d => (d, false)
  | (name, value) :: rest, d =>
    if d.has name value then apply rest d else ((apply rest (d.insert name value)).1, true)

/-- One more document that matched. -/
def tally (modified : Bool) (r : UpdateResult) : UpdateResult :=
  ⟨r.matched + 1, r.modified + if modified then 1 else 0⟩

/-- Updates every document that matches. An error of the filter stops the update at the
document where it arises; the documents before it stay updated. -/
def applyAll (filter fields : Document) :
    List Document → Except StorageError UpdateResult × List Document
  | [] => (.ok {}, [])
  | d :: rest =>
    match Filter.test d filter with
    | .error e => (.error e, d :: rest)
    | .ok false =>
      let (result, after) := applyAll filter fields rest
      (result, d :: after)
    | .ok true =>
      let (updated, modified) := apply fields d
      let (result, after) := applyAll filter fields rest
      (result.map (tally modified), updated :: after)

end Update

end RecordStore
