import RecordStore.Collection
import RecordStore.Request
/-!
# Stores in memory

A `Store` holds a collection for every name; one that was never used is empty. All
collections of a store have the same identity field. An action on a collection leaves the
others as they are.

## Main definitions

* `Store`, `Store.collection`, `Store.put`: the collections of a store.
* `Store.within`: an action on one collection as an action on the store.
-/

namespace RecordStore

/-- Contents by the names of collections. -/
structure Store where
  /-- The field that holds the identity in every collection. -/
  idField : String := "id"
  /-- What the collection of a name holds. -/
  contents : String → Contents := fun _ => {}

namespace Store

/-- The collection of a name. -/
def collection (s : Store) (name : String) : Collection :=
  { s.contents name with name, idField := s.idField }

/-- Gives the collection of a name other contents. -/
def put (s : Store) (name : String) (c : Contents) : Store :=
  { s with contents := fun other => if other = name then c else s.contents other }

@[simp] theorem contents_put_self (s : Store) (name : String) (c : Contents) :
    (s.put name c).contents name = c := by
  simp [put]

theorem contents_put_of_ne (s : Store) {name other : String} (c : Contents)
    (h : other ≠ name) : (s.put name c).contents other = s.contents other := by
  simp [put, h]

@[simp] theorem idField_put (s : Store) (name : String) (c : Contents) :
    (s.put name c).idField = s.idField := rfl

/-- Performs an action on the collection of a name. -/
def within {α : Type} (name : String) (x : Action Collection α) : Action Store α :=
  Action.ofFunction fun s =>
    let (answer, c) := x.outcome (s.collection name)
    (answer, s.put name c.toContents)

instance : Backend Store where
  perform name r := within name (Collection.perform r)
  healthCheck := pure ()

end Store

end RecordStore
