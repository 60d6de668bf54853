import RecordStore.Proofs.Assignment
import RecordStore.Proofs.Identity
import RecordStore.Proofs.OrderedMap
/-!
# Registers of documents

A `Register` is an ordered map from identities to documents, with the operations that a
collection of records offers. It knows neither filters nor places: everything is addressed by
identities. Fields are set all at once, and a document counts as modified if it does not have one
of them with an equal value.

## Main definitions

* `Register`, `Entry`: documents by identities, and a document with its identity.
* `Register.add`, `Register.assign`, `Register.store`, `Register.drop` and those for several
  entries: the operations.

## Main results

* `Register.outcome_add`, `Register.outcome_store`, and so on: one equation for each operation.
-/

namespace RecordStore

/-- Documents by their identities. -/
abbrev Register := OrderedMap Identity Document

/-- A document with the value that it holds as identity. -/
structure Entry where
  /-- The value of the identity field. -/
  id : OrdinaryValue
  /-- The document. -/
  document : Document

namespace Entry

/-- The identity of an entry. -/
def key (e : Entry) : Identity := .of e.id

/-- The document of an entry is well-formed and holds the identity. -/
structure Holds (field : String) (e : Entry) : Prop where
  /-- The identity is in its field. -/
  get? : e.document.get? field = some e.id.val
  /-- Names occur once. -/
  wellFormed : e.document.wellFormed = true

theorem Holds.identity? {field : String} {e : Entry} (h : e.Holds field) :
    e.document.identity? field = some e.key :=
  Document.identity?_eq_some_iff.2 ⟨e.id, h.get?, rfl⟩

end Entry

namespace Register

/-- The document of an identity. -/
def find (k : Identity) : Action Register (Option Document) := do
  pure ((← get).get? k)

/-- How many documents there are. -/
def size : Action Register Nat := do
  pure (← get).entries.length

/-- Adds an entry at the end, unless its identity is present. The error names the place of the
identity and its value. -/
def add (place : String) (e : Entry) : Action Register Unit := do
  if (← get).has e.key then
    throw (.duplicateKey (place ++ " = " ++ e.id.val.text))
  modify (·.put e.key e.document)

/-- Adds entries one after the other, up to the first whose identity is present. -/
def addAll (place : String) (es : List Entry) : Action Register Unit :=
  es.forM (add place)

/-- Overwrites the fields of the document that is registered under an identity by those of the
entry with this identity. -/
def assign (e : Entry) : Action Register UpdateResult := do
  match (← get).get? e.key with
  | none => pure { matched := 0, modified := 0 }
  | some old => do
    let news := Update.unmet e.document old
    modify (·.put e.key (old.overwrite news))
    pure { matched := 1, modified := if news.isEmpty then 0 else 1 }

/-- Overwrites the same fields of all documents with certain identities. -/
def assignAll (p : Identity → Bool) (fields : Document) : Action Register UpdateResult := do
  let m ← get
  modify (·.adjust fun k d => if p k then d.overwrite (Update.unmet fields d) else d)
  pure
    { matched := m.entries.countP fun e => p e.1
      modified := m.entries.countP fun e => p e.1 && !(Update.unmet fields e.2).isEmpty }

/-- Registers an entry, in the place of its identity or at the end, and counts what was done. -/
def store (e : Entry) (done : UpsertSummary) : Action Register UpsertSummary := do
  let m ← get
  modify (·.put e.key e.document)
  match m.get? e.key with
  | none => pure { done with upserted := done.upserted + 1 }
  | some old =>
    pure { done with
      matched := done.matched + 1
      modified := done.modified + if old.same e.document then 0 else 1 }

/-- Registers entries one after the other, counting on from `done`. -/
def storeAll : List Entry → UpsertSummary → Action Register UpsertSummary
  | [], done => pure done
  | e :: rest, done => do
    let next ← store e done
    storeAll rest next

/-- Removes the entry of an identity. -/
def drop (k : Identity) : Action Register Nat := do
  let m ← get
  modify (·.retain fun other => other ≠ k)
  pure (if m.has k then 1 else 0)

/-- Removes the entries with certain identities. -/
def dropAll (p : Identity → Bool) : Action Register Nat := do
  let m ← get
  modify (·.retain fun k => !p k)
  pure (m.entries.countP fun e => p e.1)

/-! ### What the operations do -/

open RecordStore.Action

variable (m : Register) (e : Entry)

theorem outcome_find (k : Identity) : (find k).outcome m = (.ok (m.get? k), m) := rfl

theorem outcome_size : size.outcome m = (.ok m.entries.length, m) := rfl

theorem outcome_add (place : String) :
    (add place e).outcome m =
      if m.has e.key then (.error (.duplicateKey (place ++ " = " ++ e.id.val.text)), m)
      else (.ok (), m.put e.key e.document) := by
  simp only [add, outcome_bind, outcome_get]
  split <;> rfl

theorem outcome_assign :
    (assign e).outcome m =
      match m.get? e.key with
      | none => (.ok ⟨0, 0⟩, m)
      | some old =>
        (.ok ⟨1, if (Update.unmet e.document old).isEmpty then 0 else 1⟩,
          m.put e.key (old.overwrite (Update.unmet e.document old))) := by
  simp only [assign, outcome_bind, outcome_get]
  cases m.get? e.key <;> rfl

theorem outcome_assignAll (p : Identity → Bool) (fields : Document) :
    (assignAll p fields).outcome m =
      (.ok ⟨m.entries.countP fun e => p e.1,
          m.entries.countP fun e => p e.1 && !(Update.unmet fields e.2).isEmpty⟩,
        m.adjust fun k d => if p k then d.overwrite (Update.unmet fields d) else d) := rfl

theorem outcome_store (done : UpsertSummary) :
    (store e done).outcome m =
      (.ok (match m.get? e.key with
        | none => { done with upserted := done.upserted + 1 }
        | some old => { done with
            matched := done.matched + 1
            modified := done.modified + if old.same e.document then 0 else 1 }),
        m.put e.key e.document) := by
  simp only [store, outcome_bind, outcome_get, outcome_modify]
  cases m.get? e.key <;> rfl

theorem outcome_drop (k : Identity) :
    (drop k).outcome m = (.ok (if m.has k then 1 else 0), m.retain fun other => other ≠ k) := rfl

theorem outcome_dropAll (p : Identity → Bool) :
    (dropAll p).outcome m = (.ok (m.entries.countP fun e => p e.1), m.retain fun k => !p k) := rfl

end Register

end RecordStore
