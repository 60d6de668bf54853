import RecordStore.Proofs.Except
import RecordStore.Proofs.Register
import RecordStore.Repository
/-!
# Lawful records

A type of records is lawful if its documents can be read back, hold the identity of the record
in the identity field, and if every identity is written as a value that equals itself and that
no filter reads as operators.
Documents are maps from names to values, so the list of fields that stands for one has each
name once; this is part of what is asked of the documents and values that are written.

What a repository writes for a record is then an `Entry`. There are two orders in which a
repository writes a record and its identity. They differ in the error that is reported, and
only when the record cannot be written.

## Main definitions

* `LawfulRecord`: the laws.
* `Repository.identityOf`, `Repository.newEntry`, `Repository.entry`: what is written.

## Main results

* `Repository.upsert_eq`, `Repository.encode_eq`: upserts and documents as entries.
-/

namespace RecordStore

/-- Records that can be read back and found by their identities. -/
class LawfulRecord (ρ : Type) {ι : outParam Type} [Record ρ ι] : Prop where
  /-- The document of a record is read as the record. -/
  decode_encode : ∀ {r : ρ} {d : Document}, Record.encode r = .ok d → Record.decode d = .ok r
  /-- The document of a record holds its identity. -/
  get?_encode : ∀ {r : ρ} {d : Document}, Record.encode r = .ok d →
    ∃ v, Record.encodeId ρ (Record.id r) = .ok v ∧ d.get? (Record.idField ρ) = some v
  /-- The document of a record has each name once. -/
  wellFormed_encode : ∀ {r : ρ} {d : Document}, Record.encode r = .ok d → d.wellFormed = true
  /-- An identity is written as a value that can serve as one. -/
  ordinary_encodeId : ∀ {id : ι} {v : Value}, Record.encodeId ρ id = .ok v → v.ordinary = true

namespace Repository

variable {ρ ι : Type} [Record ρ ι] [LawfulRecord ρ]

/-- The value that an identity is written as. -/
def identityOf (ρ : Type) {ι : Type} [Record ρ ι] [LawfulRecord ρ] (id : ι) :
    Except StorageError OrdinaryValue :=
  match h : Record.encodeId ρ id with
  | .ok v => .ok ⟨v, LawfulRecord.ordinary_encodeId h⟩
  | .error e => .error e

/-- A record written for an insertion: the document first. -/
def newEntry (r : ρ) : Except StorageError Entry := do
  let document ← Record.encode r
  let id ← identityOf ρ (Record.id r)
  pure ⟨id, document⟩

/-- A record written for an operation on its identity: the identity first. -/
def entry (r : ρ) : Except StorageError Entry := do
  let id ← identityOf ρ (Record.id r)
  let document ← Record.encode r
  pure ⟨id, document⟩

theorem encodeId_eq (id : ι) : Record.encodeId ρ id = (identityOf ρ id).map Subtype.val := by
  unfold identityOf
  split <;> assumption

theorem identityOf_eq_ok_iff {id : ι} {v : OrdinaryValue} :
    identityOf ρ id = .ok v ↔ Record.encodeId ρ id = .ok v.val := by
  rw [encodeId_eq]
  cases identityOf ρ id with
  | error e => simp [Except.map]
  | ok w => simp [Except.map, Subtype.ext_iff]

/-- A document that is written holds the identity that is written. -/
theorem holds_of_encode {r : ρ} {d : Document} {v : OrdinaryValue}
    (hd : Record.encode r = .ok d) (hv : identityOf ρ (Record.id r) = .ok v) :
    Entry.Holds (Record.idField ρ) ⟨v, d⟩ := by
  obtain ⟨w, hw, hget⟩ := LawfulRecord.get?_encode hd
  rw [identityOf_eq_ok_iff, hw] at hv
  cases hv
  exact ⟨hget, LawfulRecord.wellFormed_encode hd⟩

theorem exists_identityOf_of_encode {r : ρ} {d : Document} (hd : Record.encode r = .ok d) :
    ∃ v, identityOf ρ (Record.id r) = .ok v := by
  obtain ⟨w, hw, -⟩ := LawfulRecord.get?_encode hd
  exact ⟨⟨w, LawfulRecord.ordinary_encodeId hw⟩, identityOf_eq_ok_iff.2 hw⟩

theorem holds_newEntry {r : ρ} {e : Entry} (h : newEntry r = .ok e) :
    e.Holds (Record.idField ρ) := by
  obtain ⟨d, hd, h⟩ := Except.exists_of_bind h
  obtain ⟨v, hv, h⟩ := Except.exists_of_bind h
  cases h
  exact holds_of_encode hd hv

theorem holds_entry {r : ρ} {e : Entry} (h : entry r = .ok e) : e.Holds (Record.idField ρ) := by
  obtain ⟨v, hv, h⟩ := Except.exists_of_bind h
  obtain ⟨d, hd, h⟩ := Except.exists_of_bind h
  cases h
  exact holds_of_encode hd hv

/-- The document of a record is that of its entry. -/
theorem encode_eq (r : ρ) : Record.encode r = (newEntry r).map Entry.document := by
  unfold newEntry
  cases hd : Record.encode r with
  | error e => rfl
  | ok d =>
    -- the identity is in the document, so it can be written too
    obtain ⟨v, hv⟩ := exists_identityOf_of_encode hd
    rw [hv]
    rfl

theorem idFilter_eq (id : ι) :
    idFilter ρ id = (identityOf ρ id).map fun v => [(Record.idField ρ, v.val)] := by
  unfold idFilter
  rw [encodeId_eq]
  cases identityOf ρ id <;> rfl

theorem idsFilter_eq (ids : List ι) :
    idsFilter ρ ids = (ids.mapM (identityOf ρ)).map fun vs =>
      [(Record.idField ρ, .document [("$in", .array (vs.map Subtype.val))])] := by
  unfold idsFilter
  rw [Except.mapM_eq_map_of_forall fun id _ => encodeId_eq id]
  cases ids.mapM (identityOf ρ) <;> rfl

/-- The upsert of a record asks for the place of its entry. -/
theorem upsert_eq (r : ρ) :
    upsert r = (entry r).map fun e => ⟨[(Record.idField ρ, e.id.val)], e.document⟩ := by
  unfold upsert entry
  rw [idFilter_eq]
  cases identityOf ρ (Record.id r) with
  | error e => rfl
  | ok v =>
    simp only [Except.map, bind, Except.bind]
    cases Record.encode r <;> rfl

end Repository

end RecordStore
