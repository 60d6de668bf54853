import RecordStore.Migration.Log
import RecordStore.Order
import RecordStore.Proofs.Fields
import RecordStore.Text.Numeral
/-!
# Entries of the log in documents

A document that is read as an entry of the log holds the version of the entry in the field
`version`, as an integer of 32 or 64 bits. Sorting sees the double nearest to it.
Entries are found by the decimal text of the version, which tells versions apart.

## Main results

* `Migration.versionText_inj`: versions with one text are equal.
* `LogEntry.number?_of_decode`: the number that sorting sees for a document of the log.
-/

namespace RecordStore

namespace Migration

/-- A version is read back from its text. -/
theorem integer?_versionText (v : Int64) :
    Numeral.integer? (versionText v).toList = some v.toInt := by
  rw [versionText, Int.toString_eq_repr, Int.repr_eq_if]
  split
  · next hnonneg =>
    rw [Nat.toList_repr, Numeral.integer?_toDigits, Int.toNat_of_nonneg hnonneg]
  · next hneg =>
    have hsign : "-".toList = ['-'] := rfl
    have hvalue : -((-v.toInt).toNat : Int) = v.toInt := by omega
    rw [String.toList_append, Nat.toList_repr, hsign, List.singleton_append, Numeral.integer?,
      Numeral.decimal?_toDigits]
    exact congrArg some hvalue

theorem versionText_inj {v w : Int64} (h : versionText v = versionText w) : v = w := by
  have hread := integer?_versionText v
  rw [h, integer?_versionText, Option.some_inj] at hread
  exact Int64.toInt_inj.1 hread.symm

end Migration

/-- A value that shows as a whole number is compared as that number. -/
theorem Value.number?_of_root {v : Value} {i : Int} (h : v.root = .integer i) :
    v.number? = some (Double.ofInt i) := by
  cases v with
  | int32 j =>
    cases h
    rfl
  | int64 j =>
    cases h
    rfl
  | binary subtype octets =>
    simp only [Value.root] at h
    split at h <;> cases h
  | _ => cases h

theorem Value.number?_of_int64 {v : Value} {i : Int64} (h : Reader.int64 v = .ok i) :
    v.number? = some (Double.ofInt i.toInt) := by
  unfold Reader.int64 Reader.integer at h
  split at h
  · next j hj =>
    split at h
    · next hrange =>
      cases h
      rw [Value.number?_of_root hj, Int64.toInt_ofInt_of_le (by omega) (by omega)]
    · cases h
  · cases h

namespace LogEntry

/-- The version of an entry is read from its field. -/
theorem exists_version_of_read {member : String → Option Value} {missing : String → ReadError}
    {e : LogEntry} (h : fields.read member missing = .ok e) :
    ∃ v, member "version" = some v ∧ Reader.int64 v = .ok e.version := by
  obtain ⟨f, timestamp, hf, -, rfl⟩ := Fields.exists_of_seq h
  obtain ⟨g, description, hg, -, rfl⟩ := Fields.exists_of_seq hf
  obtain ⟨k, version, hk, hversion, rfl⟩ := Fields.exists_of_seq hg
  obtain ⟨id, -, rfl⟩ := Fields.exists_of_map hk
  exact Fields.exists_of_required hversion

/-- What sorting sees for a document of the log. -/
theorem number?_of_decode {d : Document} {e : LogEntry} (h : Record.decode d = .ok e) :
    ∃ v, d.get? "version" = some v ∧ v.number? = some (Double.ofInt e.version.toInt) := by
  have hfields := Document.read_members (Document.read_of_decode h)
  obtain ⟨v, hv, hint⟩ := exists_version_of_read hfields
  exact ⟨v, hv, Value.number?_of_int64 hint⟩

end LogEntry

end RecordStore
