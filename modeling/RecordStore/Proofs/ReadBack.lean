import RecordStore.Migration.Log
import RecordStore.Proofs.InstantText
import RecordStore.Proofs.LawfulRecord
import RecordStore.Proofs.LogEntry
import RecordStore.Records.Event
/-!
# Reading back what was written

Entries of the log and events are read back from their documents, so events are lawful records.
An entry of the log is one as long as a clock can show its time.

## Main results

* `LogEntry.decode_toDocument`: an entry of the log.
* `Event.decode_toDocument`: an event, with a note or without.
-/

namespace RecordStore

namespace Reader

variable {α : Type}

@[simp] theorem text_string (s : String) : Reader.text (Value.string s) = .ok s := rfl

@[simp] theorem int64_int64 (i : Int64) : Reader.int64 (Value.int64 i) = .ok i :=
  int64_eq_ok rfl

@[simp] theorem int32_int32 (i : Int32) : Reader.int32 (Value.int32 i) = .ok i :=
  int32_eq_ok rfl

@[simp] theorem nullable_string (reader : Reader Value α) (s : String) :
    nullable reader (.string s) = (reader (.string s)).map some := rfl

@[simp] theorem list_strings (ss : List String) :
    Reader.list Reader.text (Value.array (ss.map Value.string)) = .ok ss := by
  refine list_eq_ok rfl ?_
  rw [List.forall₂_map_left_iff]
  exact List.forall₂_same.2 fun s _ => text_string s

end Reader

/-! ### Entries of the log -/

theorem Instant.read_text {t : Instant} (h : t.Regular) :
    Instant.read (Value.string t.text) = .ok t := by
  have hread : Instant.read (Value.string t.text) =
      (Instant.ofText? t.text).mapError fun fault => .custom fault.message := rfl
  rw [hread, Instant.ofText?_text h]
  rfl

instance : LogEntry.fields.Consistent := by
  unfold LogEntry.fields
  infer_instance

theorem LogEntry.decode_toDocument {e : LogEntry} (h : e.timestamp.Regular) :
    Record.decode e.toDocument = .ok e := by
  refine Document.decode_of_members (by simp [Document.names, toDocument]) ?_
  simp [toDocument, fields, List.lookup_cons, Except.bind, Except.map, Instant.read_text h]

/-! ### Events -/

@[simp] theorem EventKey.read_toValue (k : EventKey) : EventKey.read k.toValue = .ok k := by
  refine Document.read_of_members (by simp [Document.names]) ?_
  simp [List.lookup_cons, Except.bind, Except.map]

/-- A written identity equals itself. -/
theorem EventKey.same_toValue (k : EventKey) : k.toValue.same k.toValue = true := by
  simp [toValue, Value.same, Value.sameFields, List.lookup_cons]

/-- A stored document that equals a written identity is read as that identity. -/
theorem EventKey.eq_of_read {k l : EventKey} {v : Value} (hsame : v.same k.toValue = true)
    (h : EventKey.read v = .ok l) : l = k := by
  obtain ⟨s, rfl, -, hfields⟩ := Value.same_document_iff.1 hsame
  obtain ⟨f, seq, hf, hseq, rfl⟩ := Fields.exists_of_seq (Document.read_members h)
  obtain ⟨tenant, htenant, rfl⟩ := Fields.exists_of_map hf
  obtain ⟨x, hx, hxread⟩ := Fields.exists_of_required htenant
  obtain ⟨y, hy, hyread⟩ := Fields.exists_of_required hseq
  -- each member that is read has an equal under its name in the written identity
  have hcovered := Value.sameFields_iff.1 hfields
  obtain ⟨x', hx', hxsame⟩ := hcovered _ (Document.mem_of_lookup hx)
  obtain ⟨y', hy', hysame⟩ := hcovered _ (Document.mem_of_lookup hy)
  cases hx'
  cases hy'
  obtain rfl : x = .string k.tenant := Value.same_string_iff.1 hxsame
  obtain rfl : y = .int32 k.seq := Value.same_int32_iff.1 hysame
  rw [Reader.text_string] at hxread
  rw [Reader.int32_int32] at hyread
  cases hxread
  cases hyread
  rfl

namespace Event

instance : fields.Consistent := by
  unfold fields
  infer_instance

/-- A count that can be stored is stored as an integer, and read back from it. -/
theorem exists_of_storedCount {n : UInt64} {v : Value} (h : storedCount n = .ok v) :
    (∃ i, v = .int64 i) ∧ Reader.uint64 v = .ok n := by
  unfold storedCount at h
  split at h
  · next hsmall =>
    cases h
    have hint : n.toInt64.toInt = n.toNat := by
      have hlt : 2 * n.toBitVec.toNat < 2 ^ 64 := by
        change 2 * n.toNat < 2 ^ 64
        omega
      exact BitVec.toInt_eq_toNat_of_lt hlt
    have hroot : Tree.node (Value.int64 n.toInt64) = .integer (n.toNat : Int) :=
      congrArg Node.integer hint
    refine ⟨⟨_, rfl⟩, ?_⟩
    simp only [Reader.uint64, Reader.integer, hroot]
    rw [if_pos ⟨by omega, by omega⟩]
    simp [Except.map]
  · cases h

theorem decode_toDocument {e : Event} {d : Document} (h : e.toDocument = .ok d) :
    Record.decode d = .ok e := by
  obtain ⟨id, n, tags, note⟩ := e
  obtain ⟨count, hcount, h⟩ := Except.exists_of_bind h
  obtain rfl := Except.ok.inj h
  have hread := (exists_of_storedCount hcount).2
  refine Document.decode_of_members ?_ ?_
  · cases note <;> simp [Document.names]
  · cases note <;> simp [fields, List.lookup_cons, Except.bind, Except.map, hread]

/-- The identity of an event is read from its field. -/
theorem exists_id_of_decode {d : Document} {e : Event} (h : Record.decode d = .ok e) :
    ∃ v, d.get? "id" = some v ∧ EventKey.read v = .ok e.id := by
  have hfields := Document.read_members (Document.read_of_decode h)
  obtain ⟨f, note, hf, -, rfl⟩ := Fields.exists_of_seq hfields
  obtain ⟨g, tags, hg, -, rfl⟩ := Fields.exists_of_seq hf
  obtain ⟨k, count, hk, -, rfl⟩ := Fields.exists_of_seq hg
  obtain ⟨id, hid, rfl⟩ := Fields.exists_of_map hk
  exact Fields.exists_of_required hid

theorem wellFormed_toDocument {e : Event} {d : Document} (h : e.toDocument = .ok d) :
    d.wellFormed = true := by
  obtain ⟨id, n, tags, note⟩ := e
  obtain ⟨count, hcount, h⟩ := Except.exists_of_bind h
  obtain rfl := Except.ok.inj h
  obtain ⟨i, rfl⟩ := (exists_of_storedCount hcount).1
  have htags : Value.itemsWellFormed (tags.map .string) = true := by
    rw [Value.itemsWellFormed_iff, List.forall_mem_map]
    exact fun _ _ => rfl
  cases note <;>
    simp [Document.wellFormed, Value.fieldsWellFormed, Value.wellFormed, EventKey.toValue, htags]

instance : LawfulRecord Event where
  decode_encode := decode_toDocument
  get?_encode := by
    intro e d h
    obtain ⟨count, -, h⟩ := Except.exists_of_bind h
    obtain rfl := Except.ok.inj h
    exact ⟨e.id.toValue, rfl, rfl⟩
  wellFormed_encode := wellFormed_toDocument
  ordinary_encodeId := by
    rintro k v ⟨⟩
    simp [Value.ordinary, Value.wellFormed, Value.fieldsWellFormed, Value.same, Value.sameFields,
      Value.isOperators, Filter.isOperators, EventKey.toValue, List.lookup_cons]

end Event

end RecordStore
