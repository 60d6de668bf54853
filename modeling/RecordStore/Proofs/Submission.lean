import RecordStore.Proofs.Refinement
import RecordStore.Proofs.StoreRequest
import RecordStore.Recorder
import RecordStore.Records.Event
/-!
# Records are written before they are sent

A repository writes all records of a call, with their identities if it looks stored documents up,
before it makes its request. So a record that cannot be written stops the call before anything is
asked of the backend, however many of the records before it could be written. If all of them can be
written, they go to the backend in a single request, and no records need none.

## Main definitions

* `Submission`: a call that hands over whole records.
* `Submission.Written`, `Submission.Fault`: that a record can be written, and why it cannot.
* `Submission.Sends`: the request in which the records of a submission are sent.
* `Ticket`: records with documents, but not all of them with an identity that can be written.

## Main results

* `Submission.sends_or_stopped`: either everything is sent, or a first record has a fault.
* `Submission.sends_all_or_none`: when it is which, and what a backend notices of it.
* `Submission.insertions_of_unwritten_identity`: insertions do not write identities.
-/

namespace RecordStore

open RecordStore.Action Repository

/-! ### Recorded requests -/

namespace Recorder

/-- A request is recorded whether it succeeds or not. -/
theorem calls_request {ρ ι : Type} [Record ρ ι] (s : Recorder) (r : Request) :
    ((request ρ r : Action Recorder r.Reply).outcome s).2.calls =
      s.calls ++ [(Record.collection ρ, r)] := by
  rw [request, Backend.perform, instBackend]
  simp only [outcome_bind, outcome_get]
  obtain ⟨refused, refusal⟩ := screen (Record.collection ρ) r s.refusal
  cases refused <;> rfl

end Recorder

/-! ### Writing one record -/

namespace Repository

variable {ρ ι : Type} [Record ρ ι] {r : ρ}

/-- The identity is written first, so the document is only at fault if the identity is not. -/
theorem upsert_eq_error_iff {e : StorageError} :
    upsert r = .error e ↔ Record.encodeId ρ (Record.id r) = .error e ∨
      (∃ v, Record.encodeId ρ (Record.id r) = .ok v) ∧ Record.encode r = .error e := by
  rw [upsert, idFilter]
  cases Record.encodeId ρ (Record.id r) with
  | error f => simp [bind, Except.bind]
  | ok v => cases Record.encode r <;> simp [bind, Except.bind, pure, Except.pure]

theorem exists_upsert_iff :
    (∃ u, upsert r = .ok u) ↔
      (∃ v, Record.encodeId ρ (Record.id r) = .ok v) ∧ ∃ d, Record.encode r = .ok d := by
  simp only [upsert_eq_ok_iff]
  constructor
  · rintro ⟨u, v, d, hv, hd, -⟩
    exact ⟨⟨v, hv⟩, d, hd⟩
  · rintro ⟨⟨v, hv⟩, d, hd⟩
    exact ⟨_, v, d, hv, hd, rfl⟩

/-- An update sends what an upsert of the record would, the document as fields to be set. -/
theorem outcome_updateOne_of_upsert {σ : Type} [Backend σ] (r : ρ) (s : σ) :
    (updateOne r : Action σ UpdateResult).outcome s =
      match upsert r with
      | .error e => (.error e, s)
      | .ok u => (request ρ (.updateOne u.filter [("$set", .document u.replacement)]) :
          Action σ UpdateResult).outcome s := by
  simp only [updateOne, upsert, outcome_bind, outcome_lift]
  cases idFilter ρ (Record.id r) with
  | error e => rfl
  | ok filter => cases Record.encode r <;> rfl

end Repository

/-! ### Submissions -/

/-- A call that hands over whole records. -/
inductive Submission (ρ : Type)
  /-- Adds a record. -/
  | insertOne (record : ρ)
  /-- Adds records one after the other. -/
  | insertMany (records : List ρ)
  /-- Sets every field of a record. -/
  | updateOne (record : ρ)
  /-- Replaces or adds each record. -/
  | bulkWrite (records : List ρ)

namespace Submission

/-- The records that are handed over. -/
def records {ρ : Type} : Submission ρ → List ρ
  | insertOne record => [record]
  | insertMany records => records
  | updateOne record => [record]
  | bulkWrite records => records

variable {ρ ι : Type} [Record ρ ι]

/-- The call on the repository. -/
def call : Submission ρ → Call ρ
  | insertOne record => .insertOne record
  | insertMany records => .insertMany records
  | updateOne record => .updateOne record
  | bulkWrite records => .bulkWrite records

/-- A record can be written for a submission. Records that are added are written as documents; those
that take the place of stored ones, or fields of them, are looked up by their identities, which are
written too. -/
def Written : Submission ρ → ρ → Prop
  | insertOne _, r => ∃ d, Record.encode r = .ok d
  | insertMany _, r => ∃ d, Record.encode r = .ok d
  | updateOne _, r =>
    (∃ v, Record.encodeId ρ (Record.id r) = .ok v) ∧ ∃ d, Record.encode r = .ok d
  | bulkWrite _, r =>
    (∃ v, Record.encodeId ρ (Record.id r) = .ok v) ∧ ∃ d, Record.encode r = .ok d

/-- Why a record cannot be written. If the identity is written, it is written first. -/
def Fault : Submission ρ → ρ → StorageError → Prop
  | insertOne _, r, e => Record.encode r = .error e
  | insertMany _, r, e => Record.encode r = .error e
  | updateOne _, r, e => Record.encodeId ρ (Record.id r) = .error e ∨
    (∃ v, Record.encodeId ρ (Record.id r) = .ok v) ∧ Record.encode r = .error e
  | bulkWrite _, r, e => Record.encodeId ρ (Record.id r) = .error e ∨
    (∃ v, Record.encodeId ρ (Record.id r) = .ok v) ∧ Record.encode r = .error e

/-- The request in which everything is sent, in the order of the records; it may be none. -/
inductive Sends : Submission ρ → Option Request → Prop
  /-- The document of a record that is added. -/
  | insertOne {r d} (hd : Record.encode r = .ok d) : Sends (insertOne r) (some (.insertOne d))
  /-- Nothing is added. -/
  | insertNone : Sends (insertMany []) none
  /-- The documents of all records that are added. -/
  | insertMany {rs ds} (hrs : rs ≠ [])
      (hds : List.Forall₂ (fun r d => Record.encode r = .ok d) rs ds) :
      Sends (insertMany rs) (some (.insertMany ds))
  /-- The identity of a record, and its document as the fields to be set. -/
  | updateOne {r v d} (hv : Record.encodeId ρ (Record.id r) = .ok v)
      (hd : Record.encode r = .ok d) :
      Sends (updateOne r) (some (.updateOne [(Record.idField ρ, v)] [("$set", .document d)]))
  /-- Nothing is replaced or added. -/
  | writeNone : Sends (bulkWrite []) none
  /-- The identities of all records with the documents. -/
  | bulkWrite {rs us} (hrs : rs ≠ [])
      (hus : List.Forall₂ (fun r u => ∃ v d, Record.encodeId ρ (Record.id r) = .ok v ∧
        Record.encode r = .ok d ∧ u = ⟨[(Record.idField ρ, v)], d⟩) rs us) :
      Sends (bulkWrite rs) (some (.bulkUpsert us))

/-- What a backend is after a request to the collection of the records, or after none. -/
def left (ρ : Type) {ι : Type} [Record ρ ι] {σ : Type} [Backend σ] (s : σ) : Option Request → σ
  | none => s
  | some r => ((request ρ r : Action σ r.Reply).outcome s).2

variable {op : Submission ρ} {r : ρ} {e : StorageError}

theorem Fault.isSerialization (h : op.Fault r e) : e.isSerialization = true := by
  cases op with
  | insertOne | insertMany => exact Record.serialization_encode h
  | updateOne | bulkWrite =>
    obtain hid | ⟨-, hdocument⟩ := h
    · exact Record.serialization_encodeId hid
    · exact Record.serialization_encode hdocument

theorem Fault.not_written (h : op.Fault r e) : ¬ op.Written r := by
  intro hwritten
  cases op with
  | insertOne | insertMany => exact Except.not_exists_ok h hwritten
  | updateOne | bulkWrite =>
    obtain hid | ⟨-, hdocument⟩ := h
    · exact Except.not_exists_ok hid hwritten.1
    · exact Except.not_exists_ok hdocument hwritten.2

/-- What is sent was written. -/
theorem Sends.written {sent : Option Request} (h : op.Sends sent) :
    ∀ r ∈ op.records, op.Written r := by
  cases h with
  | insertOne hd =>
    intro r hr
    cases List.mem_singleton.1 hr
    exact ⟨_, hd⟩
  | insertNone => exact fun r hr => absurd hr List.not_mem_nil
  | insertMany _ hds => exact Except.exists_ok_of_mem (Except.mapM_eq_ok_iff.2 hds)
  | updateOne hv hd =>
    intro r hr
    cases List.mem_singleton.1 hr
    exact ⟨⟨_, hv⟩, _, hd⟩
  | writeNone => exact fun r hr => absurd hr List.not_mem_nil
  | bulkWrite _ hus =>
    intro r hr
    have hupserts := Except.mapM_eq_ok_iff.2 (hus.imp fun r u => upsert_eq_ok_iff.2)
    exact exists_upsert_iff.1 (Except.exists_ok_of_mem hupserts r hr)

/-- A submission that does nothing because of a record with a fault. -/
structure Stopped (op : Submission ρ) (e : StorageError) : Prop where
  /-- The error is that of the first record with a fault. -/
  fault : ∃ before r after, op.records = before ++ r :: after ∧ (∀ b ∈ before, op.Written b) ∧
    op.Fault r e
  /-- No backend is changed. -/
  outcome : ∀ (σ : Type) [Backend σ] (s : σ),
    (op.call.perform : Action σ op.call.Reply).outcome s = (.error e, s)

/-- Either everything is sent in one request, or a first record has a fault and nothing is. -/
theorem sends_or_stopped (op : Submission ρ) :
    (∃ sent, op.Sends sent ∧ ∀ (σ : Type) [Backend σ] (s : σ),
      ((op.call.perform : Action σ op.call.Reply).outcome s).2 = left ρ s sent) ∨
    ∃ e, op.Stopped e := by
  cases op with
  | insertOne r =>
    cases hd : Record.encode r with
    | ok d =>
      refine .inl ⟨_, .insertOne hd, fun σ _ s => ?_⟩
      simp only [call, Call.perform, Repository.insertOne, hd, outcome_bind, outcome_lift, left]
    | error e =>
      refine .inr ⟨e, ⟨[], r, [], rfl, by simp, hd⟩, fun σ _ s => ?_⟩
      simp only [call, Call.perform, Repository.insertOne, hd, outcome_bind, outcome_lift]
  | insertMany rs =>
    cases rs with
    | nil => exact .inl ⟨none, .insertNone, fun σ _ s => rfl⟩
    | cons r rest =>
      cases hds : (r :: rest).mapM (m := Except StorageError) Record.encode with
      | ok ds =>
        have hwritten := Except.mapM_eq_ok_iff.1 hds
        refine .inl ⟨_, .insertMany (List.cons_ne_nil r rest) hwritten, fun σ _ s => ?_⟩
        simp only [call, Call.perform, Repository.insertMany, hds, outcome_bind, outcome_lift, left,
          List.isEmpty_cons, Bool.false_eq_true, if_false]
      | error e =>
        obtain ⟨before, x, after, hsplit, hbefore, hx⟩ := Except.mapM_eq_error_iff.1 hds
        refine .inr ⟨e, ⟨before, x, after, hsplit, hbefore, hx⟩, fun σ _ s => ?_⟩
        simp only [call, Call.perform, Repository.insertMany, hds, outcome_bind, outcome_lift,
          List.isEmpty_cons, Bool.false_eq_true, if_false]
  | updateOne r =>
    cases hu : upsert r with
    | ok u =>
      obtain ⟨v, d, hv, hd, rfl⟩ := upsert_eq_ok_iff.1 hu
      refine .inl ⟨_, .updateOne hv hd, fun σ _ s => ?_⟩
      simp only [call, Call.perform, outcome_updateOne_of_upsert, hu, left]
    | error e =>
      refine .inr ⟨e, ⟨[], r, [], rfl, by simp, upsert_eq_error_iff.1 hu⟩, fun σ _ s => ?_⟩
      simp only [call, Call.perform, outcome_updateOne_of_upsert, hu]
  | bulkWrite rs =>
    cases rs with
    | nil => exact .inl ⟨none, .writeNone, fun σ _ s => rfl⟩
    | cons r rest =>
      cases hus : (r :: rest).mapM (m := Except StorageError) upsert with
      | ok us =>
        have hwritten := (Except.mapM_eq_ok_iff.1 hus).imp fun r u => upsert_eq_ok_iff.1
        refine .inl ⟨_, .bulkWrite (List.cons_ne_nil r rest) hwritten, fun σ _ s => ?_⟩
        simp only [call, Call.perform, Repository.bulkWrite, hus, outcome_bind, outcome_lift, left,
          List.isEmpty_cons, Bool.false_eq_true, if_false]
      | error e =>
        obtain ⟨before, x, after, hsplit, hbefore, hx⟩ := Except.mapM_eq_error_iff.1 hus
        refine .inr ⟨e, ⟨before, x, after, hsplit, fun b hb => exists_upsert_iff.1 (hbefore b hb),
          upsert_eq_error_iff.1 hx⟩, fun σ _ s => ?_⟩
        simp only [call, Call.perform, Repository.bulkWrite, hus, outcome_bind, outcome_lift,
          List.isEmpty_cons, Bool.false_eq_true, if_false]

/-- The requests that are recorded are the one that is sent. -/
theorem calls_left (s : Recorder) (sent : Option Request) :
    (left ρ s sent).calls = s.calls ++ sent.toList.map (Record.collection ρ, ·) := by
  cases sent with
  | none => exact (List.append_nil s.calls).symm
  | some q => exact Recorder.calls_request s q

/-- **All records are sent or none.** If a record of a submission cannot be written, the
submission fails with the error of the first such record, an error of serialization, and no
backend is changed or asked for anything. If all of them can be written, the submission makes one
request, which carries what they are written as in their order; for no records it makes none. What
is written for insertions is the document of each record, and for updates and upserts its identity
as well. -/
theorem sends_all_or_none (op : Submission ρ) :
    ((∃ r ∈ op.records, ¬ op.Written r) →
      ∃ before r after e, op.records = before ++ r :: after ∧ (∀ b ∈ before, op.Written b) ∧
        op.Fault r e ∧ e.isSerialization = true ∧
        ∀ (σ : Type) [Backend σ] (s : σ),
          (op.call.perform : Action σ op.call.Reply).outcome s = (.error e, s)) ∧
    ((∀ r ∈ op.records, op.Written r) →
      ∃ sent, op.Sends sent ∧
        (∀ (σ : Type) [Backend σ] (s : σ),
          ((op.call.perform : Action σ op.call.Reply).outcome s).2 = left ρ s sent) ∧
        ∀ s : Recorder, ((op.call.perform : Action Recorder op.call.Reply).outcome s).2.calls =
          s.calls ++ sent.toList.map (Record.collection ρ, ·)) := by
  constructor
  · rintro ⟨r, hr, hnot⟩
    obtain ⟨sent, hsent, -⟩ | ⟨e, hstopped⟩ := sends_or_stopped op
    · exact absurd (hsent.written r hr) hnot
    · obtain ⟨before, x, after, hsplit, hbefore, hx⟩ := hstopped.fault
      exact ⟨before, x, after, e, hsplit, hbefore, hx, hx.isSerialization, hstopped.outcome⟩
  · intro hwritten
    obtain ⟨sent, hsent, hleft⟩ | ⟨e, hstopped⟩ := sends_or_stopped op
    · refine ⟨sent, hsent, hleft, fun s => ?_⟩
      rw [hleft Recorder s, calls_left]
    · obtain ⟨before, x, after, hsplit, -, hx⟩ := hstopped.fault
      have hmem : x ∈ op.records := hsplit ▸ List.mem_append_right before List.mem_cons_self
      exact absurd (hwritten x hmem) hx.not_written

/-- The second count cannot be stored, and the first event is not sent either. -/
example : ((Repository.bulkWrite [Event.mk ⟨"a", 1⟩ 7 [] none, Event.mk ⟨"a", 2⟩ (-1) [] none] :
    Action Recorder UpsertSummary).outcome {}) =
      (.error (.serialization (.unsignedTooLarge (-1))), {}) := rfl

end Submission

/-! ### Identities that cannot be written -/

/-- Something with a number. -/
structure Ticket where
  /-- The identity. -/
  number : UInt64

namespace Ticket

/-- The document holds the number as the integer with the same bits, which there always is. The
identity is the number itself, and so is not written if it lies above all integers. -/
instance : Record Ticket UInt64 where
  collection := "ticket"
  id := number
  encodeId := Event.storedCount
  encode t := .ok [("id", .int64 t.number.toInt64)]
  decode := Document.decode "Ticket" <|
    (fun bits => ⟨bits.toUInt64⟩) <$> Fields.required "id" Reader.int64
  serialization_encodeId := Event.serialization_storedCount
  serialization_encode := @Record.serialization_of_ok Ticket Document _
  serialization_decode := Document.serialization_decode

/-- The ticket with the greatest number. -/
def last : Ticket :=
  ⟨-1⟩

end Ticket

/-- A record whose identity cannot be written is sent and added all the same, as one and in a
list. -/
theorem Submission.insertions_of_unwritten_identity :
    Record.encodeId Ticket (Record.id Ticket.last) =
      .error (.serialization (.unsignedTooLarge 18446744073709551615)) ∧
    (∃ after : Recorder,
      (Repository.insertOne Ticket.last : Action Recorder Unit).outcome {} = (.ok (), after) ∧
      after.calls = [("ticket", .insertOne [("id", .int64 (-1))])] ∧
      after.store.documents Ticket = [[("id", .int64 (-1))]]) ∧
    ∃ after : Recorder,
      (Repository.insertMany [Ticket.last] : Action Recorder Unit).outcome {} = (.ok (), after) ∧
      after.calls = [("ticket", .insertMany [[("id", .int64 (-1))]])] ∧
      after.store.documents Ticket = [[("id", .int64 (-1))]] :=
  ⟨rfl, ⟨_, rfl, rfl, rfl⟩, _, rfl, rfl, rfl⟩

end RecordStore
