import RecordStore.Proofs.ReadBack
import RecordStore.Proofs.Representation
import RecordStore.Store
/-!
# Repositories as ordered maps

A repository of lawful records on a store in memory behaves as a `Register`, a map from
identities to documents in the order of insertion. Every call on the repository has a meaning
on a register that mentions neither filters nor requests (`Call.serve`). From an empty
collection on, the answers of all calls are those of the register, and the collection holds the
documents of the register in order. Other collections stay as they are.

## Main definitions

* `Call`, `Call.perform`: the calls on a repository and what they do.
* `Call.serve`: what they mean on a register.
* `Repository.Holds`: a store whose collection of records holds a register.

## Main results

* `Call.simulates_perform`: one call.
* `Call.findById_after_bulkWrite`: a record that was written is found by its identity.
* `Repository.answers_eq_register`: every sequence of calls.
-/

namespace RecordStore

/-- A call on the repository of a type of records. Fields that are set on several records do
not name the identity field, and each of them is named once. -/
inductive Call (ρ : Type) {ι : Type} [Record ρ ι]
  /-- Adds a record. -/
  | insertOne (record : ρ)
  /-- Adds records one after the other. -/
  | insertMany (records : List ρ)
  /-- Sets every field of a record. -/
  | updateOne (record : ρ)
  /-- Sets the same fields on several records. -/
  | updateMany (ids : List ι) (fields : Document) (hfield : Record.idField ρ ∉ fields.names)
    (hfields : fields.names.Nodup)
  /-- Replaces or adds each record. -/
  | bulkWrite (records : List ρ)
  /-- Removes a record. -/
  | deleteById (id : ι)
  /-- Removes several records, or all. -/
  | deleteMany (ids : List ι)
  /-- The record with an identity. -/
  | findById (id : ι)
  /-- How many records there are. -/
  | count

namespace Call

variable {ρ ι : Type} [Record ρ ι]

/-- The type of the answer to a call. -/
abbrev Reply : Call ρ → Type
  | insertOne _ => Unit
  | insertMany _ => Unit
  | updateOne _ => UpdateResult
  | updateMany _ _ _ _ => UpdateResult
  | bulkWrite _ => UpsertSummary
  | deleteById _ => Nat
  | deleteMany _ => Nat
  | findById _ => ρ
  | count => Nat

/-- What a call does on a backend. -/
def perform {σ : Type} [Backend σ] : (call : Call ρ) → Action σ call.Reply
  | insertOne record => Repository.insertOne record
  | insertMany records => Repository.insertMany records
  | updateOne record => Repository.updateOne record
  | updateMany ids fields _ _ => Repository.updateMany ρ ids fields
  | bulkWrite records => Repository.bulkWrite records
  | deleteById id => Repository.deleteById ρ id
  | deleteMany ids => Repository.deleteMany ρ ids
  | findById id => Repository.findById ρ id
  | count => Repository.count ρ

section Meaning

variable [LawfulRecord ρ]

open Repository

/-- The place of the identities of a type of records, which messages name. -/
def place (ρ : Type) {ι : Type} [Record ρ ι] : String :=
  Record.collection ρ ++ "." ++ Record.idField ρ

/-- What a call means on a register. What cannot be written leaves the register alone. -/
def serve : (call : Call ρ) → Action Register call.Reply
  | insertOne record => do
    let e ← newEntry record
    Register.add (place ρ) e
  | insertMany records => do
    let es ← records.mapM (m := Except StorageError) newEntry
    Register.addAll (place ρ) es
  | updateOne record => do
    let e ← entry record
    Register.assign e
  | updateMany ids fields _ _ =>
    if ids.isEmpty then throw (.invalidRequest (.noIdentities (Record.collection ρ)))
    else do
      let vs ← ids.mapM (m := Except StorageError) (identityOf ρ)
      Register.assignAll (fun k => k ∈ vs.map Identity.of) fields
  | bulkWrite records => do
    let es ← records.mapM (m := Except StorageError) entry
    Register.storeAll es {}
  | deleteById id => do
    let v ← identityOf ρ id
    Register.drop (.of v)
  | deleteMany ids =>
    if ids.isEmpty then Register.dropAll fun _ => true
    else do
      let vs ← ids.mapM (m := Except StorageError) (identityOf ρ)
      Register.dropAll fun k => k ∈ vs.map Identity.of
  | findById id => do
    let v ← identityOf ρ id
    match ← Register.find (.of v) with
    | some d => Record.decode d
    | none => throw .notFound
  | count => Register.size

end Meaning

end Call

namespace Repository

open RecordStore.Action

variable {ρ ι : Type} [Record ρ ι]

/-- The collection of the records holds a register, and all other collections are as at the
start. -/
structure Holds (ρ : Type) {ι : Type} [Record ρ ι] (start s : Store) (m : Register) : Prop where
  /-- The collection of the records. -/
  collection : (s.collection (Record.collection ρ)).Represents (Record.collection ρ)
    (Record.idField ρ) m
  /-- The other collections. -/
  others : ∀ other, other ≠ Record.collection ρ → s.contents other = start.contents other

/-- A collection that is put into a store is there, with its name and the store's field. -/
theorem collection_put (s : Store) {name : String} {c : Collection} (hname : c.name = name)
    (hfield : c.idField = s.idField) : (s.put name c.toContents).collection name = c := by
  obtain ⟨contents, own, field⟩ := c
  cases hname
  cases hfield
  simp [Store.collection]

/-- What is simulated by a request to the collection is simulated on the store. -/
theorem simulates_request {start : Store} {r : Request} {y : Action Register r.Reply}
    (h : Simulates (Collection.Represents (Record.collection ρ) (Record.idField ρ))
      (Collection.perform r) y) :
    Simulates (Holds ρ start) (request ρ r : Action Store r.Reply) y := by
  intro s m hs
  obtain ⟨hanswer, hstate⟩ := h _ m hs.collection
  have hfield := hstate.idField.trans hs.collection.idField.symm
  refine ⟨hanswer, ?_, fun other hother => ?_⟩
  · have hput := collection_put s hstate.name hfield
    exact hput.symm ▸ hstate
  · rw [← hs.others other hother]
    exact Store.contents_put_of_ne s _ hother

/-- What is written before a request takes part in no state. -/
theorem simulates_written {α β γ σ τ : Type} {R : σ → τ → Prop} {x : Except StorageError α}
    {y : Except StorageError β} {g : β → α} (hxy : x = y.map g) {f : α → Action σ γ}
    {f' : β → Action τ γ} (h : ∀ b, y = .ok b → Simulates R (f (g b)) (f' b)) :
    Simulates R (liftM x >>= f) (liftM y >>= f') := by
  subst hxy
  cases y with
  | error e => exact fun s t hst => ⟨rfl, hst⟩
  | ok b => exact h b rfl

end Repository

open Repository RecordStore.Action Collection in
/-- Every call does to the store what it means on the register. -/
theorem Call.simulates_perform {ρ ι : Type} [Record ρ ι] [LawfulRecord ρ] {start : Store}
    (call : Call ρ) :
    Simulates (Holds ρ start) (call.perform : Action Store call.Reply) call.serve := by
  cases call with
  | insertOne record =>
    refine simulates_written (encode_eq record) fun e he => simulates_request ?_
    exact simulates_insertOne (holds_newEntry he)
  | insertMany records =>
    -- without records no request is sent
    cases records with
    | nil => exact simulates_pure ()
    | cons record rest =>
      have hwritten := Except.mapM_eq_map_of_forall fun r (_ : r ∈ record :: rest) => encode_eq r
      refine simulates_written hwritten fun es hes => ?_
      refine simulates_request (simulates_insertMany ?_)
      exact Except.forall_mem_of_mapM (fun r e => holds_newEntry) hes
  | updateOne record =>
    -- the request is built from two encodings, and if one of them fails nothing is sent
    intro s m hs
    simp only [perform, serve, Repository.updateOne, outcome_bind, outcome_lift, idFilter_eq, entry]
    cases hv : identityOf ρ (Record.id record) with
    | error f => exact ⟨rfl, hs⟩
    | ok v =>
      cases hd : Record.encode record with
      | error f => exact ⟨rfl, hs⟩
      | ok d => exact simulates_request (simulates_updateOne (holds_of_encode hd hv)) s m hs
  | updateMany ids fields hfield hfields =>
    simp only [perform, serve, Repository.updateMany]
    split
    · exact fun s t hst => ⟨rfl, hst⟩
    · refine simulates_written (idsFilter_eq ids) fun vs _ => simulates_request ?_
      exact simulates_updateMany (Filter.selects_identities _ vs)
        (Document.get?_eq_none_iff.2 hfield) hfields
  | bulkWrite records =>
    cases records with
    | nil => exact simulates_pure ({} : UpsertSummary)
    | cons record rest =>
      have hwritten := Except.mapM_eq_map_of_forall fun r (_ : r ∈ record :: rest) => upsert_eq r
      refine simulates_written hwritten fun es hes => ?_
      refine simulates_request (simulates_upsertAll ?_ {})
      exact Except.forall_mem_of_mapM (fun r e => holds_entry) hes
  | deleteById id =>
    refine simulates_written (idFilter_eq id) fun v _ => simulates_request ?_
    exact simulates_deleteOne v
  | deleteMany ids =>
    cases ids with
    | nil =>
      have hall := Filter.selects_all (Record.idField ρ)
      exact simulates_request (r := .deleteMany []) (simulates_deleteMany hall)
    | cons id rest =>
      refine simulates_written (idsFilter_eq (id :: rest)) fun vs _ => simulates_request ?_
      exact simulates_deleteMany (Filter.selects_identities _ vs)
  | findById id =>
    refine simulates_written (idFilter_eq id) fun v _ => ?_
    refine (simulates_request (simulates_findOne v)).bind fun d => ?_
    cases d with
    | none => exact fun s t hst => ⟨rfl, hst⟩
    | some d => exact simulates_lift _
  | count => exact simulates_request simulates_count

namespace Call

variable {ρ ι : Type} [Record ρ ι]

/-- The store that calls leave, performed one after the other. -/
def performAll (calls : List (Call ρ)) (s : Store) : Store :=
  calls.foldl (fun s call => (call.perform.outcome s).2) s

variable [LawfulRecord ρ]

/-- The register that calls leave, served one after the other. -/
def serveAll (calls : List (Call ρ)) (m : Register) : Register :=
  calls.foldl (fun m call => (call.serve.outcome m).2) m

/-- A record that is registered with its document is found and read back. -/
theorem serve_findById_of_get? {r : ρ} {e : Entry} {m : Register}
    (he : Repository.entry r = .ok e) (h : m.get? e.key = some e.document) :
    (findById (Record.id r)).serve.outcome m = (.ok r, m) := by
  obtain ⟨v, hv, he⟩ := Except.exists_of_bind he
  obtain ⟨d, hd, he⟩ := Except.exists_of_bind he
  cases he
  simp only [serve, Register.find, Action.outcome_bind, Action.outcome_lift, Action.outcome_get,
    Action.outcome_pure, hv]
  rw [show m.get? (.of v) = some d from h]
  exact congrArg (·, m) (LawfulRecord.decode_encode hd)

/-- A record that was written last is found by its identity. -/
theorem findById_after_bulkWrite {r : ρ} {e : Entry} (m : Register)
    (he : Repository.entry r = .ok e) :
    ((findById (Record.id r)).serve.outcome ((bulkWrite [r]).serve.outcome m).2).1 = .ok r := by
  have hstate : ((bulkWrite [r]).serve.outcome m).2 = m.put e.key e.document := by
    have hes : [r].mapM (m := Except StorageError) Repository.entry = .ok [e] := by
      rw [List.mapM_cons, he]
      rfl
    rw [serve, Action.outcome_bind, Action.outcome_lift, hes]
    simp only [Register.storeAll, Action.outcome_bind, Register.outcome_store]
    rfl
  rw [hstate, serve_findById_of_get? he (OrderedMap.get?_put_self m e.key e.document)]

end Call

namespace Repository

open RecordStore.Action

variable {ρ ι : Type} [Record ρ ι]

theorem holds_empty {start : Store} (hfield : start.idField = Record.idField ρ)
    (hempty : (start.contents (Record.collection ρ)).documents = []) :
    Holds ρ start start .empty :=
  ⟨⟨rfl, hfield, hempty, fun _ he => absurd he List.not_mem_nil⟩, fun _ _ => rfl⟩

variable [LawfulRecord ρ]

/-- A run of calls keeps the store in line with the register. -/
theorem Holds.performAll {start s : Store} {m : Register} (h : Holds ρ start s m)
    (calls : List (Call ρ)) :
    Holds ρ start (Call.performAll calls s) (Call.serveAll calls m) := by
  induction calls generalizing s m with
  | nil => exact h
  | cons call rest ih => exact ih (call.simulates_perform s m h).2

/-- **Repositories are ordered maps.** A repository starts on an empty collection of a store
with the same identity field. After any calls the collection holds the documents of the
register that the calls mean, in order and each under its identity, all other collections are
as before, and the next call, whichever it is, gives the answer of the register. -/
theorem answers_eq_register {start : Store} (hfield : start.idField = Record.idField ρ)
    (hempty : (start.contents (Record.collection ρ)).documents = []) (calls : List (Call ρ)) :
    Holds ρ start (Call.performAll calls start) (Call.serveAll calls .empty) ∧
      ∀ next : Call ρ, (next.perform.outcome (Call.performAll calls start)).1 =
        (next.serve.outcome (Call.serveAll calls .empty)).1 := by
  have hholds := (holds_empty hfield hempty).performAll calls
  exact ⟨hholds, fun next => (next.simulates_perform _ _ hholds).1⟩

/-- Calls on events: two are added, one of them is replaced and a third is put behind them, fields
are set on one and then on the others, and the last is removed. -/
def eventCalls : List (Call Event) :=
  [.insertMany [⟨⟨"a", 1⟩, 1, ["x"], some "early"⟩, ⟨⟨"a", 2⟩, 2, [], none⟩],
    .bulkWrite [⟨⟨"a", 2⟩, 5, [], none⟩, ⟨⟨"b", 1⟩, 7, [], none⟩],
    .updateOne ⟨⟨"a", 1⟩, 3, ["x"], none⟩,
    .updateMany [⟨"a", 2⟩, ⟨"b", 1⟩] [("note", .string "late")] (by decide) (by decide),
    .deleteById ⟨"b", 1⟩]

/-- What was set is found, and setting it once more finds one document to modify. -/
theorem answers_eq_register_of_events :
    ({} : Store).idField = Record.idField Event ∧
      (({} : Store).contents (Record.collection Event)).documents = [] ∧
      ((Call.findById ⟨"a", 1⟩ : Call Event).perform.outcome
        (Call.performAll eventCalls ({} : Store))).1 =
          .ok (⟨⟨"a", 1⟩, 3, ["x"], some "early"⟩ : Event) ∧
      ((Call.updateMany [⟨"a", 1⟩, ⟨"a", 2⟩] [("note", .string "late")] (by decide) (by decide) :
        Call Event).perform.outcome (Call.performAll eventCalls ({} : Store))).1 =
          .ok (⟨2, 1⟩ : UpdateResult) := by
  have hempty : (({} : Store).contents (Record.collection Event)).documents = [] := rfl
  have hregister := (answers_eq_register rfl hempty eventCalls).2
  exact ⟨rfl, hempty, (hregister (.findById ⟨"a", 1⟩)).trans rfl,
    (hregister (.updateMany [⟨"a", 1⟩, ⟨"a", 2⟩] [("note", .string "late")]
      (by decide) (by decide))).trans rfl⟩

end Repository

end RecordStore
