import RecordStore.Proofs.ReadBack
import RecordStore.Proofs.StoreRequest
import RecordStore.Proofs.Update
/-!
# Updating a record by its fields

An update of a record sets the fields that its document has and leaves the other fields of the
stored document alone. What is read afterwards is what the two documents together are read as. A
record may leave a field out of its document, and then the stored one keeps it. The stored
document equals that of the record if and only if it had no field that the record leaves out.

## Main definitions

* `Update.merge`: a document with the fields of another one set.
* `Repository.Written`: what is written for a record is an entry, and is read back.

## Main results

* `Update.same_merge_iff`: when the fields that are set make up the whole document.
* `Repository.findById_after_updateOne`: what is read after an update.
-/

namespace RecordStore

/-! ### Merging documents -/

namespace Update

/-- The second document with the fields of the first one set. -/
abbrev merge (fields d : Document) : Document :=
  (apply fields d).1

variable {fields d : Document}

theorem mem_names_merge (hfields : fields.names.Nodup) (name : String) :
    name ∈ (merge fields d).names ↔ name ∈ fields.names ∨ name ∈ d.names := by
  have hnames : ∀ e : Document, name ∈ e.names ↔ e.get? name ≠ none := by
    intro e
    rw [ne_eq, Document.get?_eq_none_iff, Classical.not_not]
  rw [hnames, hnames, hnames]
  cases hname : fields.get? name with
  | none =>
    rw [get?_apply_of_none hname]
    simp
  | some value =>
    rw [get?_apply_of_some hfields hname]
    split
    · next hhas =>
      obtain ⟨found, hfound, -⟩ := Document.has_iff.1 hhas
      simp [hfound]
    · simp

/-- If the fields equal themselves, the merged document equals them if and only if the other one
has no further names. -/
theorem same_merge_iff (hfields : fields.wellFormed = true) (hd : d.wellFormed = true)
    (hself : fields.same fields = true) :
    (merge fields d).same fields = true ↔ d.names ⊆ fields.names := by
  have hnodup := (Document.wellFormed_iff.1 hfields).1
  have hmerged := (Document.wellFormed_iff.1 (wellFormed_apply hfields hd)).1
  simp only [Document.same, Bool.and_eq_true, beq_iff_eq, Value.sameFields_iff] at hself ⊢
  constructor
  · rintro ⟨-, hcovered⟩ name hname
    obtain ⟨p, hp, rfl⟩ := List.mem_map.1 ((mem_names_merge hnodup name).2 (.inr hname))
    obtain ⟨w, hw, -⟩ := hcovered p hp
    by_contra hmissing
    have hnone : fields.get? p.1 = none := Document.get?_eq_none_iff.2 hmissing
    rw [Document.get?, hw] at hnone
    cases hnone
  · intro hsubset
    have hmem : ∀ name, name ∈ (merge fields d).names ↔ name ∈ fields.names := by
      intro name
      rw [mem_names_merge hnodup]
      exact or_iff_left_of_imp fun hname => hsubset hname
    have hlength : (merge fields d).names.length = fields.names.length :=
      ((List.perm_ext_iff_of_nodup hmerged hnodup).2 hmem).length_eq
    refine ⟨by simpa only [Document.names, List.length_map] using hlength, fun p hp => ?_⟩
    have hp' : (merge fields d).get? p.1 = some p.2 := Document.lookup_eq_of_mem hmerged hp
    obtain ⟨q, hq, hname⟩ := List.mem_map.1 ((hmem p.1).1 (List.mem_map_of_mem hp))
    have hq' : fields.get? p.1 = some q.2 := hname ▸ Document.lookup_eq_of_mem hnodup hq
    refine ⟨q.2, hq', ?_⟩
    rw [get?_apply_of_some hnodup hq'] at hp'
    split at hp'
    · next hhas =>
      obtain ⟨found, hfound, hsame⟩ := Document.has_iff.1 hhas
      rw [hfound] at hp'
      cases hp'
      exact hsame
    · -- the value is that of the field itself, and every field equals itself
      rw [← Option.some.inj hp']
      obtain ⟨w, hw, hsame⟩ := hself.2 q hq
      rw [Document.lookup_eq_of_mem hnodup hq] at hw
      cases hw
      exact hsame

end Update

/-! ### Updating a record -/

namespace Repository

variable {ρ ι : Type} [Record ρ ι] {r : ρ} {e : Entry} {s t : Store}

/-- What is written for a record is an entry, and the record is read back from its document. -/
structure Written (r : ρ) (e : Entry) : Prop where
  encodeId : Record.encodeId ρ (Record.id r) = .ok e.id.val
  encode : Record.encode r = .ok e.document
  holds : e.Holds (Record.idField ρ)
  decode : Record.decode e.document = .ok r

/-- A document that holds an identity is found in the place of the first that did. -/
theorem first?_replace {field : String} {v : Value} {ds : List Document} {p : Filter.Place}
    {d : Document} (hp : Filter.first? [(field, v)] ds = .ok (some p))
    (hd : Filter.accepts [(field, v)] d = true) :
    Filter.first? [(field, v)] (p.replace d) = .ok (some { p with document := d }) := by
  obtain ⟨-, -, hbefore⟩ := Filter.first?_eq_some_iff.1 hp
  exact Filter.first?_eq_some_iff.2 ⟨rfl, hd, hbefore⟩

theorem accepts_identity (v : OrdinaryValue) (field : String) (d : Document) :
    Filter.accepts [(field, v.val)] d = d.has field v.val :=
  Filter.accepts_value v.isOperators_eq_false

/-- An update that matches sets the fields on the first document with the identity. -/
theorem exists_place_of_updateOne (he : Written r e) {result : UpdateResult}
    (hupdate : (updateOne r : Action Store UpdateResult).outcome s = (.ok result, t))
    (hmatched : result.matched = 1) :
    ∃ p, Filter.first? [(Record.idField ρ, e.id.val)] (s.documents ρ) = .ok (some p) ∧
      t = s.withDocuments ρ (p.replace (Update.merge e.document p.document)) := by
  rw [outcome_updateOne he.encodeId he.encode] at hupdate
  cases hplace : Filter.first? [(Record.idField ρ, e.id.val)] (s.documents ρ) with
  | error f =>
    rw [hplace] at hupdate
    cases hupdate
  | ok place =>
    rw [hplace] at hupdate
    cases place with
    | none =>
      cases hupdate
      cases hmatched
    | some p =>
      cases hupdate
      exact ⟨p, rfl, rfl⟩

/-- A document that holds the identity is read if it is put in the first place that has it. -/
theorem outcome_findById_replace (he : Written r e) {p : Filter.Place} {d : Document}
    (hp : Filter.first? [(Record.idField ρ, e.id.val)] (s.documents ρ) = .ok (some p))
    (hd : d.has (Record.idField ρ) e.id.val = true) :
    ((findById ρ (Record.id r) : Action Store ρ).outcome
      (s.withDocuments ρ (p.replace d))).1 = Record.decode d := by
  rw [← accepts_identity] at hd
  rw [outcome_findById he.encodeId, Store.documents_withDocuments, first?_replace hp hd]

/-- **What is read after an update.** An update that matches merges the document of the record
into the first stored one with its identity, and what is read afterwards is what the merged
document is read as. That document equals the one of the record, which a batch write leaves, if
and only if the stored one had no field that the record leaves out. -/
theorem findById_after_updateOne (he : Written r e)
    (hwell : ∀ d ∈ s.documents ρ, d.wellFormed = true) {result : UpdateResult}
    (hupdate : (updateOne r : Action Store UpdateResult).outcome s = (.ok result, t))
    (hmatched : result.matched = 1) :
    ∃ before old after, s.documents ρ = before ++ old :: after ∧
      old.has (Record.idField ρ) e.id.val = true ∧
      t.documents ρ = before ++ Update.merge e.document old :: after ∧
      ((findById ρ (Record.id r) : Action Store ρ).outcome t).1 =
        Record.decode (Update.merge e.document old) ∧
      (∀ name, (Update.merge e.document old).get? name =
        match e.document.get? name with
        | some v => if old.has name v then old.get? name else some v
        | none => old.get? name) ∧
      (e.document.same e.document = true →
        ((Update.merge e.document old).same e.document = true ↔
          old.names ⊆ e.document.names)) ∧
      ((bulkWrite [r] : Action Store UpsertSummary).outcome s).2.documents ρ =
        before ++ e.document :: after ∧
      ((findById ρ (Record.id r) : Action Store ρ).outcome
        ((bulkWrite [r] : Action Store UpsertSummary).outcome s).2).1 = .ok r := by
  obtain ⟨p, hp, rfl⟩ := exists_place_of_updateOne he hupdate hmatched
  obtain ⟨hsplit, haccepts, -⟩ := Filter.first?_eq_some_iff.1 hp
  have hnodup := (Document.wellFormed_iff.1 he.holds.wellFormed).1
  have hold : p.document.wellFormed = true := hwell p.document (by rw [hsplit]; simp)
  have hid : p.document.has (Record.idField ρ) e.id.val = true := accepts_identity .. ▸ haccepts
  have hmerged : (Update.merge e.document p.document).has (Record.idField ρ) e.id.val = true := by
    obtain ⟨found, hfound, hsame⟩ :=
      Update.exists_get?_apply he.holds.wellFormed hold he.holds.get?
    exact Document.has_iff.2 ⟨found, hfound, (hsame e.id.val).2.trans e.id.same_self⟩
  have hwritten : e.document.has (Record.idField ρ) e.id.val = true :=
    Document.has_iff.2 ⟨e.id.val, he.holds.get?, e.id.same_self⟩
  have hbulk := outcome_bulkWrite_singleton he.encodeId he.encode hp
  refine ⟨p.before, p.document, p.after, hsplit, hid, ?_, outcome_findById_replace he hp hmerged,
    fun name => ?_, Update.same_merge_iff he.holds.wellFormed hold, ?_, ?_⟩
  · exact Store.documents_withDocuments ρ s _
  · cases hname : e.document.get? name with
    | none => exact Update.get?_apply_of_none hname p.document
    | some v => exact Update.get?_apply_of_some hnodup hname p.document
  · rw [hbulk]
    exact Store.documents_withDocuments ρ s _
  · rw [hbulk, outcome_findById_replace he hp hwritten, he.decode]

end Repository

/-! ### A record that leaves a field out -/

namespace Event

/-- An event with a note. -/
def noted : Event where
  id := ⟨"a", 1⟩
  count := 1
  tags := []
  note := some "x"

/-- The same event without a note. -/
def unnoted : Event :=
  { noted with note := none }

/-- The store that holds the event with a note. -/
def storeOfNoted : Store :=
  ((Repository.insertOne noted : Action Store Unit).outcome {}).2

end Event

namespace Repository

open Event

/-- An event without a note is written over one with a note; a batch write removes the note. -/
theorem findById_after_updateOne_unnoted :
    ∃ e t before old after, Written unnoted e ∧
      (∀ d ∈ storeOfNoted.documents Event, d.wellFormed = true) ∧
      (updateOne unnoted : Action Store UpdateResult).outcome storeOfNoted = (.ok ⟨1, 0⟩, t) ∧
      t.documents Event = before ++ Update.merge e.document old :: after ∧
      ((findById Event unnoted.id : Action Store Event).outcome
        ((bulkWrite [unnoted] : Action Store UpsertSummary).outcome storeOfNoted).2).1 =
          .ok unnoted := by
  have hwritten : Written unnoted
      ⟨⟨unnoted.id.toValue, by decide⟩,
        [("id", unnoted.id.toValue), ("count", .int64 1), ("tags", .array [])]⟩ :=
    { encodeId := rfl
      encode := rfl
      holds := ⟨rfl, by decide⟩
      decode := by decide +kernel }
  have hwell : ∀ d ∈ storeOfNoted.documents Event, d.wellFormed = true := by decide +kernel
  have hanswer : ((updateOne unnoted : Action Store UpdateResult).outcome storeOfNoted).1 =
      .ok ⟨1, 0⟩ := by decide +kernel
  rcases hupdate : (updateOne unnoted : Action Store UpdateResult).outcome storeOfNoted with
    ⟨answer, t⟩
  rw [hupdate] at hanswer
  cases hanswer
  obtain ⟨before, old, after, -, -, hleft, -, -, -, -, hbulk⟩ :=
    findById_after_updateOne hwritten hwell hupdate rfl
  exact ⟨_, t, before, old, after, hwritten, hwell, rfl, hleft, hbulk⟩

/-- Events are read back from their documents, and yet an update leaves the note as it was. -/
theorem findById_after_updateOne_eq_stale :
    (∀ (r : Event) d, Record.encode r = .ok d → Record.decode d = .ok r) ∧
      ((insertOne noted : Action Store Unit).outcome {}).1 = .ok () ∧
      ((updateOne unnoted : Action Store UpdateResult).outcome storeOfNoted).1 = .ok ⟨1, 0⟩ ∧
      ((findById Event unnoted.id : Action Store Event).outcome
        ((updateOne unnoted : Action Store UpdateResult).outcome storeOfNoted).2).1 = .ok noted ∧
      noted ≠ unnoted := by
  refine ⟨fun r d => Event.decode_toDocument, ?_, ?_, ?_, ?_⟩ <;> decide +kernel

end Repository

end RecordStore
