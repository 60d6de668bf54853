import RecordStore.Proofs.Collection
import RecordStore.Proofs.Register
import RecordStore.Proofs.Simulation
import RecordStore.Proofs.Update
/-!
# Collections that hold a register

A collection represents a register if it holds the documents of the register in order, each
with the identity it is registered under. The requests that address documents by identities
then do to the collection what the operations of the register do to the register, and give the
same answers.

## Main definitions

* `Collection.Represents`: a collection that holds a register.

## Main results

* `Collection.Represents.first?_of_none`, `Collection.Represents.first?_of_some`: the search for
  an identity in a collection is its lookup in the register.
* `Collection.simulates_insertOne`, `Collection.simulates_updateOne`, and so on: one simulation
  for each request.
-/

namespace RecordStore

/-! ### Collections that hold a register -/

/-- The document has each name once and holds the identity that it is registered under. -/
structure Document.RegisteredAs (field : String) (k : Identity) (d : Document) : Prop where
  identity : d.identity? field = some k
  names : d.names.Nodup

theorem Entry.Holds.registeredAs {field : String} {e : Entry} (h : e.Holds field) :
    e.document.RegisteredAs field e.key :=
  ⟨h.identity?, (Document.wellFormed_iff.1 h.wellFormed).1⟩

/-- A document stays registered when fields are set that leave its identity alone. -/
theorem Document.RegisteredAs.apply {field : String} {k : Identity} {d fields : Document}
    (h : d.RegisteredAs field k) (hkeep : (Update.apply fields d).1.get? field = d.get? field) :
    (Update.apply fields d).1.RegisteredAs field k :=
  ⟨(Document.identity?_congr hkeep).trans h.identity, Update.nodup_names_apply h.names⟩

/-- A collection with a given name and identity field holds the documents of a register in
order, each with the identity it is registered under. -/
structure Collection.Represents (name field : String) (c : Collection) (m : Register) :
    Prop where
  /-- The name. -/
  name : c.name = name
  /-- The identity field. -/
  idField : c.idField = field
  /-- The documents in order. -/
  documents : c.documents = m.values
  /-- What is known of each of them. -/
  registered : ∀ e ∈ m.entries, e.2.RegisteredAs field e.1

namespace Collection.Represents

variable {name field : String} {c : Collection} {m : Register} {k : Identity}

/-- The same collection holds what other entries list, if they are listed with their
identities. -/
theorem withDocuments (h : c.Represents name field m) {ds : List Document} {n : Register}
    (hds : ds = n.values) (hn : ∀ e ∈ n.entries, e.2.RegisteredAs field e.1) :
    (c.withDocuments ds).Represents name field n :=
  ⟨h.name, h.idField, hds, hn⟩

theorem identity (h : c.Represents name field m) {e : Identity × Document} (he : e ∈ m.entries) :
    e.2.identity? field = some e.1 :=
  (h.registered e he).identity

theorem registered_put (h : c.Represents name field m) {d : Document}
    (hd : d.RegisteredAs field k) : ∀ e ∈ (m.put k d).entries, e.2.RegisteredAs field e.1 := by
  intro e he
  cases hk : m.get? k with
  | none =>
    rw [OrderedMap.entries_put_of_none d hk, List.mem_append, List.mem_singleton] at he
    obtain he | rfl := he
    · exact h.registered e he
    · exact hd
  | some old =>
    rw [OrderedMap.put_of_some d hk] at he
    obtain ⟨e', he', rfl⟩ := List.mem_map.1 he
    by_cases hkey : e'.1 = k
    · simp only [hkey, if_true, hd]
    · simp only [if_neg hkey, h.registered e' he']

/-- A collection holds one document more if the identity of that is new. -/
theorem append (h : c.Represents name field m) {d : Document} (hk : m.get? k = none)
    (hd : d.RegisteredAs field k) :
    (c.withDocuments (c.documents ++ [d])).Represents name field (m.put k d) := by
  refine h.withDocuments ?_ (h.registered_put hd)
  rw [OrderedMap.values, OrderedMap.entries_put_of_none d hk, h.documents, OrderedMap.values,
    List.map_append, List.map_singleton]

theorem retain (h : c.Represents name field m) (p : Identity → Bool) {ds : List Document}
    (hds : ds = (m.retain p).values) :
    (c.withDocuments ds).Represents name field (m.retain p) :=
  h.withDocuments hds fun e he => h.registered e (List.mem_of_mem_filter he)

/-! ### Filters on identities -/

theorem exists_entry (h : c.Represents name field m) {d : Document} (hd : d ∈ c.documents) :
    ∃ e ∈ m.entries, e.2 = d := by
  rw [h.documents] at hd
  exact List.mem_map.1 hd

theorem firstFault?_eq_none {filter : Document} {p : Identity → Bool}
    (h : c.Represents name field m) (hp : Filter.Selects field filter p) :
    Filter.firstFault? filter c.documents = none := by
  rw [Filter.firstFault?_eq_none_iff]
  intro d hd
  obtain ⟨e, he, rfl⟩ := h.exists_entry hd
  exact ⟨p e.1, hp e.2 e.1 (h.identity he)⟩

theorem accepts_eq {filter : Document} {p : Identity → Bool} (h : c.Represents name field m)
    (hp : Filter.Selects field filter p) {e : Identity × Document} (he : e ∈ m.entries) :
    Filter.accepts filter e.2 = p e.1 := by
  rw [Filter.accepts, hp e.2 e.1 (h.identity he)]

theorem countP_accepts {filter : Document} {p : Identity → Bool}
    (h : c.Represents name field m) (hp : Filter.Selects field filter p) (q : Document → Bool) :
    c.documents.countP (fun d => Filter.accepts filter d && q d) =
      m.entries.countP fun e => p e.1 && q e.2 := by
  rw [h.documents, OrderedMap.values, List.countP_map]
  refine List.countP_congr fun e he => ?_
  rw [Function.comp_apply, h.accepts_eq hp he]

/-- An identity that is not registered is not found. -/
theorem first?_of_none (h : c.Represents name field m) {v : OrdinaryValue}
    (hk : m.get? (.of v) = none) :
    Filter.first? [(field, v.val)] c.documents = .ok none := by
  rw [Filter.first?_eq_none_iff]
  intro d hd
  obtain ⟨e, he, rfl⟩ := h.exists_entry hd
  rw [Filter.selects_identity field v e.2 e.1 (h.identity he)]
  exact congrArg Except.ok (decide_eq_false (OrderedMap.get?_eq_none_iff.1 hk e he))

/-- An identity that is registered is found in the place of its document, where a replacement
or a removal does what it does in the register. -/
theorem first?_of_some (h : c.Represents name field m) {v : OrdinaryValue} {d : Document}
    (hk : m.get? (.of v) = some d) :
    ∃ p, Filter.first? [(field, v.val)] c.documents = .ok (some p) ∧ p.document = d ∧
      (∀ new : Document, new.RegisteredAs field (.of v) →
        (c.withDocuments (p.replace new)).Represents name field (m.put (.of v) new)) ∧
      (c.withDocuments p.remove).Represents name field (m.retain fun k => k ≠ .of v) := by
  obtain ⟨before, after, hsplit, hbefore, hafter⟩ := OrderedMap.get?_eq_some_iff.1 hk
  have hselects := Filter.selects_identity field v
  refine ⟨⟨before.map Prod.snd, d, after.map Prod.snd⟩, ?_, rfl, fun new hnew => ?_, ?_⟩
  · rw [Filter.first?_eq_some_iff]
    refine ⟨?_, ?_, ?_⟩
    · rw [h.documents, OrderedMap.values, hsplit, List.map_append, List.map_cons]
    · have hmem : (Identity.of v, d) ∈ m.entries := by simp [hsplit]
      have haccepts := h.accepts_eq hselects hmem
      simpa using haccepts
    · intro x hx
      obtain ⟨e, he, rfl⟩ := List.mem_map.1 hx
      rw [h.accepts_eq hselects (by simp [hsplit, he])]
      exact decide_eq_false (hbefore e he)
  · refine h.withDocuments ?_ (h.registered_put hnew)
    rw [OrderedMap.put_of_some new hk, OrderedMap.values,
      OrderedMap.adjust_of_split hsplit hbefore hafter fun _ => new, List.map_append,
      List.map_cons]
    rfl
  · refine h.retain _ ?_
    rw [OrderedMap.values, OrderedMap.retain_of_split hsplit hbefore hafter, List.map_append]
    rfl

end Collection.Represents

namespace Collection

open RecordStore.Action

variable {name field : String} {e : Entry}

/-! ### Simulation of each request -/

/-- The test for a clash is a lookup in the register. -/
theorem Represents.checkNew_eq {c : Collection} {m : Register} (h : c.Represents name field m)
    (he : e.Holds field) :
    c.checkNew e.document =
      if m.has e.key then .error (.duplicateKey (name ++ "." ++ field ++ " = " ++ e.id.val.text))
      else .ok () := by
  have hany : c.documents.any (c.hasIdentity e.id.val) = m.has e.key := by
    rw [Bool.eq_iff_iff, List.any_eq_true, OrderedMap.has, Option.isSome_iff_ne_none, ne_eq,
      OrderedMap.get?_eq_none_iff]
    push Not
    rw [h.documents]
    simp only [OrderedMap.values, List.mem_map, exists_exists_and_eq_and, hasIdentity, h.idField]
    refine exists_congr fun x => and_congr_right fun hx => ?_
    rw [Document.has_of_identity? (h.identity hx), decide_eq_true_iff, Entry.key]
  simp only [checkNew, h.idField, he.get?, hany, h.name]

theorem simulates_insertOne (he : e.Holds field) :
    Simulates (Represents name field) (insertOne e.document)
      (Register.add (name ++ "." ++ field) e) := by
  intro c m h
  rw [outcome_insertOne, h.checkNew_eq he, Register.outcome_add]
  by_cases hk : m.has e.key = true
  · rw [if_pos hk, if_pos hk]
    exact ⟨rfl, h⟩
  · have hnone : m.get? e.key = none := by
      rwa [OrderedMap.has, Bool.not_eq_true, Option.isSome_eq_false_iff,
        Option.isNone_iff_eq_none] at hk
    rw [if_neg hk, if_neg hk]
    exact ⟨rfl, h.append hnone he.registeredAs⟩

theorem simulates_insertMany {es : List Entry} (hes : ∀ e ∈ es, e.Holds field) :
    Simulates (Represents name field) (insertMany (es.map Entry.document))
      (Register.addAll (name ++ "." ++ field) es) := by
  have hmap : insertMany (es.map Entry.document) = es.forM fun e => insertOne e.document :=
    List.forM_map
  rw [hmap]
  exact simulates_forM es fun e he => simulates_insertOne (hes e he)

/-- The fields of an entry with the same identity are such. -/
theorem registeredAs_apply (he : e.Holds field) {old : Document}
    (hold : old.RegisteredAs field e.key) :
    (Update.apply e.document old).1.RegisteredAs field e.key := by
  have hhas : old.has field e.id.val = true := by
    rw [Document.has_of_identity? hold.identity, Entry.key, decide_eq_true rfl]
  have hnames := (Document.wellFormed_iff.1 he.wellFormed).1
  refine hold.apply ?_
  rw [Update.get?_apply_of_some hnames he.get?, if_pos hhas]

theorem simulates_updateOne (he : e.Holds field) :
    Simulates (Represents name field)
      (updateOne [(field, e.id.val)] [("$set", .document e.document)]) (Register.assign e) := by
  intro c m h
  rw [outcome_updateOne, Register.outcome_assign]
  simp only [Update.changes]
  cases hk : m.get? e.key with
  | none =>
    rw [h.first?_of_none hk]
    exact ⟨rfl, h⟩
  | some old =>
    obtain ⟨p, hp, rfl, hput, -⟩ := h.first?_of_some hk
    have hold := h.registered _ (OrderedMap.mem_of_get?_eq_some hk)
    have hset := registeredAs_apply he hold
    have happly := Update.apply_eq (Document.wellFormed_iff.1 he.wellFormed).1 hold.names
    -- the update sets the identity that is there, so the document stays in its place
    rw [hp]
    simp only [happly] at hset ⊢
    refine ⟨?_, hput _ hset⟩
    cases (Update.unmet e.document p.document).isEmpty <;> rfl

theorem simulates_updateMany {filter fields : Document} {p : Identity → Bool}
    (hp : Filter.Selects field filter p) (hfield : fields.get? field = none)
    (hfields : fields.names.Nodup) :
    Simulates (Represents name field) (updateMany filter [("$set", .document fields)])
      (Register.assignAll p fields) := by
  intro c m h
  have happly : ∀ x ∈ m.entries, Update.apply fields x.2 =
      (x.2.overwrite (Update.unmet fields x.2), !(Update.unmet fields x.2).isEmpty) :=
    fun x hx => Update.apply_eq hfields (h.registered x hx).names
  rw [outcome_updateMany, Register.outcome_assignAll]
  simp only [Update.changes, h.firstFault?_eq_none hp]
  refine ⟨?_, h.withDocuments ?_ ?_⟩
  · have hmatched := h.countP_accepts hp fun _ => true
    have hmodified := h.countP_accepts hp fun d => (Update.apply fields d).2
    have hunmet : m.entries.countP (fun x => p x.1 && (Update.apply fields x.2).2) =
        m.entries.countP fun x => p x.1 && !(Update.unmet fields x.2).isEmpty :=
      List.countP_congr fun x hx => by rw [happly x hx]
    simp only [Bool.and_true] at hmatched
    rw [Update.countAll, hmatched, hmodified, hunmet]
  · rw [h.documents, OrderedMap.values, OrderedMap.values, OrderedMap.adjust, List.map_map,
      List.map_map]
    refine List.map_congr_left fun x hx => ?_
    simp only [Function.comp_apply, Update.updated, h.accepts_eq hp hx, happly x hx]
  · -- the identity field is not named, so every identity stays
    intro x hx
    obtain ⟨y, hy, rfl⟩ := List.mem_map.1 hx
    have hold := h.registered y hy
    dsimp only
    split
    · have hset := hold.apply (Update.get?_apply_of_none hfield y.2)
      rwa [happly y hy] at hset
    · exact hold

theorem simulates_deleteOne (v : OrdinaryValue) :
    Simulates (Represents name field) (deleteOne [(field, v.val)]) (Register.drop (.of v)) := by
  intro c m h
  rw [outcome_deleteOne, Register.outcome_drop]
  cases hk : m.get? (.of v) with
  | none =>
    rw [h.first?_of_none hk, OrderedMap.retain_of_none hk, OrderedMap.has, hk]
    exact ⟨rfl, h⟩
  | some d =>
    obtain ⟨p, hp, -, -, hremove⟩ := h.first?_of_some hk
    rw [hp, OrderedMap.has, hk]
    exact ⟨rfl, hremove⟩

theorem simulates_deleteMany {filter : Document} {p : Identity → Bool}
    (hp : Filter.Selects field filter p) :
    Simulates (Represents name field) (deleteMany filter) (Register.dropAll p) := by
  intro c m h
  rw [outcome_deleteMany, Register.outcome_dropAll]
  simp only [h.firstFault?_eq_none hp]
  refine ⟨?_, h.retain _ ?_⟩
  · have hcount := h.countP_accepts hp fun _ => true
    simp only [Bool.and_true] at hcount
    rw [hcount]
  · rw [h.documents, OrderedMap.values, OrderedMap.values, OrderedMap.retain, List.filter_map]
    refine congrArg _ (List.filter_congr fun x hx => ?_)
    rw [Function.comp_apply, h.accepts_eq hp hx]

theorem simulates_upsertOne (he : e.Holds field) (done : UpsertSummary) :
    Simulates (Represents name field) (upsertOne ⟨[(field, e.id.val)], e.document⟩ done)
      (Register.store e done) := by
  intro c m h
  rw [outcome_upsertOne, Register.outcome_store]
  cases hk : m.get? e.key with
  | none =>
    rw [h.first?_of_none hk, h.checkNew_eq he, OrderedMap.has, hk]
    exact ⟨rfl, h.append hk he.registeredAs⟩
  | some old =>
    obtain ⟨p, hp, rfl, hput, -⟩ := h.first?_of_some hk
    rw [hp]
    exact ⟨rfl, hput _ he.registeredAs⟩

theorem simulates_upsertAll {es : List Entry} (hes : ∀ e ∈ es, e.Holds field)
    (done : UpsertSummary) :
    Simulates (Represents name field)
      (upsertAll (es.map fun e => ⟨[(field, e.id.val)], e.document⟩) done)
      (Register.storeAll es done) := by
  induction es generalizing done with
  | nil => exact simulates_pure done
  | cons e rest ih =>
    obtain ⟨he, hrest⟩ := List.forall_mem_cons.1 hes
    exact (simulates_upsertOne he done).bind fun next => ih hrest next

theorem simulates_findOne (v : OrdinaryValue) :
    Simulates (Represents name field) (findOne [(field, v.val)])
      (Register.find (.of v)) := by
  intro c m h
  rw [outcome_findOne, Register.outcome_find]
  cases hk : m.get? (.of v) with
  | none =>
    rw [h.first?_of_none hk]
    exact ⟨rfl, h⟩
  | some d =>
    obtain ⟨p, hp, rfl, -, -⟩ := h.first?_of_some hk
    rw [hp]
    exact ⟨rfl, h⟩

theorem simulates_count : Simulates (Represents name field) (count []) Register.size := by
  intro c m h
  rw [outcome_count, Filter.select_eq, h.firstFault?_eq_none (Filter.selects_all field),
    Register.outcome_size]
  simp only [h.documents]
  have hall : m.values.filter (Filter.accepts []) = m.values :=
    List.filter_eq_self.2 fun d _ => Filter.accepts_nil
  rw [hall, OrderedMap.values]
  exact ⟨congrArg Except.ok (List.length_map _), h⟩

end Collection

end RecordStore
