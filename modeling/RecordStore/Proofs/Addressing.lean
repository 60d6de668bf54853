import RecordStore.Proofs.Identity
import RecordStore.Proofs.Nesting
import RecordStore.Proofs.ReadBack
import RecordStore.Proofs.StoreRequest
import RecordStore.Proofs.Uniqueness
import RecordStore.Records.Blob
/-!
# Addressing by one identity and by several

A repository addresses one record by a filter that holds the written identity itself, and several
records by a test for membership in the list of theirs. Membership always compares. The identity
itself is compared too, unless it is a document of operators, which is evaluated as such. Then
the place that is found need not hold the identity.

Both ways remove the same documents if the place that is found holds the identity, or if nothing
does where none is found. A document of operators fails this on some store: it equals nothing
within itself, so operators that hold of it are all inequalities, and these hold of a document
without an identity.

## Main definitions

* `Store.Distinct`: a store in which identities are unique.
* `Filter.FindsHolder`: the search for a value finds a document that has it.
* `Repository.ReadsIdentity`: a record is read with the identity that is stored.
* `Repository.AddressedAlike`: both ways agree on a store.

## Main results

* `Repository.outcome_deleteMany`: several records are removed by comparison.
* `Repository.deleteById_eq_deleteMany_iff`: when both ways remove the same.
* `Repository.addressedAlike_iff`: the identities for which both ways agree on every store.
-/

namespace RecordStore

/-! ### Searching for a value -/

namespace Filter

variable {d : Document} {field : String} {v : Value}

/-- An operator that holds of the document in which it stands is an inequality, so it holds of a
missing field. -/
theorem holds_none_of_self {operators : Document} {operator : String} {operand : Value}
    (hmem : (operator, operand) ∈ operators)
    (h : holds (some (.document operators)) operator operand = .ok true) :
    holds none operator operand = .ok true := by
  unfold holds at h ⊢
  split at h
  · rw [equals, Value.same_eq_false_of_mem hmem] at h
    cases h
  · rfl
  · split at h
    · next candidates =>
      have hnone : candidates.any (equals (some (.document operators))) = false := by
        rw [List.any_eq_false]
        intro candidate hcandidate
        rw [equals, Value.same_eq_false_of_mem_array hmem hcandidate]
        exact Bool.false_ne_true
      rw [hnone] at h
      cases h
    · cases h
  · cases h

theorem allHold_none_of_self {operators : Document}
    (h : allHold (some (.document operators)) operators = .ok true) :
    allHold none operators = .ok true := by
  -- the induction is on the operators that are left, while the field holds all of them
  have hleft : ∀ left : Document, left ⊆ operators →
      allHold (some (.document operators)) left = .ok true → allHold none left = .ok true := by
    intro left
    induction left with
    | nil => exact fun _ _ => rfl
    | cons entry rest ih =>
      obtain ⟨operator, operand⟩ := entry
      intro hsubset hall
      obtain ⟨hmem, hrest⟩ := List.cons_subset.1 hsubset
      rw [allHold_cons] at hall ⊢
      split at hall
      · cases hall
      · rw [holds_none_of_self hmem ‹_›]
        exact ih hrest hall
      · cases hall
  exact hleft operators (List.Subset.refl _) h

/-- The search for a value finds a document that has it, and fails to find one only if none
has. -/
def FindsHolder (field : String) (v : Value) (ds : List Document) : Prop :=
  match first? [(field, v)] ds with
  | .ok (some p) => p.document.has field v = true
  | .ok none => ∀ d ∈ ds, d.has field v = false
  | .error _ => False

theorem findsHolder_of_not_isOperators (h : v.isOperators = false) (ds : List Document) :
    FindsHolder field v ds := by
  unfold FindsHolder
  split
  · next p hp => rw [← accepts_value h]; exact (first?_eq_some_iff.1 hp).2.1
  · next hnone =>
    intro d hd
    rw [← accepts_value h, accepts, first?_eq_none_iff.1 hnone d hd]
  · next e he =>
    obtain ⟨d, -, hd⟩ := List.exists_of_findSome?_eq_some (first?_eq_error_iff.1 he)
    rw [fault?_eq_some_iff, test_singleton, meets_of_not_isOperators h] at hd
    cases hd

/-- The document in a place is the one that a removal by a condition removes if and only if it
meets the condition and no other one does. -/
theorem Place.remove_eq_filter_iff {p : Place} {q : Document → Bool} :
    ((p.before ++ p.document :: p.after).countP q = 1 ∧
        p.remove = (p.before ++ p.document :: p.after).filter (!q ·)) ↔
      q p.document = true ∧ ∀ d ∈ p.before ++ p.after, q d = false := by
  have hothers : p.remove.countP q = 0 ↔ ∀ d ∈ p.before ++ p.after, q d = false := by
    simp only [remove, List.countP_eq_zero, Bool.not_eq_true]
  rw [← hothers]
  constructor
  · rintro ⟨hcount, hremove⟩
    -- no document that is left meets the condition, so the removed one does
    have hzero : p.remove.countP q = 0 := by
      rw [hremove, List.countP_eq_zero]
      intro d hd
      simpa using (List.mem_filter.1 hd).2
    refine ⟨?_, hzero⟩
    rw [remove, List.countP_append] at hzero
    by_contra hdocument
    rw [List.countP_append, List.countP_cons, if_neg hdocument] at hcount
    omega
  · rintro ⟨hdocument, hzero⟩
    have hkept : p.remove.filter (!q ·) = p.remove :=
      List.filter_eq_self.2 fun d hd => by rw [hothers.1 hzero d hd, Bool.not_false]
    rw [remove, List.countP_append] at hzero
    rw [remove, List.filter_append] at hkept
    rw [List.countP_append, List.countP_cons, if_pos hdocument, List.filter_append,
      List.filter_cons_of_neg (by simp [hdocument]), hkept]
    exact ⟨by omega, rfl⟩

theorem findsHolder_singleton_iff :
    FindsHolder field v [d] ↔ test d [(field, v)] = .ok (d.has field v) := by
  unfold FindsHolder
  rw [first?_cons]
  cases test d [(field, v)] with
  | error e => simp
  | ok found =>
    rw [Except.ok.injEq, eq_comm]
    cases found with
    | true => rfl
    | false => simp [first?, Except.map]

/-- Operators that find the document in which they stand find one without the field as well, so
a value that always finds its holder is none. -/
theorem isOperators_eq_false_of_findsHolder (hself : v.same v = true)
    (hheld : FindsHolder field v [[(field, v)]]) (hmissing : FindsHolder field v [[]]) :
    v.isOperators = false := by
  rw [Bool.eq_false_iff]
  intro hv
  obtain ⟨operators, rfl⟩ : ∃ operators, v = .document operators := by
    cases v with
    | document operators => exact ⟨operators, rfl⟩
    | _ => cases hv
  have hmeets : ∀ found : Option Value,
      meets found (.document operators) = allHold found operators := fun found => by
    rw [meets, if_pos (show isOperators operators = true from hv)]
  have hget : Document.get? [(field, .document operators)] field = some (.document operators) :=
    List.lookup_cons_self
  rw [findsHolder_singleton_iff, test_singleton, hmeets] at hheld hmissing
  rw [hget, Document.has_iff.2 ⟨_, hget, hself⟩] at hheld
  -- the other document has no field at all
  have hnone : allHold none operators = .ok false := hmissing
  rw [allHold_none_of_self hheld] at hnone
  cases hnone

end Filter

/-! ### Requests by identities -/

namespace Store

variable {ρ ι : Type} [Record ρ ι]

/-- The collection of a type of records, with the field in which records hold their identity. -/
def view (ρ : Type) {ι : Type} [Record ρ ι] (s : Store) : Collection :=
  { s.contents (Record.collection ρ) with
    name := Record.collection ρ, idField := Record.idField ρ }

theorem documents_view (s : Store) : (view ρ s).documents = documents ρ s := rfl

/-- Documents have each name once, and no two of them the same identity of a record. -/
structure Distinct (ρ : Type) {ι : Type} [Record ρ ι] (s : Store) : Prop where
  wellFormed : (view ρ s).WellFormed
  unique : (view ρ s).Unique

@[simp] theorem withDocuments_documents (s : Store) :
    withDocuments ρ s (documents ρ s) = s :=
  put_contents s _

theorem withDocuments_inj_iff {s : Store} {ds es : List Document} :
    withDocuments ρ s ds = withDocuments ρ s es ↔ ds = es := by
  refine ⟨fun h => ?_, fun h => by rw [h]⟩
  rw [← documents_withDocuments ρ s ds, h, documents_withDocuments]

theorem distinct_withDocuments_singleton (s : Store) {d : Document} (hd : d.wellFormed = true) :
    Distinct ρ (withDocuments ρ s [d]) := by
  refine ⟨fun e he => ?_, ?_⟩
  · rw [documents_view, documents_withDocuments, List.mem_singleton] at he
    rwa [he]
  · unfold Collection.Unique
    rw [documents_view, documents_withDocuments]
    exact List.pairwise_singleton _ _

/-- If a document has an identity, no other one has it. -/
theorem Distinct.has_eq_false {s : Store} (hs : Distinct ρ s) {v : Value}
    (hv : v.wellFormed = true) {filter : Document} {p : Filter.Place}
    (hp : Filter.first? filter (documents ρ s) = .ok (some p))
    (hhas : p.document.has (Record.idField ρ) v = true) :
    ∀ d ∈ p.before ++ p.after, d.has (Record.idField ρ) v = false := by
  intro d hd
  rw [Bool.eq_false_iff]
  intro hother
  obtain ⟨found, hfound, hsame⟩ := Document.has_iff.1 hhas
  obtain ⟨other, hget, hsame'⟩ := Document.has_iff.1 hother
  have hsplit := (Filter.first?_eq_some_iff.1 hp).1
  have hwell : p.document.wellFormed = true := hs.wellFormed _ (by
    rw [documents_view, hsplit]
    simp)
  have hfoundwell := Document.wellFormed_get? hwell hfound
  exact hs.unique.apart_document hs.wellFormed hp d hd
    ⟨other, found, hget, hfound, Value.same_trans hsame' (Value.same_symm hfoundwell hv hsame)⟩

end Store

namespace Repository

open RecordStore.Action

variable {ρ ι : Type} [Record ρ ι] {id : ι} {v : Value} {s : Store}

/-- Several records are removed by comparing identities. -/
theorem outcome_deleteMany {ids : List ι} {vs : List Value}
    (hids : ids.mapM (Record.encodeId ρ) = .ok vs) (hne : ids ≠ []) (s : Store) :
    (deleteMany ρ ids : Action Store Nat).outcome s =
      (.ok ((Store.documents ρ s).countP fun d => vs.any (d.has (Record.idField ρ))),
        Store.withDocuments ρ s
          ((Store.documents ρ s).filter fun d => !vs.any (d.has (Record.idField ρ)))) := by
  have hfilter : idsFilter ρ ids =
      .ok [(Record.idField ρ, .document [("$in", .array vs)])] := by
    rw [idsFilter, hids]
    rfl
  have htest := fun d : Document => Filter.test_membership d (Record.idField ρ) vs
  have haccepts : Filter.accepts [(Record.idField ρ, .document [("$in", .array vs)])] =
      fun d => vs.any (d.has (Record.idField ρ)) := by
    funext d
    rw [Filter.accepts, htest]
  have hnone : Filter.firstFault? [(Record.idField ρ, .document [("$in", .array vs)])]
      (Store.documents ρ s) = none :=
    Filter.firstFault?_eq_none_iff.2 fun d _ => ⟨_, htest d⟩
  simp only [deleteMany, List.isEmpty_eq_false_iff.2 hne, Bool.false_eq_true, if_false, hfilter,
    outcome_bind, outcome_lift]
  rw [Store.outcome_request, Collection.perform, Collection.outcome_deleteMany,
    Store.documents_collection, hnone, haccepts]
  rfl

/-- The record with an identity is removed alone and in a list alike if and only if the search
for the identity finds who has it. -/
theorem deleteById_eq_deleteMany_iff (hid : Record.encodeId ρ id = .ok v)
    (hv : v.wellFormed = true) (hs : s.Distinct ρ) :
    (deleteById ρ id : Action Store Nat).outcome s = (deleteMany ρ [id]).outcome s ↔
      Filter.FindsHolder (Record.idField ρ) v (Store.documents ρ s) := by
  have hids : [id].mapM (Record.encodeId ρ) = .ok [v] := by
    rw [List.mapM_cons, hid]
    rfl
  rw [outcome_deleteById hid, outcome_deleteMany hids (List.cons_ne_nil _ _)]
  simp only [List.any_cons, List.any_nil, Bool.or_false]
  unfold Filter.FindsHolder
  cases hp : Filter.first? [(Record.idField ρ, v)] (Store.documents ρ s) with
  | error e => simp
  | ok place =>
    cases place with
    | none =>
      simp only [Prod.mk.injEq, Except.ok.injEq]
      constructor
      · rintro ⟨hcount, -⟩ d hd
        exact Bool.eq_false_iff.2 (List.countP_eq_zero.1 hcount.symm d hd)
      · intro hlacks
        refine ⟨(List.countP_eq_zero.2 fun d hd => Bool.eq_false_iff.1 (hlacks d hd)).symm, ?_⟩
        rw [List.filter_eq_self.2 fun d hd => by rw [hlacks d hd, Bool.not_false],
          Store.withDocuments_documents]
    | some p =>
      have hsplit := (Filter.first?_eq_some_iff.1 hp).1
      rw [hsplit, Prod.mk.injEq, Except.ok.injEq, Store.withDocuments_inj_iff, eq_comm,
        Filter.Place.remove_eq_filter_iff]
      exact and_iff_left_of_imp (hs.has_eq_false hv hp)

/-- A record is read with the identity that is stored: an identity that equals the given value is
read as one whose value equals it. -/
def ReadsIdentity (ρ : Type) {ι : Type} [Record ρ ι] (v : Value) : Prop :=
  ∀ (d : Document) (r : ρ), d.wellFormed = true → d.has (Record.idField ρ) v = true →
    Record.decode d = .ok r →
      ∃ w, Record.encodeId ρ (Record.id r) = .ok w ∧ w.same v = true

/-- Addressing a record by its identity agrees with comparing identities: a record that is found
has an equal one, and the same is removed as by a list of this identity alone. -/
structure AddressedAlike (ρ : Type) {ι : Type} [Record ρ ι] (id : ι) (s : Store) : Prop where
  found : ∀ r : ρ, ((findById ρ id : Action Store ρ).outcome s).1 = .ok r →
    ∃ v w, Record.encodeId ρ id = .ok v ∧ Record.encodeId ρ (Record.id r) = .ok w ∧
      w.same v = true
  removed : (deleteById ρ id : Action Store Nat).outcome s = (deleteMany ρ [id]).outcome s

/-- An identity that is no document of operators addresses alike if records are read with it. -/
theorem addressedAlike_of_not_isOperators (hid : Record.encodeId ρ id = .ok v)
    (hv : v.wellFormed = true) (hoperators : v.isOperators = false) (hreads : ReadsIdentity ρ v)
    (hs : s.Distinct ρ) : AddressedAlike ρ id s := by
  refine ⟨fun r hr => ?_, ?_⟩
  · rw [outcome_findById hid] at hr
    cases hp : Filter.first? [(Record.idField ρ, v)] (Store.documents ρ s) with
    | error e =>
      rw [hp] at hr
      cases hr
    | ok place =>
      rw [hp] at hr
      cases place with
      | none => cases hr
      | some p =>
        obtain ⟨hsplit, haccepts, -⟩ := Filter.first?_eq_some_iff.1 hp
        rw [Filter.accepts_value hoperators] at haccepts
        have hmem : p.document ∈ (Store.view ρ s).documents := by
          rw [Store.documents_view, hsplit]
          simp
        obtain ⟨w, hw, hsame⟩ := hreads p.document r (hs.wellFormed _ hmem) haccepts hr
        exact ⟨v, w, hid, hw, hsame⟩
  · rw [deleteById_eq_deleteMany_iff hid hv hs]
    exact Filter.findsHolder_of_not_isOperators hoperators _

theorem readsIdentity_of_addressedAlike (hid : Record.encodeId ρ id = .ok v)
    (hoperators : v.isOperators = false)
    (h : ∀ s : Store, s.Distinct ρ → AddressedAlike ρ id s) : ReadsIdentity ρ v := by
  intro d r hd hhas hdecode
  have hfirst : Filter.first? [(Record.idField ρ, v)] [d] = .ok (some ⟨[], d, []⟩) := by
    refine Filter.first?_eq_some_iff.2 ⟨rfl, ?_, fun e he => by cases he⟩
    rw [Filter.accepts_value hoperators]
    exact hhas
  have halone := h _ (Store.distinct_withDocuments_singleton {} hd)
  obtain ⟨v', w, hv', hw, hsame⟩ := halone.found r (by
    rw [outcome_findById hid, Store.documents_withDocuments, hfirst]
    exact hdecode)
  rw [hid] at hv'
  cases hv'
  exact ⟨w, hw, hsame⟩

/-- Events are read with their identities, which are documents. -/
theorem readsIdentity_event (k : EventKey) : ReadsIdentity Event k.toValue := by
  intro d e _ hhas hdecode
  obtain ⟨v, hv, hsame⟩ := Document.has_iff.1 hhas
  obtain ⟨found, hfound, hread⟩ := Event.exists_id_of_decode hdecode
  rw [show Record.idField Event = "id" from rfl, hfound] at hv
  cases hv
  obtain rfl := EventKey.eq_of_read hsame hread
  exact ⟨_, rfl, EventKey.same_toValue _⟩

/-- **Addressing by identity.** On a store with unique identities a record is removed by its
identity as by a list of it if and only if the search for the identity finds who has it. That,
and that a record which is found has the identity, holds on all such stores if and only if the
identity is no document of operators and records are read with it. -/
theorem addressedAlike_iff (hid : Record.encodeId ρ id = .ok v) (hv : v.wellFormed = true)
    (hself : v.same v = true) :
    (∀ s : Store, s.Distinct ρ →
      ((deleteById ρ id : Action Store Nat).outcome s = (deleteMany ρ [id]).outcome s ↔
        Filter.FindsHolder (Record.idField ρ) v (Store.documents ρ s))) ∧
      ((∀ s : Store, s.Distinct ρ → AddressedAlike ρ id s) ↔
        v.isOperators = false ∧ ReadsIdentity ρ v) := by
  refine ⟨fun s hs => deleteById_eq_deleteMany_iff hid hv hs, fun h => ?_, ?_⟩
  · have hfinds : ∀ d : Document, d.wellFormed = true →
        Filter.FindsHolder (Record.idField ρ) v [d] := by
      intro d hd
      have hdistinct : (Store.withDocuments ρ {} [d]).Distinct ρ :=
        Store.distinct_withDocuments_singleton {} hd
      have hremoved := (deleteById_eq_deleteMany_iff hid hv hdistinct).1 (h _ hdistinct).removed
      rwa [Store.documents_withDocuments] at hremoved
    have hheld : Document.wellFormed [(Record.idField ρ, v)] = true :=
      Document.wellFormed_iff.2 ⟨List.nodup_singleton _, by simpa using hv⟩
    have hoperators :=
      Filter.isOperators_eq_false_of_findsHolder hself (hfinds _ hheld) (hfinds [] rfl)
    exact ⟨hoperators, readsIdentity_of_addressedAlike hid hoperators h⟩
  · rintro ⟨hoperators, hreads⟩ s hs
    exact addressedAlike_of_not_isOperators hid hv hoperators hreads hs

/-- Events have documents as identities, which address alike. -/
theorem addressedAlike_event :
    Record.encodeId Event ⟨"a", 1⟩ = .ok (EventKey.toValue ⟨"a", 1⟩) ∧
      (EventKey.toValue ⟨"a", 1⟩).wellFormed = true ∧
      (EventKey.toValue ⟨"a", 1⟩).same (EventKey.toValue ⟨"a", 1⟩) = true ∧
      ∀ s : Store, s.Distinct Event → AddressedAlike Event ⟨"a", 1⟩ s := by
  have hself := EventKey.same_toValue ⟨"a", 1⟩
  exact ⟨rfl, rfl, hself,
    (addressedAlike_iff rfl rfl hself).2.2 ⟨rfl, readsIdentity_event _⟩⟩

/-- A blob is removed by a key that it does not have. -/
theorem not_addressedAlike_of_inequality :
    Record.encodeId Blob (.document [("$ne", .null)]) = .ok (.document [("$ne", .null)]) ∧
      (Value.document [("$ne", .null)]).same (.document [("$ne", .null)]) = true ∧
      Store.Distinct Blob
        (Store.withDocuments Blob {} [[("key", .string "a"), ("payload", .null)]]) ∧
      ¬ AddressedAlike Blob (.document [("$ne", .null)])
        (Store.withDocuments Blob {} [[("key", .string "a"), ("payload", .null)]]) := by
  refine ⟨rfl, by decide, Store.distinct_withDocuments_singleton {} rfl, fun h => ?_⟩
  have hone := congrArg Prod.fst h.removed
  cases hone

end Repository

end RecordStore
