import RecordStore.Proofs.Run
/-!
# Uniqueness of identities

An insertion refuses a document whose identity is present, so insertions and deletions never
leave two documents with one identity. An update or a replacement is not tested. It keeps
identities unique exactly if it spares the other documents: the identity that it writes is one
that no document outside the place has (`Collection.Spares`).

A run is looked at after every part that a caller can see, each request and each upsert of a
list of them. Identities are unique at all these points if and only if every request spares the
others when its turn comes.

## Main definitions

* `Document.Agree`, `Collection.Unique`: documents with one identity, and none such.
* `Collection.Spares`, `Collection.SparesAll`: requests that write no identity twice.
* `Request.InitialPart`: the runs that come before the end of a run.

## Main results

* `Collection.unique_after_insertOne`, `Collection.unique_after_deleteMany`, and so on: the
  requests that keep identities unique in any case.
* `Collection.unique_initialParts_iff_sparesAll`: uniqueness along a run.
-/

namespace RecordStore

/-- Two documents have a field with equal values. -/
def Document.Agree (field : String) (d e : Document) : Prop :=
  ∃ v w, d.get? field = some v ∧ e.get? field = some w ∧ v.same w = true

instance (field : String) (d e : Document) : Decidable (d.Agree field e) :=
  match hd : d.get? field, he : e.get? field with
  | some v, some w =>
    decidable_of_iff (v.same w = true) (by simp [Document.Agree, hd, he])
  | none, _ => isFalse (by simp [Document.Agree, hd])
  | _, none => isFalse (by simp [Document.Agree, he])

theorem Document.Agree.symm {field : String} {d e : Document} (hd : d.wellFormed = true)
    (he : e.wellFormed = true) (h : d.Agree field e) : e.Agree field d := by
  obtain ⟨v, w, hv, hw, hsame⟩ := h
  exact ⟨w, v, hw, hv,
    Value.same_symm (Document.wellFormed_get? hd hv) (Document.wellFormed_get? he hw) hsame⟩

theorem Document.agree_iff_has {field : String} {d e : Document} {w : Value}
    (hw : e.get? field = some w) : d.Agree field e ↔ d.has field w = true := by
  rw [Document.has_iff]
  constructor
  · rintro ⟨v, w', hv, hw', hsame⟩
    rw [hw] at hw'
    cases hw'
    exact ⟨v, hv, hsame⟩
  · rintro ⟨v, hv, hsame⟩
    exact ⟨v, w, hv, hw, hsame⟩

/-- The requests that a request consists of from its start on: the request, and for a list of
upserts those with fewer of them. -/
inductive Request.Part : Request → Request → Prop
  /-- The whole request. -/
  | whole (r : Request) : Part r r
  /-- The first upserts of a list. -/
  | upserts {us vs : List Upsert} (h : us <+: vs) : Part (.bulkUpsert us) (.bulkUpsert vs)

/-- Only a list of upserts has parts. -/
theorem Request.forall_part_iff {P : Request → Prop} {r : Request}
    (hr : ∀ us, r ≠ .bulkUpsert us) : (∀ p, Part p r → P p) ↔ P r := by
  refine ⟨fun h => h r (.whole r), fun h p hp => ?_⟩
  cases hp with
  | whole => exact h
  | upserts _ => exact absurd rfl (hr _)

/-- The runs that come before the end of a run, which may stop within a request. -/
inductive Request.InitialPart : List Request → List Request → Prop
  /-- Nothing is done. -/
  | nil (rs : List Request) : InitialPart [] rs
  /-- The next request is the last, and done in part. -/
  | cut {p r : Request} (h : Part p r) (rs : List Request) : InitialPart [p] (r :: rs)
  /-- The next request is done, and more follow. -/
  | cons (r : Request) {ps rs : List Request} (h : InitialPart ps rs) :
    InitialPart (r :: ps) (r :: rs)

namespace Collection

variable {c : Collection}

/-- No two documents in different places have an identity in common. -/
def Unique (c : Collection) : Prop :=
  c.documents.Pairwise fun d e => ¬ d.Agree c.idField e

instance (c : Collection) : Decidable c.Unique :=
  inferInstanceAs (Decidable (c.documents.Pairwise fun d e => ¬ d.Agree c.idField e))

/-- No document of a list has the identity of the given one. -/
def Apart (c : Collection) (d : Document) (others : List Document) : Prop :=
  ∀ e ∈ others, ¬ e.Agree c.idField d

instance (c : Collection) (d : Document) (others : List Document) :
    Decidable (c.Apart d others) :=
  inferInstanceAs (Decidable (∀ e ∈ others, ¬ e.Agree c.idField d))

/-- A change of one document writes no identity that another document has. -/
def SparesUpdate (c : Collection) (filter update : Document) : Prop :=
  ∀ fields, Update.changes update = .ok fields →
    ∀ p, Filter.first? filter c.documents = .ok (some p) → c.Apart fields (p.before ++ p.after)

/-- A change of all documents that match writes no identity, or one that cannot occur twice
because it differs from itself, or one for a single document: at most one document matches or
has that identity already. -/
def SparesUpdates (c : Collection) (filter update : Document) : Prop :=
  ∀ fields, Update.changes update = .ok fields →
    ∀ id, fields.get? c.idField = some id → id.same id = true →
      c.documents.countP (fun d => Filter.accepts filter d || d.has c.idField id) ≤ 1

/-- A replacement does not have the identity of another document. -/
def SparesUpsert (c : Collection) (u : Upsert) : Prop :=
  ∀ p, Filter.first? u.filter c.documents = .ok (some p) →
    c.Apart u.replacement (p.before ++ p.after)

/-- Each upsert of a list spares the others when its turn comes. -/
def SparesUpserts (c : Collection) : List Upsert → Prop
  | [] => True
  | u :: rest =>
    c.SparesUpsert u ∧ ∀ left, c.upserted? u = some left → left.SparesUpserts rest

/-- A request writes no identity that another document has. Insertions refuse to, and the
remaining requests write none. -/
def Spares (c : Collection) : Request → Prop
  | .updateOne filter update => c.SparesUpdate filter update
  | .updateMany filter update => c.SparesUpdates filter update
  | .bulkUpsert us => c.SparesUpserts us
  | _ => True

/-- Each request of a run spares the others when its turn comes. -/
def SparesAll (c : Collection) : List Request → Prop
  | [] => True
  | r :: rest => c.Spares r ∧ (c.after r).SparesAll rest

/-! ### Requests that keep identities unique in any case -/

theorem checkNew_eq_ok_iff {d : Document} : c.checkNew d = .ok () ↔ c.Apart d c.documents := by
  unfold checkNew Apart
  split
  · next hd =>
    refine iff_of_true rfl fun e _ => ?_
    rintro ⟨v, w, -, hw, -⟩
    rw [hd] at hw
    cases hw
  · next id hd =>
    simp only [Document.agree_iff_has hd]
    split
    · next hany =>
      obtain ⟨e, he, hsame⟩ := List.any_eq_true.1 hany
      exact iff_of_false (by simp) fun h => h e he hsame
    · next hany =>
      refine iff_of_true rfl fun e he hsame => hany ?_
      exact List.any_eq_true.2 ⟨e, he, hsame⟩

theorem unique_append_iff {d : Document} (hc : c.Unique) :
    (c.withDocuments (c.documents ++ [d])).Unique ↔ c.Apart d c.documents := by
  unfold Unique at hc ⊢
  simp only [documents_withDocuments, idField_withDocuments, List.pairwise_append, hc,
    List.pairwise_singleton, List.mem_singleton, forall_eq, true_and, Apart]

theorem Unique.append (hc : c.Unique) {d : Document} (hd : c.checkNew d = .ok ()) :
    (c.withDocuments (c.documents ++ [d])).Unique :=
  (unique_append_iff hc).2 (checkNew_eq_ok_iff.1 hd)

theorem Unique.sublist (hc : c.Unique) {ds : List Document} (h : ds.Sublist c.documents) :
    (c.withDocuments ds).Unique :=
  List.Pairwise.sublist h hc

theorem unique_after_insertOne (hc : c.Unique) (d : Document) :
    (c.after (.insertOne d)).Unique := by
  rw [after_insertOne]
  split
  · exact hc
  · next hd => exact hc.append hd

theorem unique_after_insertMany (hc : c.Unique) (ds : List Document) :
    (c.after (.insertMany ds)).Unique := by
  induction ds generalizing c with
  | nil => exact hc
  | cons d rest ih =>
    rw [after_insertMany_cons]
    split
    · exact hc
    · next hd => exact ih (hc.append hd)

theorem unique_after_deleteOne (hc : c.Unique) (filter : Document) :
    (c.after (.deleteOne filter)).Unique := by
  rw [after_deleteOne]
  split
  · next p hp =>
    refine hc.sublist ?_
    rw [(Filter.first?_eq_some_iff.1 hp).1]
    exact (List.sublist_cons_self _ _).append_left _
  · exact hc

theorem unique_after_deleteMany (hc : c.Unique) (filter : Document) :
    (c.after (.deleteMany filter)).Unique := by
  rw [after_deleteMany]
  split
  · exact hc.sublist (List.nil_sublist _)
  · exact hc.sublist List.filter_sublist

theorem unique_after_of_keepsDocuments {r : Request} (hr : keepsDocuments r = true)
    (hc : c.Unique) : (c.after r).Unique := by
  obtain ⟨hdocuments, -, hfield⟩ := after_of_keepsDocuments hr c
  unfold Unique
  rwa [hdocuments, hfield]

/-! ### Changes and replacements -/

/-- A replacement keeps identities unique if and only if no other document has the identity of
the new one. -/
theorem unique_replace_iff {filter d : Document} {p : Filter.Place} (hwell : c.WellFormed)
    (hc : c.Unique) (hd : d.wellFormed = true)
    (hp : Filter.first? filter c.documents = .ok (some p)) :
    (c.withDocuments (p.replace d)).Unique ↔ c.Apart d (p.before ++ p.after) := by
  have hsplit := (Filter.first?_eq_some_iff.1 hp).1
  have hafter : ∀ e ∈ p.after, e.wellFormed = true := fun e he =>
    hwell e (by simp [hsplit, he])
  unfold Unique at hc ⊢
  rw [hsplit, List.pairwise_append, List.pairwise_cons] at hc
  obtain ⟨hbefore, ⟨-, hrest⟩, hacross⟩ := hc
  simp only [documents_withDocuments, idField_withDocuments, Filter.Place.replace,
    List.pairwise_append, List.pairwise_cons]
  -- a pair is compared from left to right, so behind the place symmetry is needed
  constructor
  · rintro ⟨-, ⟨hright, -⟩, hleft⟩ e he
    obtain he | he := List.mem_append.1 he
    · exact hleft e he d List.mem_cons_self
    · exact fun h => hright e he (h.symm (hafter e he) hd)
  · intro hapart
    refine ⟨hbefore, ⟨fun e he h => ?_, hrest⟩, fun a ha b hb => ?_⟩
    · exact hapart e (List.mem_append_right _ he) (h.symm hd (hafter e he))
    · obtain rfl | hb := List.mem_cons.1 hb
      · exact hapart a (List.mem_append_left _ ha)
      · exact hacross a ha b (List.mem_cons_of_mem _ hb)

/-- The document in a place has no identity of another document. -/
theorem Unique.apart_document {filter : Document} {p : Filter.Place} (hwell : c.WellFormed)
    (hc : c.Unique) (hp : Filter.first? filter c.documents = .ok (some p)) :
    c.Apart p.document (p.before ++ p.after) := by
  have hsplit := (Filter.first?_eq_some_iff.1 hp).1
  refine (unique_replace_iff hwell hc (hwell p.document (by simp [hsplit])) hp).1 ?_
  unfold Filter.Place.replace
  rwa [← hsplit, withDocuments_self]

/-- A document after an update has the identity that the update sets, or keeps its own. -/
theorem apart_apply_iff {fields d : Document} {others : List Document}
    (hfields : fields.wellFormed = true) (hd : d.wellFormed = true)
    (hothers : c.Apart d others) :
    c.Apart (Update.apply fields d).1 others ↔ c.Apart fields others := by
  unfold Apart at hothers ⊢
  cases hid : fields.get? c.idField with
  | none =>
    -- no identity is set, so both sides hold
    have hkeep := Update.get?_apply_of_none hid d
    refine iff_of_true (fun e he => ?_) (fun e he => ?_)
    · rintro ⟨v, w, hv, hw, hsame⟩
      exact hothers e he ⟨v, w, hv, hkeep ▸ hw, hsame⟩
    · rintro ⟨v, w, -, hw, -⟩
      rw [hid] at hw
      cases hw
  | some id =>
    obtain ⟨found, hfound, hsame⟩ := Update.exists_get?_apply hfields hd hid
    refine forall₂_congr fun e _ => not_congr ?_
    rw [Document.agree_iff_has hfound, Document.agree_iff_has hid, Document.has_iff,
      Document.has_iff]
    simp only [hsame]

theorem unique_after_updateOne_iff {filter update : Document} (hwell : c.WellFormed)
    (hc : c.Unique) (hupdate : update.wellFormed = true) :
    (c.after (.updateOne filter update)).Unique ↔ c.SparesUpdate filter update := by
  rw [after_updateOne]
  unfold SparesUpdate
  cases hfields : Update.changes update with
  | error e => simp [hc]
  | ok fields =>
    cases hp : Filter.first? filter c.documents with
    | error e => simp [hc]
    | ok place =>
      cases place with
      | none => simp [hc]
      | some p =>
        have hfieldswell := Update.wellFormed_changes hupdate hfields
        have hplace : p.document.wellFormed = true :=
          hwell p.document (by simp [(Filter.first?_eq_some_iff.1 hp).1])
        have hreplace := unique_replace_iff hwell hc (Update.wellFormed_apply hfieldswell hplace) hp
        have happly := apart_apply_iff hfieldswell hplace (hc.apart_document hwell hp)
        simp only [Except.ok.injEq, Option.some.injEq, forall_eq']
        exact hreplace.trans happly

/-! ### Changes of all that match -/

theorem countP_le_one_iff {p : Document → Bool} {ds : List Document} :
    ds.countP p ≤ 1 ↔ ds.Pairwise fun d e => ¬ (p d = true ∧ p e = true) := by
  induction ds with
  | nil => simp
  | cons d rest ih =>
    rw [List.countP_cons, List.pairwise_cons, ← ih]
    by_cases hd : p d = true
    · have hzero : rest.countP p = 0 ↔ ∀ e ∈ rest, ¬ p e = true := List.countP_eq_zero
      simp only [hd, if_true, true_and, ← hzero]
      omega
    · simp [hd]

/-- Documents that did not agree do so after a change if and only if the new identity equals
itself and both matched the filter or had that identity before. -/
theorem agree_updated_iff {field : String} {filter fields d e : Document} {id : Value}
    (hfields : fields.wellFormed = true) (hid : fields.get? field = some id)
    (hd : d.wellFormed = true) (he : e.wellFormed = true) (hde : ¬ d.Agree field e) :
    (Update.updated filter fields d).Agree field (Update.updated filter fields e) ↔
      id.same id = true ∧ (Filter.accepts filter d || d.has field id) = true ∧
        (Filter.accepts filter e || e.has field id) = true := by
  have hidwell := Document.wellFormed_get? hfields hid
  have hself : ∀ d : Document, d.wellFormed = true → d.has field id = true →
      id.same id = true := by
    intro d hd h
    obtain ⟨v, hv, hsame⟩ := Document.has_iff.1 h
    exact Value.same_trans (Value.same_symm (Document.wellFormed_get? hd hv) hidwell hsame) hsame
  unfold Update.updated
  rw [Bool.or_eq_true, Bool.or_eq_true]
  by_cases hacceptsd : Filter.accepts filter d = true <;>
    by_cases hacceptse : Filter.accepts filter e = true
  · -- both get the new identity
    obtain ⟨v, hv, hsamev⟩ := Update.exists_get?_apply hfields hd hid
    obtain ⟨w, hw, hsamew⟩ := Update.exists_get?_apply hfields he hid
    rw [if_pos hacceptsd, if_pos hacceptse, Document.agree_iff_has hw, Document.has_iff]
    simp only [hv, Option.some.injEq, exists_eq_left', (hsamev w).2, (hsamew id).1, hacceptsd,
      hacceptse, true_or, and_true]
  · obtain ⟨v, hv, hsame⟩ := Update.exists_get?_apply hfields hd hid
    rw [if_pos hacceptsd, if_neg hacceptse]
    simp only [hacceptsd, hacceptse, Bool.false_eq_true, true_or, false_or, true_and]
    constructor
    · rintro ⟨v', w, hv', hw, h⟩
      rw [hv] at hv'
      cases hv'
      rw [(hsame w).2] at h
      have hwid := Value.same_symm hidwell (Document.wellFormed_get? he hw) h
      exact ⟨Value.same_trans h hwid, Document.has_iff.2 ⟨w, hw, hwid⟩⟩
    · rintro ⟨-, h⟩
      obtain ⟨w, hw, hwid⟩ := Document.has_iff.1 h
      refine ⟨v, w, hv, hw, ?_⟩
      rw [(hsame w).2]
      exact Value.same_symm (Document.wellFormed_get? he hw) hidwell hwid
  · obtain ⟨w, hw, hsame⟩ := Update.exists_get?_apply hfields he hid
    rw [if_neg hacceptsd, if_pos hacceptse, Document.agree_iff_has hw]
    have hhas : d.has field w = d.has field id := by
      rw [Bool.eq_iff_iff, Document.has_iff, Document.has_iff]
      simp only [hsame]
    simp only [hacceptsd, hacceptse, Bool.false_eq_true, true_or, false_or, and_true, hhas]
    exact ⟨fun h => ⟨hself d hd h, h⟩, fun h => h.2⟩
  · rw [if_neg hacceptsd, if_neg hacceptse]
    refine iff_of_false hde ?_
    simp only [hacceptsd, hacceptse, Bool.false_eq_true, false_or, Document.has_iff]
    rintro ⟨-, ⟨v, hv, hvid⟩, w, hw, hwid⟩
    -- both had the identity, so they would have agreed before
    have hidw := Value.same_symm (Document.wellFormed_get? he hw) hidwell hwid
    exact hde ⟨v, w, hv, hw, Value.same_trans hvid hidw⟩

theorem unique_after_updateMany_iff {filter update : Document} (hwell : c.WellFormed)
    (hc : c.Unique) (hupdate : update.wellFormed = true) :
    (c.after (.updateMany filter update)).Unique ↔ c.SparesUpdates filter update := by
  rw [after_updateMany]
  unfold SparesUpdates
  cases hchanges : Update.changes update with
  | error e => simp [hc]
  | ok fields =>
    have hfields := Update.wellFormed_changes hupdate hchanges
    unfold Unique at hc ⊢
    simp only [documents_withDocuments, idField_withDocuments, List.pairwise_map,
      Except.ok.injEq, forall_eq']
    cases hid : fields.get? c.idField with
    | none =>
      -- no identity is set, so every document keeps its own
      have hkeep : ∀ d : Document,
          (Update.updated filter fields d).get? c.idField = d.get? c.idField := by
        intro d
        unfold Update.updated
        split
        · exact Update.get?_apply_of_none hid d
        · rfl
      simp only [Document.Agree, hkeep] at hc ⊢
      exact iff_of_true hc fun _ h => by cases h
    | some id =>
      simp only [Option.some.injEq, forall_eq', countP_le_one_iff]
      constructor
      · intro h hself
        refine List.Pairwise.imp_of_mem ?_ (hc.and h)
        rintro d e hd he ⟨hbefore, hafter⟩ hboth
        exact hafter ((agree_updated_iff hfields hid (hwell d hd) (hwell e he) hbefore).2
          ⟨hself, hboth⟩)
      · intro h
        by_cases hself : id.same id = true
        · refine List.Pairwise.imp_of_mem ?_ (hc.and (h hself))
          rintro d e hd he ⟨hbefore, hboth⟩ hafter
          exact hboth ((agree_updated_iff hfields hid (hwell d hd) (hwell e he) hbefore).1
            hafter).2
        · refine List.Pairwise.imp_of_mem ?_ hc
          intro d e hd he hbefore hafter
          exact hself ((agree_updated_iff hfields hid (hwell d hd) (hwell e he) hbefore).1
            hafter).1

/-! ### Upserts -/

/-- An upsert that succeeds keeps identities unique if and only if it spares the others. -/
theorem unique_upserted?_iff {u : Upsert} {left : Collection} (hwell : c.WellFormed)
    (hc : c.Unique) (hu : u.replacement.wellFormed = true) (h : c.upserted? u = some left) :
    left.Unique ↔ c.SparesUpsert u := by
  unfold SparesUpsert
  obtain ⟨p, hp, rfl⟩ | ⟨hnone, hnew, rfl⟩ := upserted?_eq_some h
  · simp only [hp, Except.ok.injEq, Option.some.injEq, forall_eq']
    exact unique_replace_iff hwell hc hu hp
  · refine iff_of_true (hc.append hnew) fun p hp => ?_
    rw [hnone] at hp
    cases hp

/-- An upsert that fails adds and replaces nothing. -/
theorem sparesUpsert_of_none {u : Upsert} (h : c.upserted? u = none) : c.SparesUpsert u := by
  intro p hp
  rw [upserted?, hp] at h
  cases h

/-- Identities are unique after every upsert of a list if and only if each upsert spares the
others when its turn comes. -/
theorem unique_after_bulkUpsert_iff {us : List Upsert} (hwell : c.WellFormed) (hc : c.Unique)
    (hus : ∀ u ∈ us, u.replacement.wellFormed = true) :
    (∀ vs, vs <+: us → (c.after (.bulkUpsert vs)).Unique) ↔ c.SparesUpserts us := by
  induction us generalizing c with
  | nil =>
    refine iff_of_true (fun vs hvs => ?_) trivial
    rw [List.prefix_nil.1 hvs]
    exact hc
  | cons u rest ih =>
    obtain ⟨hu, hrest⟩ := List.forall_mem_cons.1 hus
    rw [SparesUpserts]
    cases hleft : c.upserted? u with
    | none =>
      refine iff_of_true (fun vs hvs => ?_) ⟨sparesUpsert_of_none hleft, fun _ h => by cases h⟩
      obtain rfl | ⟨ws, rfl, -⟩ := List.prefix_cons_iff.1 hvs
      · exact hc
      · rw [after_bulkUpsert_cons, hleft]
        exact hc
    | some left =>
      have hstep := unique_upserted?_iff hwell hc hu hleft
      have hleftwell : left.WellFormed := forall_mem_upserted? hwell hu hleft
      have hafter : ∀ vs, c.after (.bulkUpsert (u :: vs)) = left.after (.bulkUpsert vs) :=
        fun vs => by rw [after_bulkUpsert_cons, hleft]
      simp only [Option.some.injEq, forall_eq']
      constructor
      · intro h
        -- the part that ends behind the first upsert
        have hunique : left.Unique := by
          have := h [u] (List.prefix_append [u] rest)
          rwa [hafter, after_bulkUpsert_nil] at this
        refine ⟨hstep.1 hunique, (ih hleftwell hunique hrest).1 fun vs hvs => ?_⟩
        rw [← hafter]
        exact h (u :: vs) (List.cons_prefix_cons.2 ⟨rfl, hvs⟩)
      · rintro ⟨hspares, hothers⟩ vs hvs
        obtain rfl | ⟨ws, rfl, hws⟩ := List.prefix_cons_iff.1 hvs
        · exact hc
        · rw [hafter]
          exact (ih hleftwell (hstep.2 hspares) hrest).2 hothers ws hws

/-! ### Runs -/

theorem unique_of_documents_eq_nil (h : c.documents = []) : c.Unique := by
  unfold Unique
  rw [h]
  exact List.Pairwise.nil

/-- Identities are unique after every part of a request if and only if it spares the others. -/
theorem unique_parts_iff_spares {r : Request} (hwell : c.WellFormed) (hc : c.Unique)
    (hr : r.WellFormed) : (∀ p, Request.Part p r → (c.after p).Unique) ↔ c.Spares r := by
  by_cases hus : ∃ us, r = .bulkUpsert us
  · obtain ⟨us, rfl⟩ := hus
    rw [Spares, ← unique_after_bulkUpsert_iff hwell hc (List.forall_mem_map.1 hr)]
    refine ⟨fun h vs hvs => h _ (.upserts hvs), fun h p hp => ?_⟩
    cases hp with
    | whole => exact h us List.prefix_rfl
    | upserts hvs => exact h _ hvs
  -- every other request is its only part
  have hwhole : (∀ p, Request.Part p r → (c.after p).Unique) ↔ (c.after r).Unique :=
    Request.forall_part_iff fun us h => hus ⟨us, h⟩
  rw [hwhole]
  cases r with
  | insertOne d => exact iff_of_true (unique_after_insertOne hc d) trivial
  | insertMany ds => exact iff_of_true (unique_after_insertMany hc ds) trivial
  | updateOne filter update =>
    exact unique_after_updateOne_iff hwell hc (hr update (by simp [Request.written]))
  | updateMany filter update =>
    exact unique_after_updateMany_iff hwell hc (hr update (by simp [Request.written]))
  | deleteOne filter => exact iff_of_true (unique_after_deleteOne hc filter) trivial
  | deleteMany filter => exact iff_of_true (unique_after_deleteMany hc filter) trivial
  | bulkUpsert us => exact absurd ⟨us, rfl⟩ hus
  | _ => exact iff_of_true (unique_after_of_keepsDocuments rfl hc) trivial

/-- Uniqueness along a run that starts in any collection with unique identities. -/
theorem Unique.initialParts_iff {rs : List Request} (hwell : c.WellFormed) (hc : c.Unique)
    (hrs : ∀ r ∈ rs, r.WellFormed) :
    (∀ ps, Request.InitialPart ps rs → (c.afterAll ps).Unique) ↔ c.SparesAll rs := by
  induction rs generalizing c with
  | nil =>
    refine iff_of_true (fun ps hps => ?_) trivial
    cases hps
    exact hc
  | cons r rest ih =>
    obtain ⟨hr, hrest⟩ := List.forall_mem_cons.1 hrs
    have hstep := unique_parts_iff_spares hwell hc hr
    have hnext := wellFormed_after hwell hr
    rw [SparesAll, ← hstep]
    constructor
    · intro h
      have hparts : ∀ p, Request.Part p r → (c.after p).Unique := fun p hp => h [p] (.cut hp rest)
      refine ⟨hparts, (ih hnext (hparts r (.whole r)) hrest).1 fun ps hps => ?_⟩
      exact h (r :: ps) (.cons r hps)
    · rintro ⟨hparts, hothers⟩ ps hps
      cases hps with
      | nil => exact hc
      | cut hp => exact hparts _ hp
      | cons _ hps => exact (ih hnext (hparts r (.whole r)) hrest).2 hothers _ hps

/-- **Uniqueness of identities.** A run of requests starts in an empty collection. Identities
are unique wherever it may stop if and only if each request, when its turn comes, writes no
identity that another document has. -/
theorem unique_initialParts_iff_sparesAll {rs : List Request} (hc : c.documents = [])
    (hrs : ∀ r ∈ rs, r.WellFormed) :
    (∀ ps, Request.InitialPart ps rs → (c.afterAll ps).Unique) ↔ c.SparesAll rs := by
  have hwell : c.WellFormed := by
    unfold WellFormed
    rw [hc]
    exact fun d hd => absurd hd List.not_mem_nil
  exact Unique.initialParts_iff hwell (unique_of_documents_eq_nil hc) hrs

/-- A run that gives a document an identity which is free keeps identities unique. -/
theorem unique_initialParts_of_free_identity :
    (⟨{}, "c", "id"⟩ : Collection).documents = [] ∧
      ∀ ps, Request.InitialPart ps
          [.insertMany [[("id", .string "1")], [("id", .string "2")]],
            .updateOne [("id", .string "2")] [("$set", .document [("id", .string "3")])],
            .deleteMany [("id", .string "1")]] →
        (afterAll ⟨{}, "c", "id"⟩ ps).Unique := by
  refine ⟨rfl, (unique_initialParts_iff_sparesAll rfl ?_).2 ⟨trivial, ?_, trivial, trivial⟩⟩
  · decide
  · rintro fields ⟨⟩ p ⟨⟩
    decide

/-- A change of all documents gives two of them one identity. -/
theorem not_unique_of_shared_identity :
    ¬ (afterAll ⟨{}, "c", "id"⟩
      [.insertOne [("id", .string "1")], .insertOne [("id", .string "2")],
        .updateMany [] [("$set", .document [("id", .string "1")])]]).Unique := by
  decide

end Collection

end RecordStore
