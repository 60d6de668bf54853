import Mathlib.Data.List.Induction
import RecordStore.Proofs.Refinement
import RecordStore.Proofs.Run
import RecordStore.Proofs.StoreRequest
import RecordStore.Records.Measurement
/-!
# Batches that are sent again

A batch of records may be sent again, after a success or after a failure. Each record takes the
place of the first document with its identity, and it leaves a document with the identity there,
so the places that a batch takes are the same the second time. Where several records have one
identity the last of them stays; what the others put in its place on the way does no harm, as it
is only seen in that one place.

## Main definitions

* `Document.Carries`, `Collection.FirstWith`: a document with an identity, and the first of them.
* `Collection.Beside`: two lists that differ in the place of one identity only.
* `Repository.Identified`: a record whose document carries its identity.

## Main results

* `Collection.exists_beside`: a batch does the same in two such lists, but for that place.
* `Collection.outcome_again`, `Collection.outcome_again_of_error`: a batch that is sent again.
* `Repository.bulkWrite_again`: the same for records.
-/

namespace RecordStore

/-! ### Documents with an identity -/

/-- A well-formed document has a value in a field. -/
structure Document.Carries (field : String) (v : OrdinaryValue) (d : Document) : Prop where
  /-- Each name occurs once. -/
  wellFormed : d.wellFormed = true
  /-- The field equals the value. -/
  has : d.has field v.val = true

/-- The upsert of an entry by its identity. -/
def Entry.upsert (field : String) (e : Entry) : Upsert :=
  ⟨[(field, e.id.val)], e.document⟩

namespace Document

variable {field : String} {v w : OrdinaryValue} {d e : Document}

/-- What else equals the field is decided by the value. -/
theorem Carries.has_eq (h : d.Carries field v) (w : OrdinaryValue) :
    d.has field w.val = v.val.same w.val := by
  obtain ⟨found, hfound, hsame⟩ := Document.has_iff.1 h.has
  have hwell := Document.wellFormed_get? h.wellFormed hfound
  rw [Document.has, hfound]
  exact Value.same_congr_left hwell v.wellFormed hsame

theorem Carries.of_same (h : d.Carries field v) (hsame : v.val.same w.val = true) :
    d.Carries field w :=
  ⟨h.wellFormed, (h.has_eq w).trans hsame⟩

end Document

theorem OrdinaryValue.same_comm (v w : OrdinaryValue) : v.val.same w.val = w.val.same v.val :=
  Bool.eq_iff_iff.2
    ⟨Value.same_symm v.wellFormed w.wellFormed, Value.same_symm w.wellFormed v.wellFormed⟩

namespace Collection

open RecordStore.Action

variable {field : String} {v w : OrdinaryValue} {ds es : List Document} {d : Document} {i k : Nat}
  {c left : Collection} {e : Entry} {r : UpsertSummary}

/-! ### The first document with an identity -/

/-- A document is the first one with a value in a field, and stands in a place. -/
structure FirstWith (field : String) (v : OrdinaryValue) (ds : List Document) (i : Nat)
    (d : Document) : Prop where
  /-- It stands there. -/
  getElem? : ds[i]? = some d
  /-- It has the value. -/
  has : d.has field v.val = true
  /-- Those before it do not. -/
  before : ∀ j < i, ∀ x, ds[j]? = some x → x.has field v.val = false

theorem accepts_upsert (field : String) (e : Entry) (d : Document) :
    Filter.accepts (e.upsert field).filter d = d.has field e.id.val :=
  Filter.accepts_value e.id.isOperators_eq_false

/-- It is the one that the filter by the identity finds. -/
theorem firstWith_iff : FirstWith field e.id ds i d ↔
    ∃ p, Filter.first? (e.upsert field).filter ds = .ok (some p) ∧ p.before.length = i ∧
      p.document = d := by
  constructor
  · rintro ⟨hd, hhas, hbefore⟩
    obtain ⟨hlt, rfl⟩ := List.getElem?_eq_some_iff.1 hd
    refine ⟨⟨ds.take i, ds[i], ds.drop (i + 1)⟩, Filter.first?_eq_some_iff.2 ⟨?_, ?_, ?_⟩,
      List.length_take_of_le (Nat.le_of_lt hlt), rfl⟩
    · rw [List.getElem_cons_drop, List.take_append_drop]
    · rw [accepts_upsert, hhas]
    · intro x hx
      obtain ⟨j, hj, rfl⟩ := List.mem_take_iff_getElem.1 hx
      rw [accepts_upsert, hbefore j (by omega) _ (List.getElem?_eq_getElem _)]
  · rintro ⟨p, hp, rfl, rfl⟩
    obtain ⟨hsplit, haccepts, hbefore⟩ := Filter.first?_eq_some_iff.1 hp
    refine ⟨?_, accepts_upsert field e p.document ▸ haccepts, fun j hj x hx => ?_⟩
    · rw [hsplit, List.getElem?_append_right (Nat.le_refl _), Nat.sub_self, List.getElem?_cons_zero]
    · rw [hsplit, List.getElem?_append_left hj] at hx
      rw [← accepts_upsert]
      exact hbefore x (List.mem_of_getElem? hx)

theorem replace_eq_set {p : Filter.Place} (h : ds = p.before ++ p.document :: p.after)
    (d : Document) : p.replace d = ds.set p.before.length d := by
  rw [h, List.set_append_right _ _ (Nat.le_refl _), Nat.sub_self, List.set_cons_zero]
  rfl

/-- Where a first document has the identity, an upsert replaces it. -/
theorem outcome_of_firstWith (h : FirstWith field e.id c.documents i d) :
    (bulkUpsert [e.upsert field]).outcome c =
      (.ok ⟨1, if d.same e.document then 0 else 1, 0⟩,
        c.withDocuments (c.documents.set i e.document)) := by
  obtain ⟨p, hp, rfl, rfl⟩ := firstWith_iff.1 h
  rw [bulkUpsert, outcome_upsertAll_cons, outcome_upsertOne, hp,
    ← replace_eq_set (Filter.first?_eq_some_iff.1 hp).1]
  simp only [Nat.zero_add]
  rfl

/-- Otherwise an upsert that succeeds adds its document at the end. -/
theorem cases_of_upsert_ok (h : (bulkUpsert [e.upsert field]).outcome c = (.ok r, left)) :
    (∃ i d, FirstWith field e.id c.documents i d) ∨
    (∀ d ∈ c.documents, d.has field e.id.val = false) ∧ r = ⟨0, 0, 1⟩ ∧
      left = c.withDocuments (c.documents ++ [e.document]) := by
  obtain ⟨p, hp, -, -⟩ | ⟨hnone, -, rfl, rfl⟩ := exists_of_upsert_ok h
  · exact .inl ⟨_, _, firstWith_iff.2 ⟨p, hp, rfl, rfl⟩⟩
  · refine .inr ⟨fun d hd => ?_, rfl, rfl⟩
    rw [← accepts_upsert, Filter.accepts, Filter.first?_eq_none_iff.1 hnone d hd]

/-! ### Lists that differ in one place -/

/-- Two lists agree in all places but one. There the second has a document with an identity, and
so has the first, unless it ends before. -/
structure Beside (field : String) (v : OrdinaryValue) (k : Nat) (ds es : List Document) :
    Prop where
  /-- They agree elsewhere. -/
  elsewhere : ∀ i, i ≠ k → es[i]? = ds[i]?
  /-- The second list has the identity in the place. -/
  carries : ∃ y, es[k]? = some y ∧ y.Carries field v
  /-- The first list has no other. -/
  carried : ∀ x, ds[k]? = some x → x.Carries field v

/-- A first document with any identity stands in the same place of both lists, and it is the same
one if the identity is another than that of the place. -/
theorem FirstWith.beside (h : FirstWith field w ds i d) (hb : Beside field v k ds es) :
    ∃ y, FirstWith field w es i y ∧ (v.val.same w.val = false → i ≠ k ∧ y = d) := by
  obtain ⟨y, hy, hcarries⟩ := hb.carries
  by_cases hik : i = k
  · subst hik
    have hsame : v.val.same w.val = true := by
      rw [← (hb.carried d h.getElem?).has_eq w, h.has]
    refine ⟨y, ⟨hy, (hcarries.has_eq w).trans hsame, fun j hj x hx => ?_⟩, fun hother => ?_⟩
    · rw [hb.elsewhere j (Nat.ne_of_lt hj)] at hx
      exact h.before j hj x hx
    · rw [hsame] at hother
      cases hother
  · refine ⟨d, ⟨(hb.elsewhere i hik).trans h.getElem?, h.has, fun j hj x hx => ?_⟩,
      fun _ => ⟨hik, rfl⟩⟩
    by_cases hjk : j = k
    · -- the first list reaches beyond the place, so the identity there is not the one looked for
      subst hjk
      rw [hy] at hx
      cases hx
      have hlt := (List.getElem?_eq_some_iff.1 h.getElem?).1
      have hj' := List.getElem?_eq_getElem (Nat.lt_trans hj hlt)
      rw [hcarries.has_eq w, ← (hb.carried _ hj').has_eq w, h.before j hj _ hj']
    · rw [hb.elsewhere j hjk] at hx
      exact h.before j hj x hx

/-- Two such lists stay such if one document is put into both where its identity is. -/
theorem Beside.set (hb : Beside field v k ds es) (h : FirstWith field w ds i d) {y : Document}
    (h' : FirstWith field w es i y) {x : Document} (hx : x.Carries field w) :
    Beside field v k (ds.set i x) (es.set i x) := by
  have hds := (List.getElem?_eq_some_iff.1 h.getElem?).1
  have hes := (List.getElem?_eq_some_iff.1 h'.getElem?).1
  obtain ⟨z, hz, hcarries⟩ := hb.carries
  by_cases hik : i = k
  · subst hik
    rw [h'.getElem?] at hz
    cases hz
    have hxv : x.Carries field v := by
      refine hx.of_same ?_
      rw [OrdinaryValue.same_comm, ← hcarries.has_eq w, h'.has]
    refine ⟨fun j hj => ?_, ⟨x, List.getElem?_set_self hes, hxv⟩, fun a ha => ?_⟩
    · rw [List.getElem?_set_ne (Ne.symm hj), List.getElem?_set_ne (Ne.symm hj), hb.elsewhere j hj]
    · rw [List.getElem?_set_self hds] at ha
      cases ha
      exact hxv
  · refine ⟨fun j hj => ?_, ⟨z, ?_, hcarries⟩, fun a ha => hb.carried a ?_⟩
    · rw [List.getElem?_set, List.getElem?_set, hb.elsewhere j hj, if_pos hds, if_pos hes]
    · rw [List.getElem?_set_ne hik, hz]
    · rwa [List.getElem?_set_ne hik] at ha

/-- An upsert that finds a document does the same in both lists. If its identity is not the one of
the place, it also counts the same and leaves the document in the place alone. -/
theorem exists_beside_single {other : Collection} (he : e.document.Carries field e.id)
    (h : (bulkUpsert [e.upsert field]).outcome c = (.ok r, left)) (hfound : r.upserted = 0)
    (hb : Beside field v k c.documents other.documents) :
    ∃ m after, (bulkUpsert [e.upsert field]).outcome other = (.ok ⟨r.matched, m, 0⟩, after) ∧
      Beside field v k left.documents after.documents ∧
      (v.val.same e.id.val = false →
        m = r.modified ∧ after.documents[k]? = other.documents[k]?) := by
  obtain ⟨i, d, hd⟩ | ⟨-, rfl, -⟩ := cases_of_upsert_ok h
  · obtain ⟨y, hy, hapart⟩ := hd.beside hb
    rw [outcome_of_firstWith hd] at h
    cases h
    refine ⟨_, _, outcome_of_firstWith hy, hb.set hd hy he, fun hother => ?_⟩
    obtain ⟨hik, rfl⟩ := hapart hother
    exact ⟨rfl, List.getElem?_set_ne hik⟩
  · cases hfound

/-- So does a batch that finds all its documents. -/
theorem exists_beside {entries : List Entry} {other : Collection}
    (hentries : ∀ e ∈ entries, e.document.Carries field e.id)
    (h : (bulkUpsert (entries.map (Entry.upsert field))).outcome c = (.ok r, left))
    (hfound : r.upserted = 0) (hb : Beside field v k c.documents other.documents) :
    ∃ m after, (bulkUpsert (entries.map (Entry.upsert field))).outcome other =
        (.ok ⟨r.matched, m, 0⟩, after) ∧
      Beside field v k left.documents after.documents ∧
      ((∀ e ∈ entries, v.val.same e.id.val = false) →
        m = r.modified ∧ after.documents[k]? = other.documents[k]?) := by
  induction entries generalizing c other r with
  | nil =>
    cases h
    exact ⟨0, other, rfl, hb, fun _ => ⟨rfl, rfl⟩⟩
  | cons e rest ih =>
    obtain ⟨he, hrest⟩ := List.forall_mem_cons.1 hentries
    rw [List.map_cons, outcome_bulkUpsert_cons] at h
    rcases hfirst : (bulkUpsert [e.upsert field]).outcome c with ⟨_ | s, mid⟩
    · rw [hfirst] at h
      cases h
    rw [hfirst] at h
    simp only at h
    rcases hothers : (bulkUpsert (rest.map (Entry.upsert field))).outcome mid with ⟨_ | t, last⟩
    · rw [hothers] at h
      cases h
    rw [hothers] at h
    cases h
    obtain ⟨hs, ht⟩ : s.upserted = 0 ∧ t.upserted = 0 := Nat.add_eq_zero_iff.1 hfound
    obtain ⟨m, between, hstep, hbetween, hcount⟩ := exists_beside_single he hfirst hs hb
    obtain ⟨n, after, hrun, hafter, hcounts⟩ := ih hrest hothers ht hbetween
    refine ⟨m + n, after, ?_, hafter, fun hall => ?_⟩
    · rw [List.map_cons, outcome_bulkUpsert_cons, hstep]
      simp only [hrun]
      rfl
    · obtain ⟨hother, hothers⟩ := List.forall_mem_cons.1 hall
      obtain ⟨rfl, hplace⟩ := hcount hother
      obtain ⟨rfl, hplaces⟩ := hcounts hothers
      exact ⟨rfl, hplaces.trans hplace⟩

/-! ### Batches that are sent again -/

/-- An upsert that succeeds leaves its document as the first with the identity, and changes no
other place. -/
theorem exists_firstWith_of_upsert_ok (hc : c.WellFormed)
    (he : e.document.Carries field e.id)
    (h : (bulkUpsert [e.upsert field]).outcome c = (.ok r, left)) :
    ∃ k, FirstWith field e.id left.documents k e.document ∧
      Beside field e.id k c.documents left.documents := by
  obtain ⟨i, d, hd⟩ | ⟨hnone, -, rfl⟩ := cases_of_upsert_ok h
  · have hlt := (List.getElem?_eq_some_iff.1 hd.getElem?).1
    rw [outcome_of_firstWith hd] at h
    cases h
    have hplace : (c.documents.set i e.document)[i]? = some e.document :=
      List.getElem?_set_self hlt
    refine ⟨i, ⟨hplace, he.has, fun j hj x hx => ?_⟩, fun j hj => ?_, ⟨_, hplace, he⟩,
      fun x hx => ?_⟩
    · rw [documents_withDocuments, List.getElem?_set_ne (Nat.ne_of_gt hj)] at hx
      exact hd.before j hj x hx
    · exact List.getElem?_set_ne (Ne.symm hj)
    · rw [hd.getElem?] at hx
      cases hx
      exact ⟨hc d (List.mem_of_getElem? hd.getElem?), hd.has⟩
  · have hplace : (c.documents ++ [e.document])[c.documents.length]? = some e.document :=
      List.getElem?_concat_length
    refine ⟨c.documents.length, ⟨hplace, he.has, fun j hj x hx => ?_⟩, fun j hj => ?_,
      ⟨_, hplace, he⟩, fun x hx => ?_⟩
    · rw [documents_withDocuments, List.getElem?_append_left hj] at hx
      exact hnone x (List.mem_of_getElem? hx)
    · obtain hj | hj := Nat.lt_or_gt_of_ne hj
      · exact List.getElem?_append_left hj
      · have hlength : (c.documents ++ [e.document]).length ≤ j := by
          rw [List.length_append]
          exact hj
        rw [documents_withDocuments, List.getElem?_eq_none hlength,
          List.getElem?_eq_none (Nat.le_of_lt hj)]
    · rw [List.getElem?_eq_none (Nat.le_refl _)] at hx
      cases hx

theorem wellFormed_of_bulkUpsert {entries : List Entry} {answer : Except StorageError UpsertSummary}
    (hc : c.WellFormed) (hentries : ∀ e ∈ entries, e.document.Carries field e.id)
    (h : (bulkUpsert (entries.map (Entry.upsert field))).outcome c = (answer, left)) :
    left.WellFormed := by
  have hr : (Request.bulkUpsert (entries.map (Entry.upsert field))).WellFormed := by
    rw [Request.WellFormed, Request.written, List.forall_mem_map, List.forall_mem_map]
    exact fun e he => (hentries e he).wellFormed
  have hafter := wellFormed_after hc hr
  rwa [after, perform, h] at hafter

/-- An upsert puts its document back if another one with its identity has come in its place. -/
theorem outcome_put_back {again : Collection}
    (hplace : FirstWith field e.id left.documents k e.document)
    (hleft : Beside field e.id k ds left.documents)
    (hagain : Beside field e.id k ds again.documents)
    (hdocuments : again = left.withDocuments again.documents) :
    ∃ y, again.documents[k]? = some y ∧ (bulkUpsert [e.upsert field]).outcome again =
      (.ok ⟨1, if y.same e.document then 0 else 1, 0⟩, left) := by
  obtain ⟨y, hy, hcarries⟩ := hagain.carries
  have helsewhere : ∀ j, j ≠ k → again.documents[j]? = left.documents[j]? :=
    fun j hj => (hagain.elsewhere j hj).trans (hleft.elsewhere j hj).symm
  have hfirst : FirstWith field e.id again.documents k y := by
    refine ⟨hy, hcarries.has, fun j hj x hx => hplace.before j hj x ?_⟩
    rwa [← helsewhere j (Nat.ne_of_lt hj)]
  have hset : again.documents.set k e.document = left.documents := by
    refine List.ext_getElem? fun j => ?_
    by_cases hjk : k = j
    · subst hjk
      rw [List.getElem?_set_self (List.getElem?_eq_some_iff.1 hy).1, hplace.getElem?]
    · rw [List.getElem?_set_ne hjk, helsewhere j (Ne.symm hjk)]
  refine ⟨y, hy, ?_⟩
  rw [outcome_of_firstWith hfirst, hset, hdocuments]
  rfl

/-- A batch that has succeeded finds every document and changes nothing when it is sent again. -/
theorem outcome_again {entries : List Entry} (hc : c.WellFormed)
    (hentries : ∀ e ∈ entries, e.document.Carries field e.id)
    (h : (bulkUpsert (entries.map (Entry.upsert field))).outcome c = (.ok r, left)) :
    ∃ m, (bulkUpsert (entries.map (Entry.upsert field))).outcome left =
        (.ok ⟨entries.length, m, 0⟩, left) ∧
      (entries.Pairwise (fun e f => e.id.val.same f.id.val = false) →
        (∀ e ∈ entries, e.document.same e.document = true) → m = 0) := by
  induction entries using List.reverseRecOn generalizing r left with
  | nil =>
    cases h
    exact ⟨0, rfl, fun _ _ => rfl⟩
  | append_singleton init e ih =>
    obtain ⟨hinit, he⟩ := List.forall_mem_append.1 hentries
    rw [List.map_append, outcome_bulkUpsert_append] at h
    rcases hbefore : (bulkUpsert (init.map (Entry.upsert field))).outcome c with ⟨_ | s, mid⟩
    · rw [hbefore] at h
      cases h
    rw [hbefore] at h
    simp only at h
    rcases hlast : (bulkUpsert [e.upsert field]).outcome mid with ⟨_ | t, last⟩
    · rw [List.map_singleton, hlast] at h
      cases h
    rw [List.map_singleton, hlast] at h
    obtain rfl : last = left := congrArg Prod.snd h
    -- without its last upsert the batch would change nothing in what was there before that upsert
    obtain ⟨m, hmid, hunchanged⟩ := ih hinit hbefore
    obtain ⟨k, hplace, hbeside⟩ := exists_firstWith_of_upsert_ok
      (wellFormed_of_bulkUpsert hc hinit hbefore) (he e (List.mem_singleton_self e)) hlast
    -- behind that upsert it may change one place, into which the upsert puts its document back
    obtain ⟨n, again, hagain, hdiffers, hcount⟩ := exists_beside hinit hmid rfl hbeside
    obtain ⟨y, hy, hback⟩ :=
      outcome_put_back hplace hbeside hdiffers (upserted_of_ok hagain).1
    refine ⟨n + (if y.same e.document then 0 else 1), ?_, fun hapart hself => ?_⟩
    · rw [List.map_append, outcome_bulkUpsert_append, hagain, List.map_singleton]
      dsimp only
      rw [hback, List.length_append]
      rfl
    · obtain ⟨hapart, -, hothers⟩ := List.pairwise_append.1 hapart
      obtain ⟨hselves, hself⟩ := List.forall_mem_append.1 hself
      have hother : ∀ f ∈ init, e.id.val.same f.id.val = false := by
        intro f hf
        rw [OrdinaryValue.same_comm]
        exact hothers f hf e (List.mem_singleton_self e)
      obtain ⟨rfl, hkept⟩ := hcount hother
      rw [hkept, hplace.getElem?] at hy
      cases hy
      rw [hunchanged hapart hselves, if_pos (hself e (List.mem_singleton_self e))]

/-- A batch that has failed fails again, with the same error, and changes nothing. -/
theorem outcome_again_of_error {entries : List Entry} {error : StorageError}
    (hc : c.WellFormed)
    (hentries : ∀ e ∈ entries, e.document.Carries field e.id)
    (h : (bulkUpsert (entries.map (Entry.upsert field))).outcome c = (.error error, left)) :
    (bulkUpsert (entries.map (Entry.upsert field))).outcome left = (.error error, left) := by
  obtain ⟨before, u, after, r, hsplit, hbefore, hu⟩ := exists_of_error h
  obtain ⟨init, rest, rfl, rfl, -⟩ := List.map_eq_append_iff.1 hsplit
  have hinit : ∀ e ∈ init, e.document.Carries field e.id :=
    fun e he => hentries e (List.mem_append_left rest he)
  obtain ⟨m, hagain, -⟩ := outcome_again hc hinit hbefore
  rw [hsplit, outcome_bulkUpsert_append, hagain]
  dsimp only
  rw [outcome_bulkUpsert_cons, hu]
  rfl

end Collection

/-! ### Batches of records -/

namespace Repository

open RecordStore.Action

variable {ρ ι : Type} [Record ρ ι]

/-- What is written for a record is an entry whose document carries the identity. -/
structure Identified (r : ρ) (e : Entry) : Prop where
  /-- The identity is written. -/
  encodeId : Record.encodeId ρ (Record.id r) = .ok e.id.val
  /-- The document is written. -/
  encode : Record.encode r = .ok e.document
  /-- The document carries the identity. -/
  carries : e.document.Carries (Record.idField ρ) e.id

theorem Identified.upsert_eq {r : ρ} {e : Entry} (h : Identified r e) :
    upsert r = .ok (e.upsert (Record.idField ρ)) :=
  upsert_eq_ok_iff.2 ⟨e.id.val, e.document, h.encodeId, h.encode, rfl⟩

theorem mapM_upsert_of_identified {records : List ρ} {f : ρ → Entry}
    (h : ∀ r ∈ records, Identified r (f r)) :
    records.mapM (m := Except StorageError) upsert =
      .ok ((records.map f).map (Entry.upsert (Record.idField ρ))) := by
  rw [Except.mapM_eq_ok_iff, List.forall₂_map_right_iff, List.forall₂_map_right_iff,
    List.forall₂_same]
  exact fun r hr => (h r hr).upsert_eq

/-- If a batch leaves a collection as it is that an earlier one has left, it leaves the store as it
is that the earlier one has left. -/
theorem outcome_bulkWrite_put {records : List ρ} {us : List Upsert}
    (hus : records.mapM (m := Except StorageError) upsert = .ok us) {s : Store} {left : Collection}
    {first second : Except StorageError UpsertSummary}
    (hfirst : (Collection.bulkUpsert us).outcome (s.collection (Record.collection ρ)) =
      (first, left))
    (hsecond : (Collection.bulkUpsert us).outcome left = (second, left)) :
    (bulkWrite records : Action Store UpsertSummary).outcome
        (s.put (Record.collection ρ) left.toContents) =
      (second, s.put (Record.collection ρ) left.toContents) := by
  have hframe := Collection.after_frame (s.collection (Record.collection ρ)) (.bulkUpsert us)
  rw [Collection.after, Collection.perform, hfirst] at hframe
  obtain ⟨hname, hfield⟩ : left.name = Record.collection ρ ∧ left.idField = s.idField := hframe
  have hput := Store.put_contents (s.put (Record.collection ρ) left.toContents)
    (Record.collection ρ)
  rw [Store.contents_put_self] at hput
  rw [outcome_bulkWrite hus, collection_put s hname hfield, hsecond]
  exact congrArg (second, ·) hput

/-- **Batches may be sent again.** The documents of some records carry the identities of the
records, several of which may be the same, and those that are stored have each name once. A batch
of the records that has failed in a store in memory fails again with the same error. One that has
succeeded succeeds again, finds a document for each record and adds none; nor does it change any
of them on the way, if the identities differ from one another and the documents of the records
hold no NaN. Either way the second batch leaves the store as the first has left it. -/
theorem bulkWrite_again {s : Store} {records : List ρ}
    (hwell : ∀ d ∈ s.documents ρ, d.wellFormed = true)
    (hrecords : ∀ r ∈ records, ∃ e, Identified r e) :
    match (bulkWrite records : Action Store UpsertSummary).outcome s with
    | (.error error, t) =>
      (bulkWrite records : Action Store UpsertSummary).outcome t = (.error error, t)
    | (.ok _, t) =>
      ∃ modified, (bulkWrite records : Action Store UpsertSummary).outcome t =
          (.ok ⟨records.length, modified, 0⟩, t) ∧
        (records.Pairwise (fun r q => ∀ v w, Record.encodeId ρ (Record.id r) = .ok v →
            Record.encodeId ρ (Record.id q) = .ok w → v.same w = false) →
          (∀ r ∈ records, ∀ d, Record.encode r = .ok d → d.hasNaN = false) → modified = 0) := by
  have : Nonempty Entry := ⟨⟨⟨.null, rfl⟩, []⟩⟩
  choose! entry hentry using hrecords
  have hcollection : (s.collection (Record.collection ρ)).WellFormed := hwell
  have hupserts := mapM_upsert_of_identified hentry
  have hcarries : ∀ e ∈ records.map entry, e.document.Carries (Record.idField ρ) e.id :=
    List.forall_mem_map.2 fun r hr => (hentry r hr).carries
  rw [outcome_bulkWrite hupserts]
  rcases h : (Collection.bulkUpsert ((records.map entry).map
    (Entry.upsert (Record.idField ρ)))).outcome (s.collection (Record.collection ρ))
    with ⟨error | r, left⟩
  · exact outcome_bulkWrite_put hupserts h
      (Collection.outcome_again_of_error hcollection hcarries h)
  · obtain ⟨m, hagain, hunchanged⟩ := Collection.outcome_again hcollection hcarries h
    rw [List.length_map] at hagain
    refine ⟨m, outcome_bulkWrite_put hupserts h hagain, fun hapart hnan => hunchanged ?_ ?_⟩
    · refine List.pairwise_map.2 (hapart.imp_of_mem fun {r q} hr hq hrq => ?_)
      exact hrq _ _ (hentry r hr).encodeId (hentry q hq).encodeId
    · refine List.forall_mem_map.2 fun r hr => ?_
      rw [Document.same_self_iff (hentry r hr).carries.wellFormed]
      exact hnan r hr _ (hentry r hr).encode

/-- The document of a measurement carries the number of the sensor, in any store. -/
theorem identified_measurement (m : Measurement) : ∃ e, Identified m e := by
  have hordinary : (Value.int64 m.sensor).ordinary = true := by
    simp [Value.ordinary, Value.wellFormed, Value.same, Value.isOperators]
  have hhas : m.toDocument.has "sensor" (.int64 m.sensor) = true := by
    simp [Document.has, Document.get?, Measurement.toDocument, Value.same]
  exact ⟨⟨⟨_, hordinary⟩, m.toDocument⟩, rfl, rfl, rfl, hhas⟩

/-- Measurements of two sensors are sent again, and nothing is modified. -/
theorem bulkWrite_again_of_measurements :
    (∀ d ∈ ({} : Store).documents Measurement, d.wellFormed = true) ∧
      (∀ m ∈ [Measurement.mk 1 ⟨0⟩, Measurement.mk 2 ⟨0⟩], ∃ e, Identified m e) ∧
      (bulkWrite [Measurement.mk 1 ⟨0⟩, Measurement.mk 2 ⟨0⟩] : Action Store UpsertSummary).outcome
          (({} : Store).withDocuments Measurement
            [[("sensor", .int64 1), ("value", .double ⟨0⟩)],
              [("sensor", .int64 2), ("value", .double ⟨0⟩)]]) =
        (.ok ⟨2, 0, 0⟩, ({} : Store).withDocuments Measurement
          [[("sensor", .int64 1), ("value", .double ⟨0⟩)],
            [("sensor", .int64 2), ("value", .double ⟨0⟩)]]) := by
  have hwell : ∀ d ∈ ({} : Store).documents Measurement, d.wellFormed = true :=
    fun d hd => absurd hd List.not_mem_nil
  refine ⟨hwell, fun m _ => identified_measurement m, ?_⟩
  obtain ⟨modified, h, hunchanged⟩ := bulkWrite_again hwell fun m
    (_ : m ∈ [Measurement.mk 1 ⟨0⟩, Measurement.mk 2 ⟨0⟩]) => identified_measurement m
  obtain rfl : modified = 0 := by
    refine hunchanged (List.pairwise_pair.2 ?_) fun m hm d hd => ?_
    · rintro v w ⟨⟩ ⟨⟩
      rfl
    · cases hd
      obtain rfl | rfl : m = ⟨1, ⟨0⟩⟩ ∨ m = ⟨2, ⟨0⟩⟩ := by simpa using hm
      all_goals rfl
  exact h

/-- Of two measurements of one sensor each replaces the other one, the second time too. -/
example :
    ((bulkWrite [Measurement.mk 1 ⟨0⟩, Measurement.mk 1 ⟨1⟩] : Action Store UpsertSummary).outcome
      (({} : Store).withDocuments Measurement [(Measurement.mk 1 ⟨1⟩).toDocument])).1 =
        .ok ⟨2, 2, 0⟩ := rfl

end Repository

end RecordStore
