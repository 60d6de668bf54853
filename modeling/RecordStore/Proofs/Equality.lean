import Mathlib.Data.List.Perm.Subperm
import RecordStore.Value.Basic
/-!
# Equality of values

Equality of values is transitive. It is symmetric on well-formed values, those in which no
document has a name twice; there a document that is covered by another of the same length
covers it in turn. It is not reflexive, as a NaN differs from itself.

## Main definitions

* `Value.wellFormed`, `Document.wellFormed`: every document has each name once.
* `Value.hasNaN`, `Document.hasNaN`: some double is no number.

## Main results

* `Value.same_cases`: what two equal values look like.
* `Value.same_trans`, `Value.same_symm`.
* `Value.same_self_iff`: only values without a NaN equal themselves.
-/

namespace RecordStore

/-! ### Well-formed values -/

mutual

/-- Whether every document in a value has each name once. -/
def Value.wellFormed : Value → Bool
  | .codeWithScope _ scope => Value.fieldsWellFormed scope
  | .array items => Value.itemsWellFormed items
  | .document fields => Value.fieldsWellFormed fields
  | _ => true

/-- Whether all items are well-formed. -/
def Value.itemsWellFormed : List Value → Bool
  | [] => true
  | v :: rest => v.wellFormed && Value.itemsWellFormed rest

/-- Whether no name occurs twice and all values are well-formed. -/
def Value.fieldsWellFormed : List (String × Value) → Bool
  | [] => true
  | (name, v) :: rest =>
    !(rest.map Prod.fst).contains name && v.wellFormed && Value.fieldsWellFormed rest

end

/-- Whether a document and every document in it has each name once. -/
def Document.wellFormed (d : Document) : Bool :=
  Value.fieldsWellFormed d

theorem Value.itemsWellFormed_iff {items : List Value} :
    Value.itemsWellFormed items = true ↔ ∀ v ∈ items, v.wellFormed = true := by
  induction items with
  | nil => simp [Value.itemsWellFormed]
  | cons v rest ih => simp [Value.itemsWellFormed, ih]

theorem Document.wellFormed_iff {d : Document} :
    d.wellFormed = true ↔ d.names.Nodup ∧ ∀ p ∈ d, p.2.wellFormed = true := by
  unfold Document.wellFormed Document.names
  induction d with
  | nil => simp [Value.fieldsWellFormed]
  | cons p rest ih =>
    obtain ⟨name, v⟩ := p
    rw [Value.fieldsWellFormed, Bool.and_eq_true, Bool.and_eq_true, ih, List.map_cons,
      List.nodup_cons, List.forall_mem_cons]
    simp only [Bool.not_eq_true', List.contains_eq_mem, decide_eq_false_iff_not]
    tauto

theorem Document.mem_of_lookup {d : Document} {name : String} {v : Value}
    (h : d.lookup name = some v) : (name, v) ∈ d := by
  obtain ⟨before, after, hsplit, -⟩ := List.lookup_eq_some_iff.1 h
  simp [hsplit]

/-- If every name occurs once, an entry is found by its name. -/
theorem Members.lookup_eq_of_mem {β : Type} {members : List (String × β)} {p : String × β}
    (hnames : (members.map Prod.fst).Nodup) (hp : p ∈ members) :
    members.lookup p.1 = some p.2 := by
  obtain ⟨before, after, hsplit⟩ := List.append_of_mem hp
  refine List.lookup_eq_some_iff.2 ⟨before, after, hsplit, fun q hq => ?_⟩
  subst hsplit
  simp only [List.map_append, List.map_cons, List.nodup_append] at hnames
  have := hnames.2.2 q.1 (List.mem_map_of_mem hq) p.1 (by simp)
  simpa using Ne.symm this

theorem Document.lookup_eq_of_mem {d : Document} {p : String × Value} (hd : d.names.Nodup)
    (hp : p ∈ d) : d.lookup p.1 = some p.2 :=
  Members.lookup_eq_of_mem hd hp

/-- A field of a well-formed document is well-formed. -/
theorem Document.wellFormed_get? {d : Document} {name : String} {v : Value}
    (hd : d.wellFormed = true) (h : d.get? name = some v) : v.wellFormed = true :=
  (Document.wellFormed_iff.1 hd).2 (name, v) (Document.mem_of_lookup h)

/-! ### Equal values -/

theorem Value.sameItems_iff {as bs : List Value} :
    Value.sameItems as bs = true ↔ List.Forall₂ (fun a b => a.same b = true) as bs := by
  induction as generalizing bs with
  | nil => cases bs <;> simp [Value.sameItems]
  | cons a as ih => cases bs <;> simp [Value.sameItems, ih]

/-- A document covers another if it has all its names with equal values. -/
theorem Value.sameFields_iff {s t : List (String × Value)} :
    Value.sameFields s t = true ↔
      ∀ p ∈ s, ∃ w, t.lookup p.1 = some w ∧ p.2.same w = true := by
  induction s with
  | nil => simp [Value.sameFields]
  | cons p rest ih =>
    obtain ⟨name, v⟩ := p
    rw [Value.sameFields, Bool.and_eq_true, ih, List.forall_mem_cons]
    cases t.lookup name <;> simp

/-- Equal values are the same value, up to the rules for doubles and documents. -/
theorem Value.same_cases {a b : Value} (h : a.same b = true) :
    a = b ∨
      (∃ x y, a = .double x ∧ b = .double y ∧ x.same y = true) ∨
      (∃ source s t, a = .codeWithScope source s ∧ b = .codeWithScope source t ∧
        s.length = t.length ∧ Value.sameFields s t = true) ∨
      (∃ as bs, a = .array as ∧ b = .array bs ∧ Value.sameItems as bs = true) ∨
      (∃ s t, a = .document s ∧ b = .document t ∧
        s.length = t.length ∧ Value.sameFields s t = true) := by
  unfold Value.same at h
  split at h <;> simp_all

/-! ### Equals of given values -/

theorem Value.same_string_iff {v : Value} {s : String} :
    v.same (.string s) = true ↔ v = .string s := by
  cases v <;> simp [Value.same]

theorem Value.same_int32_iff {v : Value} {i : Int32} :
    v.same (.int32 i) = true ↔ v = .int32 i := by
  cases v <;> simp [Value.same]

theorem Value.same_document_iff {v : Value} {t : Document} :
    v.same (.document t) = true ↔
      ∃ s, v = .document s ∧ s.length = t.length ∧ Value.sameFields s t = true := by
  cases v <;> simp [Value.same]

/-! ### Doubles -/

theorem Double.same_symm {x y : Double} (h : x.same y = true) : y.same x = true := by
  simp only [Double.same, Bool.and_eq_true, beq_iff_eq] at h ⊢
  exact ⟨⟨h.1.2, h.1.1⟩, h.2.symm⟩

theorem Double.same_trans {x y z : Double} (hxy : x.same y = true) (hyz : y.same z = true) :
    x.same z = true := by
  simp only [Double.same, Bool.and_eq_true, beq_iff_eq] at hxy hyz ⊢
  exact ⟨⟨hxy.1.1, hyz.1.2⟩, hxy.2.trans hyz.2⟩

/-! ### Parts of values are smaller -/

theorem Document.sizeOf_lt_of_mem {d : Document} {p : String × Value} (hp : p ∈ d) :
    sizeOf p.2 < sizeOf d := by
  have hlt := List.sizeOf_lt_of_mem hp
  have hpair : sizeOf p = 1 + sizeOf p.1 + sizeOf p.2 := Prod.mk.sizeOf_spec p.1 p.2
  omega

theorem Value.sizeOf_lt_document (s : Document) : sizeOf s < sizeOf (Value.document s) := by
  rw [Value.document.sizeOf_spec]
  omega

theorem Value.sizeOf_lt_codeWithScope (source : String) (s : Document) :
    sizeOf s < sizeOf (Value.codeWithScope source s) := by
  rw [Value.codeWithScope.sizeOf_spec]
  omega

theorem Value.sizeOf_lt_array {items : List Value} {v : Value} (hv : v ∈ items) :
    sizeOf v < sizeOf (Value.array items) := by
  have hlt := List.sizeOf_lt_of_mem hv
  rw [Value.array.sizeOf_spec]
  omega

/-! ### Symmetry -/

/-- A document that is covered by another of the same length has all names of the other, if
both have each name once. -/
theorem Document.names_subset_of_covered {s t : Document} (hs : s.names.Nodup)
    (hlength : s.length = t.length) (h : ∀ p ∈ s, ∃ w, t.lookup p.1 = some w) :
    t.names ⊆ s.names := by
  have hsubset : s.names ⊆ t.names := by
    intro name hname
    obtain ⟨p, hp, rfl⟩ := List.mem_map.1 hname
    obtain ⟨w, hw⟩ := h p hp
    exact List.mem_map.2 ⟨(p.1, w), Document.mem_of_lookup hw, rfl⟩
  -- as many distinct names as there are names at all leave no room for another one
  have hperm : s.names.Perm t.names :=
    (List.subperm_of_subset hs hsubset).perm_of_length_le (by simp [Document.names, hlength])
  exact hperm.symm.subset

/-- If a document is covered by another of the same length, with each name once in either, it
covers the other, provided that the values compared are equal in both directions. -/
theorem Document.covered_symm {s t : Document} (hs : s.wellFormed = true)
    (ht : t.wellFormed = true) (hlength : s.length = t.length)
    (h : ∀ p ∈ s, ∃ w, t.lookup p.1 = some w ∧ w.same p.2 = true) :
    Value.sameFields t s = true := by
  have hsnames := (Document.wellFormed_iff.1 hs).1
  have htnames := (Document.wellFormed_iff.1 ht).1
  rw [Value.sameFields_iff]
  intro q hq
  have hname : q.1 ∈ s.names :=
    Document.names_subset_of_covered hsnames hlength
      (fun p hp => (h p hp).imp fun _ hw => hw.1) (List.mem_map_of_mem hq)
  obtain ⟨p, hp, hpq⟩ := List.mem_map.1 hname
  obtain ⟨w, hw, hsame⟩ := h p hp
  have hwq : w = q.2 := by
    rw [hpq, Document.lookup_eq_of_mem htnames hq] at hw
    exact (Option.some.inj hw).symm
  refine ⟨p.2, ?_, hwq ▸ hsame⟩
  rw [← hpq]
  exact Document.lookup_eq_of_mem hsnames hp

/-- Equality of well-formed values is symmetric. -/
theorem Value.same_symm {a b : Value} (ha : a.wellFormed = true) (hb : b.wellFormed = true)
    (h : a.same b = true) : b.same a = true := by
  -- the induction is on the size of the left value, through the items and fields it holds
  have fields : ∀ s t : Document, sizeOf s < sizeOf a → s.wellFormed = true →
      t.wellFormed = true → s.length = t.length → Value.sameFields s t = true →
      Value.sameFields t s = true := by
    intro s t hsize hs ht hlength hcovered
    refine Document.covered_symm hs ht hlength fun p hp => ?_
    obtain ⟨w, hw, hsame⟩ := Value.sameFields_iff.1 hcovered p hp
    have hwell := Document.wellFormed_get? ht hw
    have hsmaller := Nat.lt_trans (Document.sizeOf_lt_of_mem hp) hsize
    exact ⟨w, hw, Value.same_symm ((Document.wellFormed_iff.1 hs).2 p hp) hwell hsame⟩
  obtain rfl | ⟨x, y, rfl, rfl, hxy⟩ | ⟨source, s, t, rfl, rfl, hlength, hst⟩ |
    ⟨as, bs, rfl, rfl, hab⟩ | ⟨s, t, rfl, rfl, hlength, hst⟩ := Value.same_cases h
  · exact h
  · exact Double.same_symm hxy
  · simpa [Value.same, hlength] using
      fields s t (Value.sizeOf_lt_codeWithScope source s) ha hb hlength hst
  · rw [Value.same, Value.sameItems_iff, List.forall₂_iff_get] at h ⊢
    refine ⟨h.1.symm, fun i hi hi' => ?_⟩
    have hsmaller := Value.sizeOf_lt_array (List.get_mem as ⟨i, hi'⟩)
    exact Value.same_symm (Value.itemsWellFormed_iff.1 ha _ (List.get_mem _ _))
      (Value.itemsWellFormed_iff.1 hb _ (List.get_mem _ _)) (h.2 i hi' hi)
  · simpa [Value.same, hlength] using
      fields s t (Value.sizeOf_lt_document s) ha hb hlength hst
termination_by sizeOf a

/-! ### Transitivity -/

theorem Value.array_same_iff {as : List Value} {c : Value} :
    (Value.array as).same c = true ↔
      ∃ cs, c = .array cs ∧ List.Forall₂ (fun a b => a.same b = true) as cs := by
  cases c <;> simp [Value.same, Value.sameItems_iff]

theorem Value.document_same_iff {s : Document} {c : Value} :
    (Value.document s).same c = true ↔
      ∃ u, c = .document u ∧ s.length = u.length ∧ Value.sameFields s u = true := by
  cases c <;> simp [Value.same]

theorem Value.codeWithScope_same_iff {source : String} {s : Document} {c : Value} :
    (Value.codeWithScope source s).same c = true ↔
      ∃ u, c = .codeWithScope source u ∧ s.length = u.length ∧
        Value.sameFields s u = true := by
  cases c with
  | codeWithScope other u => simp only [Value.same, Bool.and_eq_true, beq_iff_eq]; grind
  | _ => simp [Value.same]

/-- Equality of values is transitive. -/
theorem Value.same_trans {a b c : Value} (hab : a.same b = true) (hbc : b.same c = true) :
    a.same c = true := by
  -- as for symmetry, by the size of the first value; no names need be distinct here
  have fields : ∀ s t u : Document, sizeOf s < sizeOf a → Value.sameFields s t = true →
      Value.sameFields t u = true → Value.sameFields s u = true := by
    intro s t u hsize hst htu
    rw [Value.sameFields_iff] at hst htu ⊢
    intro p hp
    obtain ⟨w, hw, hsame⟩ := hst p hp
    obtain ⟨x, hx, hsame'⟩ := htu (p.1, w) (Document.mem_of_lookup hw)
    have hsmaller := Nat.lt_trans (Document.sizeOf_lt_of_mem hp) hsize
    exact ⟨x, hx, Value.same_trans hsame hsame'⟩
  obtain rfl | ⟨x, y, rfl, rfl, hxy⟩ | ⟨source, s, t, rfl, rfl, hlength, hst⟩ |
    ⟨as, bs, rfl, rfl, hab'⟩ | ⟨s, t, rfl, rfl, hlength, hst⟩ := Value.same_cases hab
  · exact hbc
  · cases c with
    | double z => exact Double.same_trans hxy hbc
    | _ => simp [Value.same] at hbc
  · obtain ⟨u, rfl, hlength', htu⟩ := Value.codeWithScope_same_iff.1 hbc
    exact Value.codeWithScope_same_iff.2
      ⟨u, rfl, hlength.trans hlength',
        fields s t u (Value.sizeOf_lt_codeWithScope source s) hst htu⟩
  · obtain ⟨cs, rfl, hright⟩ := Value.array_same_iff.1 hbc
    have hleft := Value.sameItems_iff.1 hab'
    rw [List.forall₂_iff_get] at hleft hright
    refine Value.array_same_iff.2
      ⟨cs, rfl, List.forall₂_iff_get.2 ⟨hleft.1.trans hright.1, fun i hi hi' => ?_⟩⟩
    have hsmaller := Value.sizeOf_lt_array (List.get_mem as ⟨i, hi⟩)
    exact Value.same_trans (hleft.2 i hi (hleft.1 ▸ hi)) (hright.2 i (hleft.1 ▸ hi) hi')
  · obtain ⟨u, rfl, hlength', htu⟩ := Value.document_same_iff.1 hbc
    exact Value.document_same_iff.2
      ⟨u, rfl, hlength.trans hlength', fields s t u (Value.sizeOf_lt_document s) hst htu⟩
termination_by sizeOf a

/-! ### Equal values compare alike -/

/-- A value may be replaced by an equal one on the right. -/
theorem Value.same_congr_right {a b : Value} (ha : a.wellFormed = true) (hb : b.wellFormed = true)
    (h : a.same b = true) {c : Value} : c.same a = c.same b :=
  Bool.eq_iff_iff.2
    ⟨fun hca => Value.same_trans hca h, fun hcb => Value.same_trans hcb (Value.same_symm ha hb h)⟩

/-- A value may be replaced by an equal one on the left. -/
theorem Value.same_congr_left {a b : Value} (ha : a.wellFormed = true) (hb : b.wellFormed = true)
    (h : a.same b = true) {c : Value} : a.same c = b.same c :=
  Bool.eq_iff_iff.2
    ⟨fun hac => Value.same_trans (Value.same_symm ha hb h) hac, fun hbc => Value.same_trans h hbc⟩

/-! ### Values that equal themselves -/

mutual

/-- Whether one of the doubles in a value is no number. -/
def Value.hasNaN : Value → Bool
  | .double d => d.isNaN
  | .codeWithScope _ scope => Value.fieldsHaveNaN scope
  | .array items => Value.itemsHaveNaN items
  | .document fields => Value.fieldsHaveNaN fields
  | _ => false

/-- Whether one of the doubles in the items is no number. -/
def Value.itemsHaveNaN : List Value → Bool
  | [] => false
  | v :: rest => v.hasNaN || Value.itemsHaveNaN rest

/-- Whether one of the doubles in the fields is no number. -/
def Value.fieldsHaveNaN : List (String × Value) → Bool
  | [] => false
  | (_, v) :: rest => v.hasNaN || Value.fieldsHaveNaN rest

end

/-- Whether one of the doubles in a document is no number. -/
def Document.hasNaN (d : Document) : Bool :=
  Value.fieldsHaveNaN d

theorem Value.itemsHaveNaN_eq_false_iff {items : List Value} :
    Value.itemsHaveNaN items = false ↔ ∀ v ∈ items, v.hasNaN = false := by
  induction items with
  | nil => simp [Value.itemsHaveNaN]
  | cons v rest ih => simp [Value.itemsHaveNaN, ih]

theorem Document.hasNaN_eq_false_iff {d : Document} :
    d.hasNaN = false ↔ ∀ p ∈ d, p.2.hasNaN = false := by
  unfold Document.hasNaN
  induction d with
  | nil => simp [Value.fieldsHaveNaN]
  | cons p rest ih =>
    obtain ⟨name, v⟩ := p
    rw [Value.fieldsHaveNaN, Bool.or_eq_false_iff, ih, List.forall_mem_cons]

/-- A document with each name once covers itself if its values equal themselves. -/
theorem Document.covered_self_iff {d : Document} (hd : d.names.Nodup) :
    Value.sameFields d d = true ↔ ∀ p ∈ d, p.2.same p.2 = true := by
  rw [Value.sameFields_iff]
  refine forall₂_congr fun p hp => ?_
  rw [Document.lookup_eq_of_mem hd hp]
  simp

/-- A well-formed value equals itself if and only if it holds no NaN. -/
theorem Value.same_self_iff {v : Value} (hv : v.wellFormed = true) :
    v.same v = true ↔ v.hasNaN = false := by
  have fields : ∀ d : Document, sizeOf d < sizeOf v → d.wellFormed = true →
      (Value.sameFields d d = true ↔ d.hasNaN = false) := by
    intro d hsize hd
    obtain ⟨hnodup, hvalues⟩ := Document.wellFormed_iff.1 hd
    rw [Document.covered_self_iff hnodup, Document.hasNaN_eq_false_iff]
    refine forall₂_congr fun p hp => ?_
    have hsmaller := Nat.lt_trans (Document.sizeOf_lt_of_mem hp) hsize
    exact Value.same_self_iff (hvalues p hp)
  cases v with
  | double d => simp [Value.same, Double.same, Value.hasNaN]
  | codeWithScope source scope =>
    simpa [Value.same, Value.hasNaN, Document.hasNaN] using
      fields scope (Value.sizeOf_lt_codeWithScope source scope) hv
  | array items =>
    rw [Value.same, Value.sameItems_iff, List.forall₂_same, Value.hasNaN,
      Value.itemsHaveNaN_eq_false_iff]
    refine forall₂_congr fun w hw => ?_
    have hsmaller := Value.sizeOf_lt_array hw
    exact Value.same_self_iff (Value.itemsWellFormed_iff.1 hv w hw)
  | document d =>
    simpa [Value.same, Value.hasNaN, Document.hasNaN] using
      fields d (Value.sizeOf_lt_document d) hv
  | _ => simp [Value.same, Value.hasNaN]
termination_by sizeOf v

/-- A well-formed document equals itself if and only if it holds no NaN. -/
theorem Document.same_self_iff {d : Document} (hd : d.wellFormed = true) :
    d.same d = true ↔ d.hasNaN = false := by
  have hvalue := Value.same_self_iff (v := .document d) hd
  simpa [Value.same, Value.hasNaN, Document.same, Document.hasNaN] using hvalue

end RecordStore
