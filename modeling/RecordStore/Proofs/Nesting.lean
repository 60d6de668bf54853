import RecordStore.Proofs.Equality
/-!
# Nesting of values

Equal values are nested equally deep, so a value equals nothing that stands within it.

## Main definitions

* `Value.height`: how deep values are nested in a value.

## Main results

* `Value.height_le_of_same`: a value is nested no deeper than one that it equals.
* `Value.same_eq_false_of_mem`, `Value.same_eq_false_of_mem_array`: a document equals no value of
  one of its fields, and no item of one.
-/

namespace RecordStore

mutual

/-- How deep values are nested in a value. -/
def Value.height : Value → Nat
  | .codeWithScope _ scope => Value.fieldsHeight scope + 1
  | .array items => Value.itemsHeight items + 1
  | .document fields => Value.fieldsHeight fields + 1
  | _ => 0

/-- How deep values are nested in the items of a list. -/
def Value.itemsHeight : List Value → Nat
  | [] => 0
  | v :: rest => max v.height (Value.itemsHeight rest)

/-- How deep values are nested in the fields of a document. -/
def Value.fieldsHeight : List (String × Value) → Nat
  | [] => 0
  | (_, v) :: rest => max v.height (Value.fieldsHeight rest)

end

namespace Value

theorem itemsHeight_le_iff {items : List Value} {n : Nat} :
    itemsHeight items ≤ n ↔ ∀ v ∈ items, v.height ≤ n := by
  induction items with
  | nil => simp [itemsHeight]
  | cons v rest ih => rw [itemsHeight, Nat.max_le, ih, List.forall_mem_cons]

theorem fieldsHeight_le_iff {fields : Document} {n : Nat} :
    fieldsHeight fields ≤ n ↔ ∀ p ∈ fields, p.2.height ≤ n := by
  induction fields with
  | nil => simp [fieldsHeight]
  | cons p rest ih =>
    obtain ⟨name, v⟩ := p
    rw [fieldsHeight, Nat.max_le, ih, List.forall_mem_cons]

theorem height_le_itemsHeight {items : List Value} {v : Value} (hv : v ∈ items) :
    v.height ≤ itemsHeight items :=
  itemsHeight_le_iff.1 (Nat.le_refl _) v hv

theorem height_le_fieldsHeight {fields : Document} {p : String × Value} (hp : p ∈ fields) :
    p.2.height ≤ fieldsHeight fields :=
  fieldsHeight_le_iff.1 (Nat.le_refl _) p hp

/-- A value is nested no deeper than one that it equals. -/
theorem height_le_of_same {a b : Value} (h : a.same b = true) : a.height ≤ b.height := by
  -- the induction is on the size of the left value, whose items and fields have equals on the right
  have fields : ∀ s t : Document, sizeOf s < sizeOf a → sameFields s t = true →
      fieldsHeight s ≤ fieldsHeight t := by
    intro s t hsize hst
    refine fieldsHeight_le_iff.2 fun p hp => ?_
    obtain ⟨w, hw, hsame⟩ := sameFields_iff.1 hst p hp
    have hsmaller := Nat.lt_trans (Document.sizeOf_lt_of_mem hp) hsize
    exact Nat.le_trans (height_le_of_same hsame)
      (height_le_fieldsHeight (Document.mem_of_lookup hw))
  obtain rfl | ⟨x, y, rfl, rfl, -⟩ | ⟨source, s, t, rfl, rfl, -, hst⟩ |
    ⟨as, bs, rfl, rfl, hab⟩ | ⟨s, t, rfl, rfl, -, hst⟩ := same_cases h
  · exact Nat.le_refl _
  · exact Nat.le_refl _
  · exact Nat.succ_le_succ (fields s t (sizeOf_lt_codeWithScope source s) hst)
  · have hitems := sameItems_iff.1 hab
    rw [List.forall₂_iff_get] at hitems
    refine Nat.succ_le_succ (itemsHeight_le_iff.2 fun v hv => ?_)
    obtain ⟨i, hi⟩ := List.get_of_mem hv
    have hsmaller := sizeOf_lt_array hv
    have hsame := hitems.2 i.1 i.2 (hitems.1 ▸ i.2)
    rw [hi] at hsame
    exact Nat.le_trans (height_le_of_same hsame) (height_le_itemsHeight (List.get_mem _ _))
  · exact Nat.succ_le_succ (fields s t (sizeOf_lt_document s) hst)
termination_by sizeOf a

/-- A document equals no value that is one of its fields. -/
theorem same_eq_false_of_mem {fields : Document} {p : String × Value} (hp : p ∈ fields) :
    (document fields).same p.2 = false := by
  rw [Bool.eq_false_iff]
  intro h
  have hle : fieldsHeight fields + 1 ≤ p.2.height := height_le_of_same h
  have hfield := height_le_fieldsHeight hp
  omega

/-- A document equals no item of a list that is one of its fields. -/
theorem same_eq_false_of_mem_array {fields : Document} {name : String} {items : List Value}
    (hp : (name, array items) ∈ fields) {v : Value} (hv : v ∈ items) :
    (document fields).same v = false := by
  rw [Bool.eq_false_iff]
  intro h
  have hle : fieldsHeight fields + 1 ≤ v.height := height_le_of_same h
  have hfield : itemsHeight items + 1 ≤ fieldsHeight fields := height_le_fieldsHeight hp
  have hitem := height_le_itemsHeight hv
  omega

end Value

end RecordStore
