import RecordStore.Proofs.Equality
import RecordStore.Proofs.Filter
/-!
# Identities

A value can serve as an identity if it equals itself and a filter compares with it instead of
reading it as operators. Equality of such values is an equivalence, and an `Identity` is one of
its classes. A document has the identity that its identity field holds, and the filters that
address documents by identities look at nothing else.

## Main definitions

* `Value.ordinary`, `OrdinaryValue`: values that can serve as identities.
* `Identity`, `Document.identity?`: classes of equal values, and the one of a document.
* `Filter.Selects`: a filter that decides on identities.

## Main results

* `Filter.selects_identity`, `Filter.selects_identities`, `Filter.selects_all`.
-/

namespace RecordStore

/-- Whether a filter reads a value as operators. -/
def Value.isOperators : Value → Bool
  | .document fields => Filter.isOperators fields
  | _ => false

/-- Whether a value can serve as an identity. -/
def Value.ordinary (v : Value) : Bool :=
  v.wellFormed && v.same v && !v.isOperators

/-- A value that can serve as an identity. -/
abbrev OrdinaryValue := { v : Value // v.ordinary = true }

namespace OrdinaryValue

theorem wellFormed (v : OrdinaryValue) : v.val.wellFormed = true := by
  have h := v.property
  simp only [Value.ordinary, Bool.and_eq_true] at h
  exact h.1.1

theorem same_self (v : OrdinaryValue) : v.val.same v.val = true := by
  have h := v.property
  simp only [Value.ordinary, Bool.and_eq_true] at h
  exact h.1.2

theorem isOperators_eq_false (v : OrdinaryValue) : v.val.isOperators = false := by
  have h := v.property
  simp only [Value.ordinary, Bool.and_eq_true, Bool.not_eq_true'] at h
  exact h.2

instance setoid : Setoid OrdinaryValue where
  r v w := v.val.same w.val = true
  iseqv :=
    { refl := same_self
      symm := fun {v w} h => Value.same_symm v.wellFormed w.wellFormed h
      trans := fun h h' => Value.same_trans h h' }

instance (v w : OrdinaryValue) : Decidable (v ≈ w) :=
  inferInstanceAs (Decidable (v.val.same w.val = true))

end OrdinaryValue

/-- A class of equal values. -/
def Identity := Quotient OrdinaryValue.setoid

namespace Identity

instance : DecidableEq Identity :=
  inferInstanceAs (DecidableEq (Quotient OrdinaryValue.setoid))

/-- The identity that a value stands for. -/
def of (v : OrdinaryValue) : Identity := Quotient.mk _ v

theorem of_eq_of_iff {v w : OrdinaryValue} : of v = of w ↔ v.val.same w.val = true :=
  ⟨Quotient.exact, fun h => Quotient.sound h⟩

end Identity

namespace Document

/-- The identity of a document, if its identity field holds a value that can serve as one. -/
def identity? (field : String) (d : Document) : Option Identity :=
  match d.get? field with
  | some v => if h : v.ordinary = true then some (.of ⟨v, h⟩) else none
  | none => none

variable {field : String} {d e : Document} {k : Identity}

theorem identity?_eq_some_iff :
    d.identity? field = some k ↔
      ∃ v : OrdinaryValue, d.get? field = some v.val ∧ k = .of v := by
  unfold identity?
  constructor
  · intro h
    split at h
    · next v hv =>
      split at h
      · next hordinary => exact ⟨⟨v, hordinary⟩, hv, (Option.some.inj h).symm⟩
      · cases h
    · cases h
  · rintro ⟨v, hv, rfl⟩
    rw [hv]
    exact dif_pos v.property

theorem identity?_congr (h : d.get? field = e.get? field) :
    d.identity? field = e.identity? field := by
  unfold identity?
  rw [h]

/-- A document has a value in its identity field if that stands for its identity. -/
theorem has_of_identity? (h : d.identity? field = some k) (v : OrdinaryValue) :
    d.has field v.val = decide (k = .of v) := by
  obtain ⟨w, hw, rfl⟩ := identity?_eq_some_iff.1 h
  rw [Document.has, hw, Bool.eq_iff_iff, decide_eq_true_iff, Identity.of_eq_of_iff]

end Document

namespace Filter

/-- A filter decides on every document that has an identity by a condition on the identity. -/
def Selects (field : String) (filter : Document) (p : Identity → Bool) : Prop :=
  ∀ d k, d.identity? field = some k → test d filter = .ok (p k)

theorem meets_of_not_isOperators {field : Option Value} {v : Value} (h : v.isOperators = false) :
    meets field v = .ok (equals field v) := by
  unfold meets
  split
  · next condition =>
    rw [if_neg]
    rwa [Value.isOperators, ← Bool.not_eq_true] at h
  · rfl

theorem meets_membership (field : Option Value) (vs : List Value) :
    meets field (.document [("$in", .array vs)]) = .ok (vs.any (equals field)) := by
  have hoperators : isOperators [("$in", .array vs)] = true :=
    show ("$in".toList.head? == some '$') = true by decide
  rw [meets, if_pos hoperators, allHold_cons, holds]
  cases vs.any (equals field) <;> rfl

theorem test_singleton (d : Document) (name : String) (condition : Value) :
    test d [(name, condition)] = meets (d.get? name) condition := by
  rw [test_cons]
  cases meets (d.get? name) condition with
  | error e => rfl
  | ok found => cases found <;> rfl

theorem accepts_value {d : Document} {field : String} {v : Value} (h : v.isOperators = false) :
    accepts [(field, v)] d = d.has field v := by
  have hhas : equals (d.get? field) v = d.has field v := rfl
  rw [accepts, test_singleton, meets_of_not_isOperators h, hhas]

theorem test_membership (d : Document) (field : String) (vs : List Value) :
    test d [(field, .document [("$in", .array vs)])] = .ok (vs.any (d.has field)) := by
  rw [test_singleton, meets_membership]
  rfl

/-- The filter by one identity selects the documents that have it. -/
theorem selects_identity (field : String) (v : OrdinaryValue) :
    Selects field [(field, v.val)] fun k => decide (k = .of v) := by
  intro d k hk
  have hhas : equals (d.get? field) v.val = d.has field v.val := rfl
  rw [test_singleton, meets_of_not_isOperators v.isOperators_eq_false, hhas,
    Document.has_of_identity? hk v]

/-- The filter by several identities selects the documents that have one of them. -/
theorem selects_identities (field : String) (vs : List OrdinaryValue) :
    Selects field [(field, .document [("$in", .array (vs.map Subtype.val))])]
      fun k => decide (k ∈ vs.map Identity.of) := by
  intro d k hk
  rw [test_singleton, meets_membership]
  refine congrArg Except.ok ?_
  rw [List.any_map, Bool.eq_iff_iff, List.any_eq_true, decide_eq_true_iff, List.mem_map]
  refine exists_congr fun v => and_congr_right fun _ => ?_
  have hhas : equals (d.get? field) v.val = d.has field v.val := rfl
  rw [Function.comp_apply, hhas, Document.has_of_identity? hk v, decide_eq_true_iff, eq_comm]

/-- The filter without conditions selects all documents. -/
theorem selects_all (field : String) : Selects field [] fun _ => true :=
  fun _ _ _ => rfl

end Filter

end RecordStore
