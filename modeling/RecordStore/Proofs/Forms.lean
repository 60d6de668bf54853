import RecordStore.Payload.Basic
import RecordStore.Proofs.Fields
/-!
# Forms of a payload

One structure can be written in several forms: its members may stand in any order or be listed
without their names, members whose absence means the same may be left out, and others may stand
between them. What the forms have in common is what a reader finds under each name, so a reader
that gets a structure from there gets it from every form.

## Main definitions

* `Payload.Form`: the forms of a structure with given fields.
* `Payload.Found`: what a form of them has in the place of a field.

## Main results

* `Payload.Carries.of_items`: a row of items is as good as the members it stands for.
* `Reader.struct_of_form`: every form of a structure is read alike.
-/

namespace RecordStore

namespace Payload

variable {spare : Payload → Prop} {recast : Payload → Payload → Prop}

/-! ### Forms -/

/-- The members hold the fields: each with a recast of its value, or not at all if the value
is spare. Other members may stand beside them. -/
structure Carries (spare : Payload → Prop) (recast : Payload → Payload → Prop)
    (fields members : List (String × Payload)) : Prop where
  nodup : (members.map Prod.fst).Nodup
  field : ∀ f ∈ fields, (∃ p, (f.1, p) ∈ members ∧ recast f.2 p) ∨
    (f.1 ∉ members.map Prod.fst ∧ spare f.2)

/-- The forms of a structure with the given fields: an object whose members hold them, or the
array of their values in order, from whose end spare ones may be cut off. A value may stand in
any form that `recast` allows it. -/
inductive Form (spare : Payload → Prop) (recast : Payload → Payload → Prop)
    (fields : List (String × Payload)) : Payload → Prop
  | object {members : List (String × Payload)} (h : Carries spare recast fields members) :
      Form spare recast fields (.object members)
  | array {before after : List (String × Payload)} {items : List Payload}
      (hfields : fields = before ++ after)
      (hitems : List.Forall₂ (fun f p => recast f.2 p) before items)
      (hafter : ∀ f ∈ after, spare f.2) : Form spare recast fields (.array items)

/-- The fields themselves are the members of a form. -/
theorem Form.self {fields : List (String × Payload)} (hnames : (fields.map Prod.fst).Nodup)
    (hrecast : ∀ p, recast p p) : Form spare recast fields (.object fields) :=
  .object ⟨hnames, fun f hf => .inl ⟨f.2, hf, hrecast f.2⟩⟩

/-! ### What a form has in the place of a field -/

/-- What is found under the name of a field is a recast of its value, or nothing if the value
is spare. -/
def Found (spare : Payload → Prop) (recast : Payload → Payload → Prop)
    (member : String → Option Payload) (f : String × Payload) : Prop :=
  (∃ p, member f.1 = some p ∧ recast f.2 p) ∨ (member f.1 = none ∧ spare f.2)

theorem Carries.found {fields members : List (String × Payload)}
    (h : Carries spare recast fields members) :
    ∀ f ∈ fields, Found spare recast (fun name => members.lookup name) f := by
  intro f hf
  obtain ⟨p, hp, hrecast⟩ | ⟨habsent, hspare⟩ := h.field f hf
  · exact .inl ⟨p, Members.lookup_eq_of_mem h.nodup hp, hrecast⟩
  · refine .inr ⟨List.lookup_eq_none_iff.2 fun q hq => bne_iff_ne.2 fun heq => ?_, hspare⟩
    exact habsent (List.mem_map.2 ⟨q, hq, heq.symm⟩)

/-- The item at the place of a field. -/
theorem exists_mem_zip {fields : List (String × Payload)} {items : List Payload}
    (h : List.Forall₂ (fun f p => recast f.2 p) fields items) :
    ∀ f ∈ fields, ∃ p, (f.1, p) ∈ (fields.map Prod.fst).zip items ∧ recast f.2 p := by
  induction h with
  | nil => exact fun f hf => absurd hf List.not_mem_nil
  | cons hp _ ih =>
    refine List.forall_mem_cons.2 ⟨⟨_, List.mem_cons_self, hp⟩, fun f hf => ?_⟩
    obtain ⟨p, hmem, hrecast⟩ := ih f hf
    exact ⟨p, List.mem_cons_of_mem _ hmem, hrecast⟩

/-- The items of a row become members once each gets the name of its field. -/
theorem Carries.of_items {before after : List (String × Payload)} {items : List Payload}
    (hnames : ((before ++ after).map Prod.fst).Nodup)
    (hitems : List.Forall₂ (fun f p => recast f.2 p) before items)
    (hafter : ∀ f ∈ after, spare f.2) :
    Carries spare recast (before ++ after) (((before ++ after).map Prod.fst).zip items) := by
  have hlength : (before.map Prod.fst).length = items.length := by
    rw [List.length_map, hitems.length_eq]
  have hzip : ((before ++ after).map Prod.fst).zip items = (before.map Prod.fst).zip items := by
    conv_lhs => rw [List.map_append, ← List.append_nil items, List.zip_append hlength]
    rw [List.zip_nil_right, List.append_nil]
  have hfst : ((before.map Prod.fst).zip items).map Prod.fst = before.map Prod.fst :=
    List.map_fst_zip (Nat.le_of_eq hlength)
  rw [List.map_append] at hnames
  obtain ⟨hbefore, -, hdisjoint⟩ := List.nodup_append.1 hnames
  rw [hzip]
  refine ⟨by rwa [hfst], fun f hf => ?_⟩
  obtain hf | hf := List.mem_append.1 hf
  · exact .inl (exists_mem_zip hitems f hf)
  · -- the fields that are left over have other names than those in front of them
    refine .inr ⟨fun hmem => ?_, hafter f hf⟩
    rw [hfst] at hmem
    exact hdisjoint _ hmem _ (List.mem_map_of_mem hf) rfl

end Payload

/-! ### Reading a form -/

section Reading

open Payload

variable {spare : Payload → Prop} {recast : Payload → Payload → Prop} {α : Type}
  {member : String → Option Payload} {missing : String → ReadError} {reader : Reader Payload α}
  {p : Payload} {a : α}

theorem Fields.read_required_of_found {name : String}
    (h : Found (fun _ => False) Eq member (name, p)) :
    (required name reader).read member missing = reader p := by
  obtain ⟨q, hq, rfl⟩ | ⟨-, hspare⟩ := h
  · rw [read_required, hq]
  · exact hspare.elim

theorem Fields.read_optional_of_found {name : String} {fallback : α}
    (h : Found spare recast member (name, p)) (hread : ∀ q, recast p q → reader q = .ok a)
    (hspare : spare p → fallback = a) :
    (optional name fallback reader).read member missing = .ok a := by
  obtain ⟨q, hq, hrecast⟩ | ⟨hq, hp⟩ := h
  · rw [read_optional, hq]
    exact hread q hrecast
  · rw [read_optional, hq, hspare hp]

/-- A structure that is read from whatever is found for its fields is read from every form of
them. -/
theorem Reader.struct_of_form {name : String} {F : Fields Payload α} [F.Consistent]
    {fields : List (String × Payload)} (hnames : F.names = fields.map Prod.fst)
    (hnodup : (fields.map Prod.fst).Nodup)
    (hread : ∀ member missing, (∀ f ∈ fields, Found spare recast member f) →
      F.read member missing = .ok a)
    (h : Form spare recast fields p) : Reader.struct name F p = .ok a := by
  cases h with
  | object h => exact Reader.struct_of_mapping rfl h.nodup (hread _ _ h.found)
  | @array before after items hsplit hitems hafter =>
    -- the items are looked up under the names of the fields, as if they were members
    subst hsplit
    have hcarries := Carries.of_items hnodup hitems hafter
    have hfew : ¬ F.names.length < items.length := by
      rw [hnames, List.length_map, List.length_append, hitems.length_eq]
      omega
    have hsurplus : ¬ (Tree.refusesSurplus Payload &&
        decide (F.names.length < items.length)) = true := by
      simpa using fun _ => hfew
    rw [← hnames] at hcarries
    change (F.read _ _ >>= fun a => ite _ _ _) = _
    rw [hread _ _ hcarries.found]
    exact if_neg hsurplus

end Reading

end RecordStore
