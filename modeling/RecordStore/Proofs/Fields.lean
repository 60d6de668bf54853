import RecordStore.Proofs.Equality
import RecordStore.Proofs.Except
import RecordStore.Record
/-!
# Structures in mappings

A structure is read from a mapping in two rounds: first every member is checked for a fault of
its own, and then the fields are read. A member that is read has no such fault. So a mapping that
has each name once is read as soon as its fields are. Documents are such mappings.

## Main definitions

* `Fields.Consistent`: a member that is read has no fault.

## Main results

* `Reader.struct_of_mapping`: a structure is read from the members of a mapping.
* `Document.read_members`, `Document.decode_of_members`: a document is read from its members.
-/

namespace RecordStore

namespace Fields

variable {τ α β : Type} {member : String → Option τ} {missing : String → ReadError}

/-! ### Reading fields -/

@[simp] theorem read_required (name : String) (reader : Reader τ α) :
    (required name reader).read member missing =
      match member name with
      | some t => reader t
      | none => .error (missing name) := rfl

@[simp] theorem read_optional (name : String) (fallback : α) (reader : Reader τ α) :
    (optional name fallback reader).read member missing =
      match member name with
      | some t => reader t
      | none => .ok fallback := rfl

@[simp] theorem read_seq (f : Fields τ (α → β)) (x : Fields τ α) :
    (f <*> x).read member missing =
      (f.read member missing).bind fun g => (x.read member missing).map g := rfl

@[simp] theorem read_map (f : α → β) (x : Fields τ α) :
    (f <$> x).read member missing = (x.read member missing).map f := rfl

/-- A field that has to be there is read from its member. -/
theorem exists_of_required {name : String} {reader : Reader τ α} {a : α}
    (h : (required name reader).read member missing = .ok a) :
    ∃ t, member name = some t ∧ reader t = .ok a := by
  rw [read_required] at h
  split at h
  · next t ht => exact ⟨t, ht, h⟩
  · cases h

theorem exists_of_seq {f : Fields τ (α → β)} {x : Fields τ α} {b : β}
    (h : (f <*> x).read member missing = .ok b) :
    ∃ g a, f.read member missing = .ok g ∧ x.read member missing = .ok a ∧ b = g a := by
  obtain ⟨g, hg, h⟩ := Except.exists_of_bind
    (x := f.read member missing) (f := fun g => x.read member missing >>= fun a => pure (g a)) h
  obtain ⟨a, ha, h⟩ := Except.exists_of_bind h
  exact ⟨g, a, hg, ha, (Except.ok.inj h).symm⟩

theorem exists_of_map {f : α → β} {x : Fields τ α} {b : β}
    (h : (f <$> x).read member missing = .ok b) :
    ∃ a, x.read member missing = .ok a ∧ b = f a := by
  obtain ⟨g, a, hg, hx, rfl⟩ := exists_of_seq (f := pure f) h
  cases hg
  exact ⟨a, hx, rfl⟩

end Fields

/-! ### Reading numbers and lists -/

namespace Reader

variable {τ α : Type} [Tree τ] {t : τ}

theorem int64_eq_ok {i : Int64} (ht : Tree.node t = .integer i.toInt) :
    Reader.int64 t = .ok i := by
  have hlow := i.le_toInt
  have hhigh := i.toInt_lt
  simp only [Reader.int64, Reader.integer, ht]
  rw [if_pos ⟨by omega, by omega⟩]
  exact congrArg Except.ok (Int64.ofInt_toInt i)

theorem int32_eq_ok {i : Int32} (ht : Tree.node t = .integer i.toInt) :
    Reader.int32 t = .ok i := by
  have hlow := i.le_toInt
  have hhigh := i.toInt_lt
  simp only [Reader.int32, Reader.integer, ht]
  rw [if_pos ⟨by omega, by omega⟩]
  exact congrArg Except.ok (Int32.ofInt_toInt i)

theorem list_eq_ok {item : Reader τ α} {items : List τ} {as : List α}
    (ht : Tree.node t = .sequence items)
    (h : List.Forall₂ (fun p a => item p = .ok a) items as) : Reader.list item t = .ok as := by
  simp only [Reader.list, ht]
  exact Except.mapM_eq_ok_iff.2 h

end Reader

namespace Fields

variable {τ α β : Type} {member : String → Option τ} {missing : String → ReadError}

/-! ### What is read has no fault -/

/-- A member that is read has no fault. -/
class Consistent (fields : Fields τ α) : Prop where
  /-- The check of a member that the fields have been read from. -/
  check_of_read : ∀ {member : String → Option τ} {missing : String → ReadError} {a : α}
    {name : String} {t : τ}, fields.read member missing = .ok a → member name = some t →
      fields.check name t = .ok ()

theorem consistent_field (name : String) (reader : Reader τ α)
    (absent : (String → ReadError) → Except ReadError α) :
    (field name reader absent).Consistent where
  check_of_read := by
    intro member missing a found t h ht
    by_cases hfound : found = name
    · subst hfound
      have hread : reader t = .ok a := by
        simpa only [field, ht] using h
      simp [field, hread, Except.map]
    · exact if_neg hfound

instance (name : String) (reader : Reader τ α) : (required name reader).Consistent :=
  consistent_field name reader _

instance (name : String) (fallback : α) (reader : Reader τ α) :
    (optional name fallback reader).Consistent :=
  consistent_field name reader _

instance (a : α) : (pure a : Fields τ α).Consistent where
  check_of_read _ _ := rfl

instance (f : Fields τ (α → β)) (x : Fields τ α) [f.Consistent] [x.Consistent] :
    (f <*> x).Consistent where
  check_of_read := by
    intro member missing b name t h ht
    obtain ⟨g, a, hg, ha, -⟩ := exists_of_seq h
    change (f.check name t >>= fun _ => x.check name t) = _
    rw [Consistent.check_of_read hg ht]
    exact Consistent.check_of_read ha ht

instance (f : α → β) (x : Fields τ α) [x.Consistent] : (f <$> x).Consistent :=
  inferInstanceAs (pure f <*> x : Fields τ β).Consistent

end Fields

/-- A mapping that has each name once is read as a structure as soon as its fields are. -/
theorem Reader.struct_of_mapping {τ α : Type} [Tree τ] {t : τ} {members : List (String × τ)}
    {name : String} {fields : Fields τ α} [fields.Consistent] {a : α}
    (ht : Tree.node t = .mapping members) (hnames : (members.map Prod.fst).Nodup)
    (h : fields.read (fun name => members.lookup name) .missingField = .ok a) :
    Reader.struct name fields t = .ok a := by
  have hchecks : (members.forM fun p =>
      if p.1 ∈ fields.names then fields.check p.1 p.2 else .ok ()) = Except.ok () := by
    refine Except.forM_eq_ok fun p hp => ?_
    rw [Fields.Consistent.check_of_read h (Members.lookup_eq_of_mem hnames hp), ite_self]
  unfold Reader.struct Reader.structWith
  rw [ht]
  change (members.forM _ >>= fun _ => fields.read _ _) = _
  rw [hchecks]
  exact h

namespace Document

variable {α : Type} {name : String} {fields : Fields Value α} {d : Document} {a : α}

/-- A structure in a document is read from the members of the document. -/
theorem read_members (h : d.read name fields = .ok a) :
    fields.read (fun name => d.lookup name) .missingField = .ok a := by
  -- every member is checked before the fields are read
  unfold Document.read Reader.struct Reader.structWith at h
  obtain ⟨-, -, hfields⟩ := Except.exists_of_bind h
  exact hfields

/-- A document that has each name once is read as soon as its fields are. -/
theorem read_of_members [fields.Consistent] (hd : d.names.Nodup)
    (h : fields.read (fun name => d.lookup name) .missingField = .ok a) :
    d.read name fields = .ok a :=
  Reader.struct_of_mapping rfl hd h

theorem read_of_decode (h : d.decode name fields = .ok a) : d.read name fields = .ok a := by
  unfold Document.decode at h
  cases hread : d.read name fields with
  | error fault =>
    rw [hread] at h
    cases h
  | ok b =>
    rw [hread] at h
    cases h
    rfl

theorem decode_of_members [fields.Consistent] (hd : d.names.Nodup)
    (h : fields.read (fun name => d.lookup name) .missingField = .ok a) :
    d.decode name fields = .ok a := by
  rw [Document.decode, read_of_members hd h]
  rfl

end Document

end RecordStore
