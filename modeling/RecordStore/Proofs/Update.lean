import RecordStore.Proofs.Equality
import RecordStore.Update
/-!
# Fields after an update

Setting fields changes the fields that are named and no others. A field that is named holds the
new value afterwards, or still holds the old one if that is equal to it. Documents stay
well-formed.

## Main results

* `Update.get?_apply_of_none`, `Update.get?_apply_of_some`: a field after an update.
* `Update.wellFormed_apply`: a document after an update is well-formed.
-/

namespace RecordStore

namespace Document

variable {d : Document} {name other : String} {value : Value}

theorem get?_cons (name other : String) (value : Value) (rest : Document) :
    Document.get? ((other, value) :: rest) name =
      if name = other then some value else rest.get? name := by
  unfold Document.get?
  rw [List.lookup_cons]
  by_cases h : name = other
  · simp [h]
  · rw [if_neg h, beq_eq_false_iff_ne.2 h]

@[simp] theorem get?_insert_self (d : Document) (name : String) (value : Value) :
    (d.insert name value).get? name = some value := by
  induction d with
  | nil => simp [Document.insert, get?_cons]
  | cons entry rest ih =>
    obtain ⟨found, old⟩ := entry
    rw [Document.insert]
    split
    · rw [get?_cons, if_pos rfl]
    · next h => rw [get?_cons, if_neg (Ne.symm h), ih]

theorem get?_insert_of_ne (d : Document) (value : Value) (h : other ≠ name) :
    (d.insert name value).get? other = d.get? other := by
  induction d with
  | nil => rw [Document.insert, get?_cons, if_neg h]
  | cons entry rest ih =>
    obtain ⟨found, old⟩ := entry
    rw [Document.insert]
    split
    · next hfound => rw [get?_cons, get?_cons, if_neg h, if_neg (hfound ▸ h)]
    · rw [get?_cons, get?_cons, ih]

theorem has_insert_of_ne (d : Document) (value wanted : Value) (h : other ≠ name) :
    (d.insert name value).has other wanted = d.has other wanted := by
  unfold Document.has
  rw [get?_insert_of_ne d value h]

theorem mem_names_insert (d : Document) (name other : String) (value : Value) :
    other ∈ (d.insert name value).names ↔ other = name ∨ other ∈ d.names := by
  induction d with
  | nil => simp [Document.insert, Document.names]
  | cons entry rest ih =>
    obtain ⟨found, old⟩ := entry
    rw [Document.insert]
    split
    · next h => subst h; simp [Document.names]
    · simp only [Document.names, List.map_cons, List.mem_cons] at ih ⊢
      rw [ih]
      tauto

theorem wellFormed_cons_iff {name : String} {value : Value} {rest : Document} :
    Document.wellFormed ((name, value) :: rest) = true ↔
      name ∉ rest.names ∧ value.wellFormed = true ∧ rest.wellFormed = true := by
  simp only [Document.wellFormed, Value.fieldsWellFormed, Document.names, Bool.and_eq_true,
    Bool.not_eq_true', List.contains_eq_mem, decide_eq_false_iff_not, and_assoc]

theorem wellFormed_insert (hd : d.wellFormed = true) (hvalue : value.wellFormed = true) :
    (d.insert name value).wellFormed = true := by
  induction d with
  | nil => simp [Document.insert, wellFormed_cons_iff, Document.names, hvalue, hd]
  | cons entry rest ih =>
    obtain ⟨found, old⟩ := entry
    obtain ⟨hfound, hold, hrest⟩ := wellFormed_cons_iff.1 hd
    rw [Document.insert]
    split
    · next h =>
      subst h
      exact wellFormed_cons_iff.2 ⟨hfound, hvalue, hrest⟩
    · next h =>
      refine wellFormed_cons_iff.2 ⟨fun hmem => ?_, hold, ih hrest⟩
      obtain rfl | hmem := (mem_names_insert _ _ _ _).1 hmem
      · exact h rfl
      · exact hfound hmem

theorem get?_eq_none_iff : d.get? name = none ↔ name ∉ d.names := by
  unfold Document.get? Document.names
  rw [List.lookup_eq_none_iff, List.mem_map]
  simp only [bne_iff_ne, ne_eq, not_exists, not_and]
  exact forall₂_congr fun p _ => ne_comm

theorem has_iff {d : Document} {name : String} {value : Value} :
    d.has name value = true ↔ ∃ found, d.get? name = some found ∧ found.same value = true := by
  unfold Document.has
  cases d.get? name <;> simp

end Document

namespace Update

variable {d fields : Document} {name : String}

theorem apply_cons_fst (name : String) (value : Value) (rest d : Document) :
    (apply ((name, value) :: rest) d).1 =
      if d.has name value then (apply rest d).1 else (apply rest (d.insert name value)).1 := by
  rw [apply]
  split <;> rfl

theorem wellFormed_apply (hfields : fields.wellFormed = true) (hd : d.wellFormed = true) :
    (apply fields d).1.wellFormed = true := by
  induction fields generalizing d with
  | nil => exact hd
  | cons entry rest ih =>
    obtain ⟨name, value⟩ := entry
    obtain ⟨-, hvalue, hrest⟩ := Document.wellFormed_cons_iff.1 hfields
    rw [apply_cons_fst]
    split
    · exact ih hrest hd
    · exact ih hrest (Document.wellFormed_insert hd hvalue)

/-- A field that is not named stays as it is. -/
theorem get?_apply_of_none (h : fields.get? name = none) (d : Document) :
    (apply fields d).1.get? name = d.get? name := by
  induction fields generalizing d with
  | nil => rfl
  | cons entry rest ih =>
    obtain ⟨other, value⟩ := entry
    rw [Document.get?_cons] at h
    split at h
    · cases h
    · next hname =>
      rw [apply_cons_fst]
      split
      · exact ih h d
      · rw [ih h, Document.get?_insert_of_ne d value hname]

/-- A field that is named keeps its value if that equals the new one, and has the new one
otherwise. -/
theorem get?_apply_of_some {value : Value} (hfields : fields.names.Nodup)
    (h : fields.get? name = some value) (d : Document) :
    (apply fields d).1.get? name = if d.has name value then d.get? name else some value := by
  induction fields generalizing d with
  | nil => simp [Document.get?] at h
  | cons entry rest ih =>
    obtain ⟨other, first⟩ := entry
    simp only [Document.names, List.map_cons, List.nodup_cons] at hfields
    rw [Document.get?_cons] at h
    split at h
    · next hname =>
      obtain rfl := Option.some.inj h
      subst hname
      have hrest : Document.get? rest name = none := Document.get?_eq_none_iff.2 hfields.1
      rw [apply_cons_fst]
      split
      · exact get?_apply_of_none hrest d
      · rw [get?_apply_of_none hrest, Document.get?_insert_self]
    · next hname =>
      rw [apply_cons_fst]
      split
      · exact ih hfields.2 h d
      · rw [ih hfields.2 h, Document.has_insert_of_ne d first value hname,
          Document.get?_insert_of_ne d first hname]

/-- After an update a field that is named compares like the value that it is given. -/
theorem exists_get?_apply {value : Value} (hfields : fields.wellFormed = true)
    (hd : d.wellFormed = true) (h : fields.get? name = some value) :
    ∃ found, (apply fields d).1.get? name = some found ∧
      ∀ other, other.same found = other.same value ∧ found.same other = value.same other := by
  rw [get?_apply_of_some (Document.wellFormed_iff.1 hfields).1 h d]
  split
  · next hhas =>
    obtain ⟨found, hfound, hsame⟩ := Document.has_iff.1 hhas
    have hf := Document.wellFormed_get? hd hfound
    have hv := Document.wellFormed_get? hfields h
    exact ⟨found, hfound, fun other =>
      ⟨Value.same_congr_right hf hv hsame, Value.same_congr_left hf hv hsame⟩⟩
  · exact ⟨value, rfl, fun other => ⟨rfl, rfl⟩⟩

/-- The fields of a well-formed update are well-formed. -/
theorem wellFormed_changes {update : Document} (h : update.wellFormed = true)
    (hchanges : changes update = .ok fields) : fields.wellFormed = true := by
  unfold changes at hchanges
  split at hchanges
  · cases hchanges
    exact (Document.wellFormed_cons_iff.1 h).2.1
  · cases hchanges

end Update

end RecordStore
