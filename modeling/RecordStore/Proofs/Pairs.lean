import Mathlib.Data.List.Induction
import Mathlib.Data.List.Nodup
import RecordStore.Proofs.Update
/-!
# Documents made of pairs

Inserting pairs one after the other gives each name the place of its first pair and the value of
its last one. A document with distinct names is determined by its names in order and by the value
of each.

## Main results

* `Document.names_insert`: the names after an insertion.
* `Document.eq_filterMap_names`: a document from its names and their values.
* `Document.ofPairs_eq`: which names and values there are after inserting pairs.
-/

namespace RecordStore

namespace Document

@[simp] theorem names_cons (name : String) (value : Value) (rest : Document) :
    names ((name, value) :: rest) = name :: names rest := rfl

theorem names_insert (d : Document) (name : String) (value : Value) :
    (d.insert name value).names = if name ∈ d.names then d.names else d.names ++ [name] := by
  induction d with
  | nil => rfl
  | cons entry rest ih =>
    obtain ⟨other, old⟩ := entry
    rw [Document.insert, names_cons]
    by_cases h : other = name
    · rw [if_pos h, if_pos (List.mem_cons.2 (.inl h.symm)), names_cons, h]
    · rw [if_neg h, names_cons, ih]
      by_cases hname : name ∈ names rest
      · rw [if_pos hname, if_pos (List.mem_cons_of_mem other hname)]
      · have hnot : name ∉ other :: names rest := by simp [Ne.symm h, hname]
        rw [if_neg hname, if_neg hnot, List.cons_append]

theorem nodup_names_insert {d : Document} (h : d.names.Nodup) (name : String) (value : Value) :
    (d.insert name value).names.Nodup := by
  rw [names_insert]
  split
  · exact h
  · next hname => exact List.concat_eq_append ▸ h.concat hname

/-- A document with distinct names consists of its names with their values. -/
theorem eq_filterMap_names {d : Document} (h : d.names.Nodup) :
    d = d.names.filterMap fun name => (d.get? name).map fun value => (name, value) := by
  induction d with
  | nil => rfl
  | cons entry rest ih =>
    obtain ⟨name, value⟩ := entry
    obtain ⟨hname, hrest⟩ := List.nodup_cons.1 h
    -- the names behind the first are other names, so the first entry does not hide their values
    have hbehind : (names rest).filterMap (fun other =>
        (Document.get? ((name, value) :: rest) other).map fun v => (other, v)) = rest := by
      refine Eq.trans (List.filterMap_congr fun other hother => ?_) (ih hrest).symm
      have hne : other ≠ name := fun heq => hname (heq ▸ hother)
      rw [get?_cons, if_neg hne]
    have hfirst : Document.get? ((name, value) :: rest) name = some value := by
      rw [get?_cons, if_pos rfl]
    rw [names_cons, List.filterMap_cons, hfirst]
    exact congrArg ((name, value) :: ·) hbehind.symm

/-! ### Inserting pairs one after the other -/

theorem ofPairs_append_singleton (pairs : List (String × Value)) (pair : String × Value) :
    ofPairs (pairs ++ [pair]) = (ofPairs pairs).insert pair.1 pair.2 := by
  rw [ofPairs, List.foldl_append]
  rfl

theorem nodup_names_ofPairs (pairs : List (String × Value)) : (ofPairs pairs).names.Nodup := by
  induction pairs using List.reverseRecOn with
  | nil => exact List.nodup_nil
  | append_singleton pairs pair ih =>
    rw [ofPairs_append_singleton]
    exact nodup_names_insert ih pair.1 pair.2

/-- A name has the place of its first pair. -/
theorem names_ofPairs (pairs : List (String × Value)) :
    (ofPairs pairs).names = (pairs.map Prod.fst).eraseDups := by
  induction pairs using List.reverseRecOn with
  | nil => rfl
  | append_singleton pairs pair ih =>
    rw [ofPairs_append_singleton, names_insert, ih, List.map_append, List.eraseDups_append]
    simp only [List.mem_eraseDups, List.map_cons, List.map_nil, List.removeAll,
      List.filter_cons, List.filter_nil, List.elem_eq_mem]
    by_cases h : pair.1 ∈ pairs.map Prod.fst
    · simp [h]
    · simp [h, List.eraseDups_cons]

/-- A name has the value of its last pair. -/
theorem get?_ofPairs (pairs : List (String × Value)) (name : String) :
    (ofPairs pairs).get? name = pairs.reverse.lookup name := by
  induction pairs using List.reverseRecOn with
  | nil => rfl
  | append_singleton pairs pair ih =>
    rw [ofPairs_append_singleton, List.reverse_append, List.reverse_singleton,
      List.singleton_append, List.lookup_cons]
    by_cases h : name = pair.1
    · simp [h]
    · rw [get?_insert_of_ne _ _ h, ih, beq_eq_false_iff_ne.2 h]

/-- Each name has the place of its first pair and the value of its last one. -/
theorem ofPairs_eq (pairs : List (String × Value)) :
    ofPairs pairs = (pairs.map Prod.fst).eraseDups.filterMap fun name =>
      (pairs.reverse.lookup name).map fun value => (name, value) := by
  rw [eq_filterMap_names (nodup_names_ofPairs pairs), names_ofPairs]
  exact List.filterMap_congr fun name _ => by rw [get?_ofPairs]

end Document

end RecordStore
