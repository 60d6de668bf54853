import RecordStore.Proofs.Pairs
/-!
# Setting several fields at once

Setting fields one after the other is overwriting all of them at once: a field that the document
has with an equal value is left out, the others replace a value in its place or are added at the
end.

## Main definitions

* `Document.overwrite`: a document with other values for some of its fields, and with further ones.
* `Update.unmet`: the fields of an update that a document does not have with an equal value.

## Main results

* `Update.apply_eq`: setting fields one after the other.
-/

namespace RecordStore

namespace Document

variable {d news : Document} {name : String} {value : Value}

/-- The document with the given fields, which take the places of those with their names or
follow in order. -/
def overwrite (d news : Document) : Document :=
  d.map (fun p => (p.1, (news.get? p.1).getD p.2)) ++ news.filter fun p => p.1 ∉ d.names

@[simp] theorem overwrite_nil (d : Document) : d.overwrite [] = d := by
  simp [overwrite, get?]

theorem insert_of_notMem (h : name ∉ d.names) : d.insert name value = d ++ [(name, value)] := by
  induction d with
  | nil => rfl
  | cons entry rest ih =>
    obtain ⟨other, old⟩ := entry
    rw [names_cons, List.mem_cons, not_or] at h
    rw [Document.insert, if_neg (Ne.symm h.1), ih h.2, List.cons_append]

theorem insert_of_mem (hd : d.names.Nodup) (h : name ∈ d.names) :
    d.insert name value = d.map fun p => if p.1 = name then (name, value) else p := by
  induction d with
  | nil => cases h
  | cons entry rest ih =>
    obtain ⟨other, old⟩ := entry
    obtain ⟨hother, hrest⟩ := List.nodup_cons.1 hd
    rw [Document.insert, List.map_cons]
    by_cases hname : other = name
    · -- the name does not occur behind its first place
      have hsame : rest.map (fun p => if p.1 = name then (name, value) else p) = rest := by
        refine (List.map_congr_left fun p hp => if_neg fun heq => ?_).trans (List.map_id rest)
        have hmem : p.1 ∈ names rest := List.mem_map_of_mem hp
        exact hother (hname ▸ heq ▸ hmem)
      rw [if_pos hname, if_pos hname, hsame]
    · have hmem : name ∈ names rest := (List.mem_cons.1 h).resolve_left (Ne.symm hname)
      rw [if_neg hname, if_neg hname, ih hrest hmem]

/-- A field that is inserted first is overwritten with the others. -/
theorem overwrite_insert (hd : d.names.Nodup) (hnew : name ∉ news.names) :
    (d.insert name value).overwrite news = d.overwrite ((name, value) :: news) := by
  have hnone : news.get? name = none := get?_eq_none_iff.2 hnew
  have hnames := names_insert d name value
  rw [overwrite, overwrite, hnames]
  by_cases h : name ∈ d.names
  · rw [if_pos h, insert_of_mem hd h, List.map_map, List.filter_cons_of_neg (by simpa using h)]
    congr 1
    refine List.map_congr_left fun p _ => ?_
    by_cases hp : p.1 = name
    · simp [hp, hnone, get?_cons]
    · simp [hp, get?_cons]
  · have hold : ∀ p ∈ d, ¬ p.1 = name := fun p hp heq => h (heq ▸ List.mem_map_of_mem hp)
    have hrest : news.filter (fun p => p.1 ∉ d.names ++ [name]) =
        news.filter fun p => p.1 ∉ d.names := by
      refine List.filter_congr fun p hp => ?_
      have hne : p.1 ≠ name := fun heq => hnew (heq ▸ List.mem_map_of_mem hp)
      simp [hne]
    rw [if_neg h, insert_of_notMem h, List.map_append, hrest,
      List.filter_cons_of_pos (by simpa using h), List.append_assoc]
    congr 1
    · refine List.map_congr_left fun p hp => ?_
      rw [get?_cons, if_neg (hold p hp)]
    · simp [hnone]

end Document

namespace Update

variable {fields d : Document}

/-- The fields to set that a document does not have with an equal value. -/
def unmet (fields d : Document) : Document :=
  fields.filter fun p => !d.has p.1 p.2

theorem unmet_insert {name : String} (value : Value) (h : name ∉ fields.names) (d : Document) :
    unmet fields (d.insert name value) = unmet fields d := by
  refine List.filter_congr fun p hp => ?_
  have hne : p.1 ≠ name := fun heq => h (heq ▸ List.mem_map_of_mem hp)
  rw [Document.has_insert_of_ne d value p.2 hne]

theorem changes_eq_ok_iff {update : Document} :
    changes update = .ok fields ↔ update = [("$set", .document fields)] := by
  constructor
  · intro h
    unfold changes at h
    split at h
    · cases h
      rfl
    · cases h
  · rintro rfl
    rfl

theorem nodup_names_apply (hd : d.names.Nodup) : (apply fields d).1.names.Nodup := by
  induction fields generalizing d with
  | nil => exact hd
  | cons entry rest ih =>
    rw [apply_cons_fst]
    split
    · exact ih hd
    · exact ih (Document.nodup_names_insert hd entry.1 entry.2)

/-- Setting fields one after the other overwrites those that the document does not have with an
equal value; the document counts as changed if there are any. -/
theorem apply_eq (hfields : fields.names.Nodup) (hd : d.names.Nodup) :
    apply fields d = (d.overwrite (unmet fields d), !(unmet fields d).isEmpty) := by
  induction fields generalizing d with
  | nil => rw [unmet, List.filter_nil, Document.overwrite_nil]; rfl
  | cons entry rest ih =>
    obtain ⟨name, value⟩ := entry
    obtain ⟨hname, hrest⟩ := List.nodup_cons.1 hfields
    rw [apply]
    by_cases hhas : d.has name value = true
    · have hunmet : unmet ((name, value) :: rest) d = unmet rest d :=
        List.filter_cons_of_neg (by simp [hhas])
      rw [if_pos hhas, ih hrest hd, hunmet]
    · have hunmet : unmet ((name, value) :: rest) d = (name, value) :: unmet rest d :=
        List.filter_cons_of_pos (by simp [hhas])
      have hnew : name ∉ (unmet rest d).names := fun hmem =>
        hname ((List.filter_sublist.map Prod.fst).subset hmem)
      rw [if_neg hhas, ih hrest (Document.nodup_names_insert hd name value),
        unmet_insert value hname, Document.overwrite_insert hd hnew, hunmet]
      rfl

end Update

end RecordStore
