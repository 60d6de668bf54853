import Mathlib.Data.List.Forall2
/-!
# Steps that may fail

What is known when a sequence of steps succeeds, and when a step is taken for every element of
a list.

## Main results

* `Except.exists_of_bind`, `Except.error_or_exists_of_bind`: the parts of a sequence that succeeds,
  and of one that fails.
* `Except.mapM_eq_map_of_forall`, `Except.forall_mem_of_mapM`: a step for every element.
* `Except.mapM_eq_ok_iff`, `Except.mapM_eq_error_iff`, `Except.forM_eq_ok`: when all of them
  succeed, and why they do not.
-/

namespace RecordStore

namespace Except

variable {α β γ ε : Type}

theorem not_exists_ok {x : Except ε α} {e : ε} (h : x = .error e) : ¬ ∃ a, x = .ok a := by
  rintro ⟨a, ha⟩
  cases h.symm.trans ha

/-- If a sequence succeeds, so do its parts. -/
theorem exists_of_bind {x : Except ε α} {f : α → Except ε β} {b : β} (h : x >>= f = .ok b) :
    ∃ a, x = .ok a ∧ f a = .ok b := by
  cases x with
  | error e => cases h
  | ok a => exact ⟨a, rfl, h⟩

/-- If a sequence fails, the first part does, or the second part with what the first yields. -/
theorem error_or_exists_of_bind {x : Except ε α} {f : α → Except ε β} {e : ε}
    (h : x >>= f = .error e) : x = .error e ∨ ∃ a, x = .ok a ∧ f a = .error e := by
  cases x with
  | error e' =>
    cases h
    exact .inl rfl
  | ok a => exact .inr ⟨a, rfl, h⟩

/-- Reading the elements of a list one after the other and changing what was read. -/
theorem mapM_eq_map_of_forall {f : α → Except ε γ} {g : α → Except ε β} {h : β → γ}
    {as : List α} (hfg : ∀ a ∈ as, f a = (g a).map h) :
    as.mapM f = (as.mapM g).map (List.map h) := by
  induction as with
  | nil => rfl
  | cons a rest ih =>
    obtain ⟨ha, hrest⟩ := List.forall_mem_cons.1 hfg
    rw [List.mapM_cons, List.mapM_cons, ha, ih hrest]
    cases g a with
    | error e => rfl
    | ok b => cases rest.mapM g <;> rfl

/-- What every element is read as has a property if all that can be read has it. -/
theorem forall_mem_of_mapM {f : α → Except ε β} {P : β → Prop} (hf : ∀ a b, f a = .ok b → P b)
    {as : List α} {bs : List β} (h : as.mapM f = .ok bs) : ∀ b ∈ bs, P b := by
  induction as generalizing bs with
  | nil =>
    cases h
    exact fun b hb => absurd hb List.not_mem_nil
  | cons a rest ih =>
    rw [List.mapM_cons] at h
    obtain ⟨b, hb, h⟩ := exists_of_bind h
    obtain ⟨others, hothers, h⟩ := exists_of_bind h
    cases h
    exact List.forall_mem_cons.2 ⟨hf a b hb, ih hothers⟩

/-- Steps for every element succeed together if each of them succeeds. -/
theorem mapM_eq_ok_iff {f : α → Except ε β} {as : List α} {bs : List β} :
    as.mapM f = .ok bs ↔ List.Forall₂ (fun a b => f a = .ok b) as bs := by
  induction as generalizing bs with
  | nil =>
    rw [List.mapM_nil, List.forall₂_nil_left_iff]
    exact ⟨fun h => (Except.ok.inj h).symm, fun h => congrArg Except.ok h.symm⟩
  | cons a rest ih =>
    rw [List.mapM_cons, List.forall₂_cons_left_iff]
    constructor
    · intro h
      obtain ⟨b, hb, h⟩ := exists_of_bind h
      obtain ⟨others, hothers, h⟩ := exists_of_bind h
      exact ⟨b, others, hb, ih.1 hothers, (Except.ok.inj h).symm⟩
    · rintro ⟨b, others, hb, hothers, rfl⟩
      rw [hb, ih.2 hothers]
      rfl

theorem exists_ok_of_mem {f : α → Except ε β} {as : List α} {bs : List β}
    (h : as.mapM f = .ok bs) : ∀ a ∈ as, ∃ b, f a = .ok b := by
  have hall := mapM_eq_ok_iff.1 h
  clear h
  induction hall with
  | nil => exact fun a ha => absurd ha List.not_mem_nil
  | cons hb _ ih => exact List.forall_mem_cons.2 ⟨⟨_, hb⟩, ih⟩

/-- They fail with the error of the first that fails. -/
theorem mapM_eq_error_iff {f : α → Except ε β} {as : List α} {e : ε} :
    as.mapM f = .error e ↔ ∃ before a after, as = before ++ a :: after ∧
      (∀ b ∈ before, ∃ x, f b = .ok x) ∧ f a = .error e := by
  induction as with
  | nil =>
    refine iff_of_false (fun h => by cases h) ?_
    rintro ⟨before, a, after, h, -⟩
    exact absurd h.symm (by simp)
  | cons a rest ih =>
    rw [List.mapM_cons]
    constructor
    · intro h
      obtain ha | ⟨b, hb, h⟩ := error_or_exists_of_bind h
      · exact ⟨[], a, rest, rfl, by simp, ha⟩
      · obtain hrest | ⟨others, -, h⟩ := error_or_exists_of_bind h
        · obtain ⟨before, x, after, rfl, hbefore, hx⟩ := ih.1 hrest
          exact ⟨a :: before, x, after, rfl, List.forall_mem_cons.2 ⟨⟨b, hb⟩, hbefore⟩, hx⟩
        · cases h
    · rintro ⟨before, x, after, hsplit, hbefore, hx⟩
      obtain ⟨rfl, hcons⟩ | ⟨others, rfl, hrest⟩ := List.cons_eq_append_iff.1 hsplit
      · cases hcons
        rw [hx]
        rfl
      · obtain ⟨⟨b, hb⟩, hothers⟩ := List.forall_mem_cons.1 hbefore
        rw [hb, ih.2 ⟨others, x, after, hrest, hothers, hx⟩]
        rfl

theorem exists_of_mapM_eq_error {f : α → Except ε β} {as : List α} {e : ε}
    (h : as.mapM f = .error e) : ∃ a ∈ as, f a = .error e := by
  obtain ⟨before, a, after, rfl, -, ha⟩ := mapM_eq_error_iff.1 h
  exact ⟨a, List.mem_append_right before List.mem_cons_self, ha⟩

theorem forM_eq_ok {f : α → Except ε Unit} {as : List α} (h : ∀ a ∈ as, f a = .ok ()) :
    as.forM f = .ok () := by
  induction as with
  | nil => rfl
  | cons a rest ih =>
    obtain ⟨ha, hrest⟩ := List.forall_mem_cons.1 h
    change (f a >>= fun _ => rest.forM f) = _
    rw [ha]
    exact ih hrest

end Except

end RecordStore
