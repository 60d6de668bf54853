import RecordStore.Proofs.Columns
/-!
# Columns of several kinds

Comparing documents by keys always gives opposite results for opposite arguments, whatever their
values are. It need not be transitive: where a field has values of several kinds, a value of one
kind counts as equal to two values of another that differ. Documents are torn by a key if the key
sees this, no earlier key tells any of them apart, and the later keys do not put the odd one
beyond either of the two that differ. This is the only way in which transitivity fails.

## Main definitions

* `SortKey.Splits`: a key that compares two documents and has no say about a third.
* `SortKey.Torn`: three documents on which comparing by keys is not transitive.

## Main results

* `compareValues_swap`, `compareValues_lt_trans`: what holds for values of all kinds.
* `SortKey.transitive_iff_not_torn`: when comparing documents meets the contract of a sort.
-/

namespace RecordStore

/-! ### Values of all kinds -/

namespace Value

theorem kind?_of_number? {v : Value} {d : Double} (h : v.number? = some d)
    (hd : d.isNaN = false) : v.kind? = some .number := by
  cases v with
  | int32 i => rfl
  | int64 i => rfl
  | double x =>
    cases h
    exact if_neg (by simp [hd])
  | _ => cases h

/-- Values that are told apart are of one kind. -/
theorem kind?_eq_of_compareValues_ne {v w : Value}
    (h : compareValues (some v) (some w) ≠ .eq) : v.kind? = w.kind? := by
  rw [compareValues] at h
  split at h
  · next x y hx hy =>
    by_cases hnumbers : x.isNaN = false ∧ y.isNaN = false
    · rw [kind?_of_number? hx hnumbers.1, kind?_of_number? hy hnumbers.2]
    · refine absurd ?_ h
      rw [Double.compare?, if_pos, Option.getD_none]
      simpa [Classical.or_iff_not_imp_left] using hnumbers
  · unfold compareKinds at h
    split at h
    · rfl
    · rfl
    · rfl
    · exact absurd rfl h

/-- Values of one kind compare on its scale, and any other values are equal. -/
theorem compareValues_some (v w : Value) :
    compareValues (some v) (some w) =
      if v.kind? = w.kind? then scale (some v) (some w) else .eq := by
  split
  · next h => exact compareValues_of_kind h rfl
  · next h => exact by_contra fun hne => h (kind?_eq_of_compareValues_ne hne)

end Value

theorem compareValues_swap (v w : Option Value) :
    compareValues v w = (compareValues w v).swap := by
  cases v with
  | none => cases w <;> rfl
  | some v =>
    cases w with
    | none => rfl
    | some w =>
      rw [Value.compareValues_some, Value.compareValues_some]
      by_cases h : v.kind? = w.kind?
      · rw [if_pos h, if_pos h.symm, Value.scale_swap]
      · rw [if_neg h, if_neg (Ne.symm h)]
        rfl

/-- A smaller value is one of the same kind, or it is missing. -/
theorem compareValues_lt_trans {u v w : Option Value} (h : compareValues u v = .lt)
    (h' : compareValues v w = .lt) : compareValues u w = .lt := by
  cases w with
  | none => cases v <;> cases h'
  | some w =>
    cases u with
    | none => rfl
    | some u =>
      cases v with
      | none => cases h
      | some v =>
        have hkind : u.kind? = v.kind? := Value.kind?_eq_of_compareValues_ne (by rw [h]; nofun)
        have hkind' : v.kind? = w.kind? := Value.kind?_eq_of_compareValues_ne (by rw [h']; nofun)
        rw [Value.compareValues_of_kind hkind rfl] at h
        rw [Value.compareValues_of_kind hkind' rfl] at h'
        rw [Value.compareValues_of_kind (hkind.trans hkind') rfl]
        exact Std.TransCmp.lt_trans h h'

/-- Of two values that differ, a third one is equal to both only if it is of another kind. -/
theorem compareValues_eq_eq_iff {u v w : Option Value} (h : compareValues u v ≠ .eq) :
    compareValues u w = .eq ∧ compareValues w v = .eq ↔
      ∃ a b c, u = some a ∧ v = some b ∧ w = some c ∧ b.kind? = a.kind? ∧ c.kind? ≠ a.kind? := by
  constructor
  · rintro ⟨huw, hwv⟩
    cases w with
    | none =>
      cases u with
      | none => exact absurd hwv h
      | some a => cases huw
    | some c =>
      cases u with
      | none => cases huw
      | some a =>
        cases v with
        | none => cases hwv
        | some b =>
          have hkind := Value.kind?_eq_of_compareValues_ne h
          refine ⟨a, b, c, rfl, rfl, rfl, hkind.symm, fun hc => h ?_⟩
          -- on one scale, what is equal to both makes them equal
          rw [Value.compareValues_of_kind rfl hc] at huw
          rw [Value.compareValues_of_kind hc hkind.symm] at hwv
          rw [Value.compareValues_of_kind hkind rfl]
          exact Std.TransCmp.eq_trans huw hwv
  · rintro ⟨a, b, c, rfl, rfl, rfl, hb, hc⟩
    rw [Value.compareValues_some, if_neg (Ne.symm hc), Value.compareValues_some,
      if_neg (hb ▸ hc)]
    exact ⟨rfl, rfl⟩

/-! ### Documents -/

namespace SortKey

variable {k : SortKey} {keys : List SortKey} {a b c x y z : Document}

theorem compare_eq (k : SortKey) (a b : Document) :
    k.compare a b =
      if k.descending then compareValues (b.get? k.field) (a.get? k.field)
      else compareValues (a.get? k.field) (b.get? k.field) := by
  rw [compare, ← compareValues_swap]

theorem compare_swap (k : SortKey) (a b : Document) : k.compare a b = (k.compare b a).swap := by
  rw [compare_eq, compare_eq]
  split
  · exact compareValues_swap _ _
  · exact compareValues_swap _ _

theorem compare_lt_trans (h : k.compare a b = .lt) (h' : k.compare b c = .lt) :
    k.compare a c = .lt := by
  rw [compare_eq] at h h' ⊢
  split at h
  · next hdescending =>
    rw [if_pos hdescending] at h' ⊢
    exact compareValues_lt_trans h' h
  · next hascending =>
    rw [if_neg hascending] at h' ⊢
    exact compareValues_lt_trans h h'

/-- A key that sees no difference sees none in either direction. -/
theorem compare_eq_eq_iff :
    k.compare a b = .eq ↔ compareValues (a.get? k.field) (b.get? k.field) = .eq := by
  rw [compare]
  split
  · exact Ordering.swap_eq_eq
  · exact Iff.rfl

theorem compare_eq_comm : k.compare a b = .eq ↔ k.compare b a = .eq := by
  rw [compare_swap, Ordering.swap_eq_eq]

theorem compareAll_swap (keys : List SortKey) (a b : Document) :
    compareAll keys a b = (compareAll keys b a).swap := by
  induction keys with
  | nil => rfl
  | cons k rest ih =>
    rw [compareAll, compareAll, Ordering.swap_then, ← compare_swap, ← ih]

/-- A key compares two documents by values of one kind, and a third has a value of another. -/
def Splits (k : SortKey) (x y z : Document) : Prop :=
  k.compare x y = .lt ∧ ∃ u v w, x.get? k.field = some u ∧ y.get? k.field = some v ∧
    z.get? k.field = some w ∧ v.kind? = u.kind? ∧ w.kind? ≠ u.kind?

theorem splits_iff :
    k.Splits x y z ↔ k.compare x y = .lt ∧ k.compare x z = .eq ∧ k.compare z y = .eq := by
  refine and_congr_right fun hxy => ?_
  have hne : compareValues (x.get? k.field) (y.get? k.field) ≠ .eq := fun heq => by
    rw [compare_eq_eq_iff.2 heq] at hxy
    cases hxy
  rw [compare_eq_eq_iff, compare_eq_eq_iff]
  exact (compareValues_eq_eq_iff hne).symm

/-- What one key does where all keys together are not transitive: it tells no two documents apart,
or it splits them in one of three ways. -/
theorem cases_of_compare (hab : k.compare a b ≠ .gt) (hbc : k.compare b c ≠ .gt)
    (hac : k.compare a c ≠ .lt) :
    (k.compare a b = .eq ∧ k.compare b c = .eq ∧ k.compare a c = .eq) ∨
      k.Splits c a b ∨ k.Splits a b c ∨ k.Splits b c a := by
  have hgt : ∀ {x y}, k.compare x y = .lt → k.compare y x = .gt := fun h => by
    rw [compare_swap, h]
    rfl
  simp only [splits_iff]
  cases hkac : k.compare a c with
  | lt => exact absurd hkac hac
  | gt =>
    -- `c` comes before `a`, and what stands on one side of `b` stands there with the other
    have hkca : k.compare c a = .lt := by
      rw [compare_swap, hkac]
      rfl
    have hkab : k.compare a b = .eq := by
      cases hkab : k.compare a b with
      | lt => exact absurd (hgt (compare_lt_trans hkca hkab)) hbc
      | eq => rfl
      | gt => exact absurd hkab hab
    have hkbc : k.compare b c = .eq := by
      cases hkbc : k.compare b c with
      | lt => exact absurd (hgt (compare_lt_trans hkbc hkca)) hab
      | eq => rfl
      | gt => exact absurd hkbc hbc
    exact .inr (.inl ⟨hkca, compare_eq_comm.1 hkbc, compare_eq_comm.1 hkab⟩)
  | eq =>
    cases hkab : k.compare a b with
    | gt => exact absurd hkab hab
    | lt =>
      cases hkbc : k.compare b c with
      | lt => exact absurd (compare_lt_trans hkab hkbc) hac
      | eq => exact .inr (.inr (.inl ⟨rfl, rfl, compare_eq_comm.1 hkbc⟩))
      | gt => exact absurd hkbc hbc
    | eq =>
      cases hkbc : k.compare b c with
      | lt => exact .inr (.inr (.inr ⟨rfl, compare_eq_comm.1 hkab, rfl⟩))
      | eq => exact .inl ⟨rfl, rfl, rfl⟩
      | gt => exact absurd hkbc hbc

/-- Documents `x` and `y` that differ and an odd one `z` on which comparing is not transitive. -/
inductive Torn : List SortKey → Document → Document → Document → Prop
  /-- The first key splits them, and the others put `z` neither behind `x` nor before `y`. -/
  | here {k : SortKey} {rest : List SortKey} {x y z : Document} (hsplit : k.Splits x y z)
      (hbehind : compareAll rest x z ≠ .lt) (hbefore : compareAll rest z y ≠ .lt) :
      Torn (k :: rest) x y z
  /-- The first key tells none of them apart, and the others tear them. -/
  | later {k : SortKey} {rest : List SortKey} {x y z : Document} (hxy : k.compare x y = .eq)
      (hxz : k.compare x z = .eq) (hzy : k.compare z y = .eq) (h : Torn rest x y z) :
      Torn (k :: rest) x y z

theorem compareAll_cons_of_eq (h : k.compare a b = .eq) :
    compareAll (k :: keys) a b = compareAll keys a b := by
  rw [compareAll, h, Ordering.eq_then]

theorem compare_ne_gt_of_compareAll (h : compareAll (k :: keys) a b ≠ .gt) :
    k.compare a b ≠ .gt := fun hk => h (by rw [compareAll, hk, Ordering.gt_then])

theorem compare_ne_lt_of_compareAll (h : compareAll (k :: keys) a b = .gt) :
    k.compare a b ≠ .lt := fun hk => by
  rw [compareAll, hk] at h
  cases h

theorem compareAll_ne_gt_iff : compareAll keys a b ≠ .gt ↔ compareAll keys b a ≠ .lt := by
  rw [compareAll_swap keys a b]
  cases compareAll keys b a <;> simp

theorem Torn.intransitive (h : Torn keys x y z) :
    compareAll keys x y = .lt ∧ compareAll keys z x ≠ .gt ∧ compareAll keys y z ≠ .gt := by
  rw [compareAll_ne_gt_iff, compareAll_ne_gt_iff]
  induction h with
  | here hsplit hbehind hbefore =>
    obtain ⟨hxy, hxz, hzy⟩ := splits_iff.1 hsplit
    rw [compareAll, compareAll, compareAll, hxy, hxz, hzy]
    exact ⟨rfl, hbehind, hbefore⟩
  | later hxy hxz hzy _ ih =>
    rw [compareAll, compareAll, compareAll, hxy, hxz, hzy]
    exact ih

/-- Wherever comparing is not transitive, the documents are torn. -/
theorem exists_torn (hab : compareAll keys a b ≠ .gt) (hbc : compareAll keys b c ≠ .gt)
    (hac : compareAll keys a c = .gt) : Torn keys c a b ∨ Torn keys a b c ∨ Torn keys b c a := by
  induction keys with
  | nil => cases hac
  | cons k rest ih =>
    obtain ⟨hkab, hkbc, hkac⟩ | hsplit | hsplit | hsplit := cases_of_compare
      (compare_ne_gt_of_compareAll hab) (compare_ne_gt_of_compareAll hbc)
      (compare_ne_lt_of_compareAll hac)
    · rw [compareAll_cons_of_eq hkab] at hab
      rw [compareAll_cons_of_eq hkbc] at hbc
      rw [compareAll_cons_of_eq hkac] at hac
      obtain h | h | h := ih hab hbc hac
      · exact .inl (.later (compare_eq_comm.1 hkac) (compare_eq_comm.1 hkbc)
          (compare_eq_comm.1 hkab) h)
      · exact .inr (.inl (.later hkab hkac (compare_eq_comm.1 hkbc) h))
      · exact .inr (.inr (.later hkbc (compare_eq_comm.1 hkab) hkac h))
    -- the key splits the documents, so it leaves the other two comparisons to the later keys
    · obtain ⟨-, hkcb, hkba⟩ := splits_iff.1 hsplit
      rw [compareAll_cons_of_eq (compare_eq_comm.1 hkba)] at hab
      rw [compareAll_cons_of_eq (compare_eq_comm.1 hkcb)] at hbc
      exact .inl (.here hsplit (compareAll_ne_gt_iff.1 hbc) (compareAll_ne_gt_iff.1 hab))
    · obtain ⟨-, hkac, hkcb⟩ := splits_iff.1 hsplit
      rw [compareAll_cons_of_eq hkac] at hac
      rw [compareAll_cons_of_eq (compare_eq_comm.1 hkcb)] at hbc
      exact .inr (.inl (.here hsplit (by rw [hac]; nofun) (compareAll_ne_gt_iff.1 hbc)))
    · obtain ⟨-, hkba, hkac⟩ := splits_iff.1 hsplit
      rw [compareAll_cons_of_eq (compare_eq_comm.1 hkba)] at hab
      rw [compareAll_cons_of_eq hkac] at hac
      exact .inr (.inr (.here hsplit (compareAll_ne_gt_iff.1 hab) (by rw [hac]; nofun)))

/-- **The contract of a sort.** Comparing documents by keys, in either order, gives opposite
results. Among some documents it is transitive if and only if no three of them are torn. -/
theorem transitive_iff_not_torn (keys : List SortKey) (ds : List Document) :
    (∀ a b, compareAll keys a b = (compareAll keys b a).swap) ∧
      ((∀ a ∈ ds, ∀ b ∈ ds, ∀ c ∈ ds, compareAll keys a b ≠ .gt → compareAll keys b c ≠ .gt →
          compareAll keys a c ≠ .gt) ↔
        ∀ x ∈ ds, ∀ y ∈ ds, ∀ z ∈ ds, ¬ Torn keys x y z) := by
  refine ⟨compareAll_swap keys, fun htrans x hx y hy z hz htorn => ?_,
    fun hwhole a ha b hb c hc hab hbc hac => ?_⟩
  · obtain ⟨hxy, hzx, hyz⟩ := htorn.intransitive
    exact compareAll_ne_gt_iff.1 (htrans y hy z hz x hx hyz hzx) hxy
  · obtain h | h | h := exists_torn hab hbc hac
    · exact hwhole c hc a ha b hb h
    · exact hwhole a ha b hb c hc h
    · exact hwhole b hb c hc a ha h

/-- A text is equal to two numbers of which the first is the greater one. -/
theorem not_transitive_of_text :
    ofDocument [("x", .int32 1)] = .ok [⟨"x", false⟩] ∧
      ¬ (compareAll [⟨"x", false⟩] [("x", .int32 1)] [("x", .string "s")] ≠ .gt →
        compareAll [⟨"x", false⟩] [("x", .string "s")] [("x", .int32 0)] ≠ .gt →
          compareAll [⟨"x", false⟩] [("x", .int32 1)] [("x", .int32 0)] ≠ .gt) := by
  decide +kernel

end SortKey

end RecordStore
