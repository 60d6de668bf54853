import Mathlib.Data.List.Perm.Basic
import RecordStore.Order
/-!
# What sorting does

Sorting permutes the entries, and entries of which none precedes another keep their order,
whatever the test is. If the test orders the entries at all, `Precedence`, the result is sorted,
and its head is the first of those that nothing precedes. Only how the test answers on the
entries of the list matters (`stableSort_congr`). The result is the only list with these
properties (`stablySorted_iff`).

## Main definitions

* `Precedence`: a test that orders entries up to ties.
* `StablySorted`: a list that holds the entries of another in order, ties as they stood.

## Main results

* `stableSort_perm`, `stableSort_sorted`, `filter_stableSort`: permutation, order, stability.
* `head?_stableSort`: the first entry of the result.
* `stablySorted_iff`: the result is the one list that is stably sorted.
-/

namespace RecordStore

variable {α : Type} {less other : α → α → Bool}

/-- A test that orders entries up to ties. -/
structure Precedence (less : α → α → Bool) : Prop where
  /-- Of two entries at most one precedes the other. -/
  asymm : ∀ {a b}, less a b = true → less b a = false
  /-- An entry that does not precede a second, which does not precede a third, does not precede
  the third. -/
  trans : ∀ {a b c}, less a b = false → less b c = false → less a c = false

/-- Entries are ordered by a number, the greatest first. -/
theorem precedence_of_key (key : α → Int) : Precedence fun a b => decide (key b < key a) where
  asymm h := by
    simp only [decide_eq_true_eq, decide_eq_false_iff_not] at h ⊢
    omega
  trans h h' := by
    simp only [decide_eq_false_iff_not] at h h' ⊢
    omega

theorem insertLast_perm (less : α → α → Bool) (a : α) (l : List α) :
    (insertLast less a l).Perm (a :: l) := by
  induction l with
  | nil => exact List.Perm.refl _
  | cons b rest ih =>
    rw [insertLast]
    split
    · exact (ih.cons b).trans (List.Perm.swap a b rest)
    · exact List.Perm.refl _

theorem foldl_insertLast_perm (less : α → α → Bool) (l acc : List α) :
    (l.foldl (fun sorted a => insertLast less a sorted) acc).Perm (l ++ acc) := by
  induction l generalizing acc with
  | nil => exact List.Perm.refl _
  | cons a rest ih =>
    have hinsert := (insertLast_perm less a acc).append_left rest
    exact (ih _).trans (hinsert.trans List.perm_middle)

/-- Sorting permutes the entries. -/
theorem stableSort_perm (less : α → α → Bool) (l : List α) : (stableSort less l).Perm l := by
  have h := foldl_insertLast_perm less l []
  rw [List.append_nil] at h
  exact (List.reverse_perm _).trans h

theorem stableSort_pair (less : α → α → Bool) (a b : α) :
    stableSort less [a, b] = if less b a then [b, a] else [a, b] := by
  simp only [stableSort, List.foldl_cons, List.foldl_nil, insertLast]
  split <;> rfl

/-! ### Order -/

theorem insertLast_sorted (h : Precedence less) (a : α) {l : List α}
    (hl : l.Pairwise fun x y => less x y = false) :
    (insertLast less a l).Pairwise fun x y => less x y = false := by
  induction l with
  | nil => exact List.pairwise_singleton _ _
  | cons b rest ih =>
    obtain ⟨hb, hrest⟩ := List.pairwise_cons.1 hl
    rw [insertLast]
    split
    · next hab =>
      refine List.pairwise_cons.2 ⟨fun x hx => ?_, ih hrest⟩
      obtain rfl | hx := List.mem_cons.1 ((insertLast_perm less a rest).mem_iff.1 hx)
      · exact h.asymm hab
      · exact hb x hx
    · next hab =>
      have hab := Bool.eq_false_iff.2 hab
      refine List.pairwise_cons.2 ⟨fun x hx => ?_, hl⟩
      obtain rfl | hx := List.mem_cons.1 hx
      · exact hab
      · exact h.trans hab (hb x hx)

theorem foldl_insertLast_sorted (h : Precedence less) (l : List α) {acc : List α}
    (hacc : acc.Pairwise fun x y => less x y = false) :
    (l.foldl (fun sorted a => insertLast less a sorted) acc).Pairwise
      fun x y => less x y = false := by
  induction l generalizing acc with
  | nil => exact hacc
  | cons a rest ih => exact ih (insertLast_sorted h a hacc)

/-- In the result no entry precedes one before it. -/
theorem stableSort_sorted (h : Precedence less) (l : List α) :
    (stableSort less l).Pairwise fun x y => less y x = false :=
  List.pairwise_reverse.2 (foldl_insertLast_sorted h l List.Pairwise.nil)

/-! ### Stability -/

theorem filter_insertLast {p : α → Bool} {l : List α} (a : α)
    (hp : ∀ b ∈ l, p a = true → p b = true → less a b = false) :
    (insertLast less a l).filter p = [a].filter p ++ l.filter p := by
  induction l with
  | nil => simp [insertLast]
  | cons b rest ih =>
    obtain ⟨hb, hrest⟩ := List.forall_mem_cons.1 hp
    rw [insertLast]
    split
    · next hab =>
      rw [List.filter_cons, ih hrest, List.filter_cons (x := b)]
      -- `a` passes `b`, so not both of them are kept by the filter
      by_cases hpa : p a = true
      · have hpb : ¬ p b = true := fun hpb => by simp [hb hpa hpb] at hab
        rw [if_neg hpb, if_neg hpb]
      · simp [hpa]
    · by_cases hpa : p a = true <;> simp [List.filter_cons, hpa]

/-- An entry that is still to be inserted or was inserted is one of those there were. -/
theorem mem_of_mem_append_insertLast {a b : α} {rest acc : List α}
    (h : b ∈ rest ++ insertLast less a acc) : b ∈ a :: rest ++ acc := by
  rw [List.mem_append, (insertLast_perm less a acc).mem_iff, List.mem_cons] at h
  rw [List.cons_append, List.mem_cons, List.mem_append]
  tauto

/-- Inserting keeps the order of entries of which none precedes another. The entries inserted
last stand at the head. -/
theorem filter_foldl_insertLast {p : α → Bool} (l : List α) {acc : List α}
    (hp : ∀ a ∈ l, ∀ b ∈ l ++ acc, p a = true → p b = true → less a b = false) :
    (l.foldl (fun sorted a => insertLast less a sorted) acc).filter p =
      (l.filter p).reverse ++ acc.filter p := by
  induction l generalizing acc with
  | nil => rfl
  | cons a rest ih =>
    have hacc : ∀ b ∈ acc, p a = true → p b = true → less a b = false :=
      fun b hb => hp a List.mem_cons_self b (List.mem_append_right _ hb)
    have hrest : ∀ x ∈ rest, ∀ b ∈ rest ++ insertLast less a acc,
        p x = true → p b = true → less x b = false :=
      fun x hx b hb => hp x (List.mem_cons_of_mem _ hx) b (mem_of_mem_append_insertLast hb)
    rw [List.foldl_cons, ih hrest, filter_insertLast a hacc, List.filter_cons]
    split <;> simp [*]

/-- Entries of which none precedes another keep their order. -/
theorem filter_stableSort {p : α → Bool} {l : List α}
    (hp : ∀ a ∈ l, ∀ b ∈ l, p a = true → p b = true → less a b = false) :
    (stableSort less l).filter p = l.filter p := by
  rw [stableSort, List.filter_reverse, filter_foldl_insertLast l (by simpa using hp),
    List.filter_nil, List.append_nil, List.reverse_reverse]

/-! ### The first entry -/

/-- The first entry of the result is the first of those that no entry precedes. -/
theorem head?_stableSort (h : Precedence less) (l : List α) :
    (stableSort less l).head? = l.find? fun a => l.all fun b => !less b a := by
  have hfilter : (stableSort less l).filter (fun a => l.all fun b => !less b a) =
      l.filter fun a => l.all fun b => !less b a := by
    refine filter_stableSort fun a ha b _ _ hb => ?_
    simpa using List.all_eq_true.1 hb a ha
  -- the head of the result passes the filter, and filtering the list finds it first
  rw [← List.head?_filter, ← hfilter]
  have hperm := stableSort_perm less l
  have hsorted := stableSort_sorted h l
  generalize stableSort less l = sorted at hperm hsorted ⊢
  cases sorted with
  | nil => rfl
  | cons a rest =>
    have hself : less a a = false := by
      cases haa : less a a with
      | false => rfl
      | true => exact haa ▸ h.asymm haa
    have hfirst : (l.all fun b => !less b a) = true := by
      refine List.all_eq_true.2 fun b hb => ?_
      obtain rfl | hb := List.mem_cons.1 (hperm.mem_iff.2 hb)
      · rw [hself]
        rfl
      · rw [(List.pairwise_cons.1 hsorted).1 b hb]
        rfl
    rw [List.filter_cons, if_pos hfirst]
    rfl

/-! ### Tests that agree -/

theorem insertLast_congr {a : α} {l : List α} (h : ∀ b ∈ l, less a b = other a b) :
    insertLast less a l = insertLast other a l := by
  induction l with
  | nil => rfl
  | cons b rest ih =>
    obtain ⟨hb, hrest⟩ := List.forall_mem_cons.1 h
    rw [insertLast, insertLast, hb, ih hrest]

theorem foldl_insertLast_congr (l : List α) {acc : List α}
    (h : ∀ a ∈ l, ∀ b ∈ l ++ acc, less a b = other a b) :
    l.foldl (fun sorted a => insertLast less a sorted) acc =
      l.foldl (fun sorted a => insertLast other a sorted) acc := by
  induction l generalizing acc with
  | nil => rfl
  | cons a rest ih =>
    have hacc : insertLast less a acc = insertLast other a acc :=
      insertLast_congr fun b hb => h a List.mem_cons_self b (List.mem_append_right _ hb)
    rw [List.foldl_cons, List.foldl_cons, ← hacc]
    exact ih fun x hx b hb => h x (List.mem_cons_of_mem _ hx) b (mem_of_mem_append_insertLast hb)

/-- Only the answers of the test on the entries matter. -/
theorem stableSort_congr {l : List α} (h : ∀ a ∈ l, ∀ b ∈ l, less a b = other a b) :
    stableSort less l = stableSort other l := by
  rw [stableSort, stableSort, foldl_insertLast_congr l (by simpa using h)]

/-! ### The only result -/

/-- Of two entries none precedes the other. -/
def tied (less : α → α → Bool) (a b : α) : Bool :=
  !less a b && !less b a

/-- A list holds the entries of another, none before one that it precedes, and those that are
tied as they stood. -/
structure StablySorted (less : α → α → Bool) (entries sorted : List α) : Prop where
  perm : sorted.Perm entries
  ordered : sorted.Pairwise fun a b => less b a = false
  stable : ∀ a, sorted.filter (tied less a) = entries.filter (tied less a)

theorem tied_eq_true_iff {a b : α} :
    tied less a b = true ↔ less a b = false ∧ less b a = false := by
  simp [tied]

theorem Precedence.irrefl (h : Precedence less) (a : α) : less a a = false := by
  cases haa : less a a with
  | false => rfl
  | true => exact haa ▸ h.asymm haa

theorem Precedence.tied_self (h : Precedence less) (a : α) : tied less a a = true :=
  tied_eq_true_iff.2 ⟨h.irrefl a, h.irrefl a⟩

/-- An order with three outcomes tests for the first of them. -/
theorem precedence_of_transCmp (cmp : α → α → Ordering) [Std.TransCmp cmp] :
    Precedence fun a b => cmp a b == .lt where
  asymm {a b} h := by
    have hswap : cmp b a = (cmp a b).swap := Std.OrientedCmp.eq_swap
    rw [beq_iff_eq] at h
    rw [hswap, h]
    rfl
  trans {a b c} h h' := by
    rw [beq_eq_false_iff_ne, ne_eq, Ordering.ne_lt_iff_isGE, Std.OrientedCmp.isGE_iff_isLE]
      at h h' ⊢
    exact Std.TransCmp.isLE_trans h' h

theorem stablySorted_stableSort (h : Precedence less) (l : List α) :
    StablySorted less l (stableSort less l) where
  perm := stableSort_perm less l
  ordered := stableSort_sorted h l
  stable a := by
    refine filter_stableSort fun b _ c _ hb hc => ?_
    exact h.trans (tied_eq_true_iff.1 hb).2 (tied_eq_true_iff.1 hc).1

/-- Lists in order are equal if every entry has the same ties in them. -/
theorem eq_of_filter_tied (h : Precedence less) {l m : List α}
    (hl : l.Pairwise fun a b => less b a = false) (hm : m.Pairwise fun a b => less b a = false)
    (hlm : ∀ a, l.filter (tied less a) = m.filter (tied less a)) : l = m := by
  induction l generalizing m with
  | nil =>
    cases m with
    | nil => rfl
    | cons b m =>
      have hb := hlm b
      rw [List.filter_cons_of_pos (h.tied_self b)] at hb
      cases hb
  | cons a l ih =>
    have ha := hlm a
    rw [List.filter_cons_of_pos (h.tied_self a)] at ha
    cases m with
    | nil => cases ha
    | cons b m =>
      -- each of the two heads stands behind the other head or is equal to it
      have hmem : a ∈ b :: m := (List.mem_filter.1 (ha ▸ List.mem_cons_self)).1
      have hmem' : b ∈ a :: l := by
        have hb := hlm b
        rw [List.filter_cons_of_pos (h.tied_self b)] at hb
        exact (List.mem_filter.1 (hb ▸ List.mem_cons_self)).1
      have hab : less a b = false := by
        obtain rfl | hmem := List.mem_cons.1 hmem
        · exact h.irrefl a
        · exact (List.pairwise_cons.1 hm).1 a hmem
      have hba : less b a = false := by
        obtain rfl | hmem' := List.mem_cons.1 hmem'
        · exact h.irrefl b
        · exact (List.pairwise_cons.1 hl).1 b hmem'
      rw [List.filter_cons_of_pos (tied_eq_true_iff.2 ⟨hab, hba⟩)] at ha
      obtain rfl := (List.cons.inj ha).1
      refine congrArg (a :: ·) (ih hl.of_cons hm.of_cons fun c => ?_)
      have hc := hlm c
      rw [List.filter_cons, List.filter_cons] at hc
      split at hc
      · exact (List.cons.inj hc).2
      · exact hc

/-- Sorting yields the one list that is stably sorted. -/
theorem stablySorted_iff (h : Precedence less) {l sorted : List α} :
    StablySorted less l sorted ↔ sorted = stableSort less l := by
  constructor
  · intro hsorted
    have hsort := stablySorted_stableSort h l
    exact eq_of_filter_tied h hsorted.ordered hsort.ordered fun a =>
      (hsorted.stable a).trans (hsort.stable a).symm
  · rintro rfl
    exact stablySorted_stableSort h l

end RecordStore
