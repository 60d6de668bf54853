import Mathlib.Data.List.Nodup
/-!
# Maps in the order of insertion

An `OrderedMap` is a list of entries with distinct keys. A key that is put again keeps its
place, a new one comes last.

## Main definitions

* `OrderedMap`, `OrderedMap.get?`, `OrderedMap.put`: the map, its values and a change of one.
* `OrderedMap.adjust`, `OrderedMap.retain`: a change of all values, and of the set of keys.

## Main results

* `OrderedMap.get?_eq_some_iff`: a key is found in one place of the list.
* `OrderedMap.adjust_of_split`, `OrderedMap.retain_of_split`: changes in that place.
-/

namespace RecordStore

/-- Entries with distinct keys, in the order in which the keys were added. -/
structure OrderedMap (κ α : Type) where
  /-- The keys with their values. -/
  entries : List (κ × α)
  /-- No key occurs twice. -/
  distinct : (entries.map Prod.fst).Nodup

namespace OrderedMap

variable {κ α : Type} [DecidableEq κ]

/-- The map without entries. -/
def empty : OrderedMap κ α := ⟨[], List.nodup_nil⟩

/-- The value of a key. -/
def get? (m : OrderedMap κ α) (k : κ) : Option α :=
  m.entries.lookup k

/-- The values in order. -/
def values (m : OrderedMap κ α) : List α :=
  m.entries.map Prod.snd

/-- Whether a key has a value. -/
def has (m : OrderedMap κ α) (k : κ) : Bool :=
  (m.get? k).isSome

/-- Changes every value, with a view of its key. -/
def adjust (m : OrderedMap κ α) (f : κ → α → α) : OrderedMap κ α where
  entries := m.entries.map fun e => (e.1, f e.1 e.2)
  distinct := by simpa [List.map_map, Function.comp_def] using m.distinct

/-- Keeps the entries whose keys satisfy a condition. -/
def retain (m : OrderedMap κ α) (p : κ → Bool) : OrderedMap κ α where
  entries := m.entries.filter fun e => p e.1
  distinct := m.distinct.sublist (List.filter_sublist.map Prod.fst)

theorem get?_eq_none_iff {m : OrderedMap κ α} {k : κ} :
    m.get? k = none ↔ ∀ e ∈ m.entries, e.1 ≠ k := by
  unfold get?
  rw [List.lookup_eq_none_iff]
  simp only [bne_iff_ne]
  exact forall₂_congr fun e _ => ne_comm

theorem nodup_append_of_get?_eq_none {m : OrderedMap κ α} {k : κ} (a : α)
    (h : m.get? k = none) : ((m.entries ++ [(k, a)]).map Prod.fst).Nodup := by
  rw [List.map_append, List.nodup_append]
  refine ⟨m.distinct, List.nodup_singleton _, fun x hx y hy => ?_⟩
  obtain ⟨e, he, rfl⟩ := List.mem_map.1 hx
  rw [List.map_singleton, List.mem_singleton] at hy
  exact hy ▸ get?_eq_none_iff.1 h e he

/-- Gives a key a value: in its place if the key is there, at the end otherwise. -/
def put (m : OrderedMap κ α) (k : κ) (a : α) : OrderedMap κ α :=
  if h : m.get? k = none then ⟨m.entries ++ [(k, a)], nodup_append_of_get?_eq_none a h⟩
  else m.adjust fun other old => if other = k then a else old

theorem entries_put_of_none {m : OrderedMap κ α} {k : κ} (a : α) (h : m.get? k = none) :
    (m.put k a).entries = m.entries ++ [(k, a)] := by
  rw [put, dif_pos h]

theorem put_of_some {m : OrderedMap κ α} {k : κ} {old : α} (a : α) (h : m.get? k = some old) :
    m.put k a = m.adjust fun other old => if other = k then a else old := by
  rw [put, dif_neg (by simp [h])]

/-- A key is found in one place of the list and nowhere else. -/
theorem get?_eq_some_iff {m : OrderedMap κ α} {k : κ} {a : α} :
    m.get? k = some a ↔ ∃ before after, m.entries = before ++ (k, a) :: after ∧
      (∀ e ∈ before, e.1 ≠ k) ∧ ∀ e ∈ after, e.1 ≠ k := by
  unfold get?
  rw [List.lookup_eq_some_iff]
  refine exists₂_congr fun before after => and_congr_right fun hsplit => ?_
  have hdistinct := m.distinct
  rw [hsplit, List.map_append, List.map_cons, List.nodup_append, List.nodup_cons] at hdistinct
  -- that the key does not come again behind its place is the only use of distinctness
  obtain ⟨-, ⟨hafter, -⟩, -⟩ := hdistinct
  constructor
  · intro hbefore
    refine ⟨fun e he => Ne.symm (by simpa using hbefore e he), ?_⟩
    rintro e he rfl
    exact hafter (List.mem_map.2 ⟨e, he, rfl⟩)
  · rintro ⟨hbefore, -⟩ e he
    simpa using Ne.symm (hbefore e he)

theorem mem_of_get?_eq_some {m : OrderedMap κ α} {k : κ} {a : α} (h : m.get? k = some a) :
    (k, a) ∈ m.entries := by
  obtain ⟨before, after, hsplit, -⟩ := get?_eq_some_iff.1 h
  rw [hsplit]
  exact List.mem_append_right _ List.mem_cons_self

section Split

variable {m : OrderedMap κ α} {k : κ} {a : α} {before after : List (κ × α)}

/-- A change of the value of one key takes place where the key is. -/
theorem adjust_of_split (hsplit : m.entries = before ++ (k, a) :: after)
    (hbefore : ∀ e ∈ before, e.1 ≠ k) (hafter : ∀ e ∈ after, e.1 ≠ k) (f : α → α) :
    (m.adjust fun other old => if other = k then f old else old).entries =
      before ++ (k, f a) :: after := by
  have hkeep : ∀ es : List (κ × α), (∀ e ∈ es, e.1 ≠ k) →
      (es.map fun e => (e.1, if e.1 = k then f e.2 else e.2)) = es := by
    intro es hes
    refine (List.map_congr_left fun e he => ?_).trans es.map_id
    rw [if_neg (hes e he)]
    rfl
  simp only [adjust, hsplit, List.map_append, List.map_cons, if_true, hkeep before hbefore,
    hkeep after hafter]

/-- The removal of one key takes place where the key is. -/
theorem retain_of_split (hsplit : m.entries = before ++ (k, a) :: after)
    (hbefore : ∀ e ∈ before, e.1 ≠ k) (hafter : ∀ e ∈ after, e.1 ≠ k) :
    (m.retain fun other => other ≠ k).entries = before ++ after := by
  have hkeep : ∀ es : List (κ × α), (∀ e ∈ es, e.1 ≠ k) →
      (es.filter fun e => decide (e.1 ≠ k)) = es := by
    intro es hes
    exact List.filter_eq_self.2 fun e he => decide_eq_true (hes e he)
  simp only [retain, hsplit, List.filter_append, hkeep before hbefore]
  rw [List.filter_cons_of_neg (by simp), hkeep after hafter]

end Split

theorem retain_of_none {m : OrderedMap κ α} {k : κ} (h : m.get? k = none) :
    (m.retain fun other => other ≠ k) = m := by
  obtain ⟨entries, distinct⟩ := m
  simp only [retain, mk.injEq]
  exact List.filter_eq_self.2 fun e he => decide_eq_true (get?_eq_none_iff.1 h e he)

theorem get?_put_self (m : OrderedMap κ α) (k : κ) (a : α) : (m.put k a).get? k = some a := by
  cases hk : m.get? k with
  | none =>
    have hkeys := get?_eq_none_iff.1 hk
    exact get?_eq_some_iff.2
      ⟨m.entries, [], entries_put_of_none a hk, hkeys, fun e he => absurd he List.not_mem_nil⟩
  | some old =>
    obtain ⟨before, after, hsplit, hbefore, hafter⟩ := get?_eq_some_iff.1 hk
    rw [put_of_some a hk]
    exact get?_eq_some_iff.2
      ⟨before, after, adjust_of_split hsplit hbefore hafter fun _ => a, hbefore, hafter⟩

end OrderedMap

end RecordStore
