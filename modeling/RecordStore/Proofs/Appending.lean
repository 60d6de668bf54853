import RecordStore.Proofs.Uniqueness
/-!
# Insertions of several documents

An insertion of several documents appends them in order up to the first whose identity is there,
be it that of a stored document or of one that the same insertion has appended before. Documents
without an identity are always appended.

## Main definitions

* `Collection.Appends`: how many documents of a list are appended.

## Main results

* `Collection.insertMany_in_order`: what an insertion of several documents leaves, and how it fails.
-/

namespace RecordStore

namespace Collection

open RecordStore.Action

variable {c : Collection} {d : Document} {ds : List Document} {k : Nat}

/-- The error for a document whose identity has a given value. -/
def clash (c : Collection) (v : Value) : StorageError :=
  .duplicateKey (c.name ++ "." ++ c.idField ++ " = " ++ v.text)

/-- A document is refused for its identity, which a stored one has. -/
theorem checkNew_eq_error_iff {e : StorageError} :
    c.checkNew d = .error e ↔
      ∃ v, d.get? c.idField = some v ∧ (∃ f ∈ c.documents, f.has c.idField v = true) ∧
        e = c.clash v := by
  unfold checkNew clash
  cases d.get? c.idField with
  | none => simp
  | some v =>
    simp only [Option.some.injEq, exists_eq_left']
    split
    · next hany =>
      have hstored := List.any_eq_true.1 hany
      rw [Except.error.injEq, eq_comm]
      exact (and_iff_right hstored).symm
    · next hany =>
      refine iff_of_false (by simp) fun h => hany ?_
      exact List.any_eq_true.2 h.1

/-- The first `k` documents of a list are new in their turn and the one behind them is not. -/
structure Appends (c : Collection) (ds : List Document) (k : Nat) : Prop where
  /-- There are as many. -/
  le_length : k ≤ ds.length
  /-- Each of them has an identity of its own, or none. -/
  apart : ∀ i (hi : i < ds.length), i < k → c.Apart ds[i] (c.documents ++ ds.take i)
  /-- The next one has the identity of a document before it. -/
  clashes : ∀ hk : k < ds.length, ∃ v, ds[k].get? c.idField = some v ∧
    ∃ f ∈ c.documents ++ ds.take k, f.has c.idField v = true

namespace Appends

theorem nil (c : Collection) : c.Appends [] 0 where
  le_length := Nat.le_refl 0
  apart _ hi := absurd hi (Nat.not_lt_zero _)
  clashes hk := absurd hk (Nat.not_lt_zero _)

/-- A document that is new is appended, and those behind it are tested against it too. -/
theorem cons (hd : c.checkNew d = .ok ())
    (h : (c.withDocuments (c.documents ++ [d])).Appends ds k) : c.Appends (d :: ds) (k + 1) where
  le_length := Nat.succ_le_succ h.le_length
  apart i hi hik := by
    cases i with
    | zero =>
      rw [List.take_zero, List.append_nil]
      exact checkNew_eq_ok_iff.1 hd
    | succ i =>
      have hrest := h.apart i (Nat.lt_of_succ_lt_succ hi) (Nat.lt_of_succ_lt_succ hik)
      rw [documents_withDocuments, List.append_assoc, List.singleton_append] at hrest
      exact hrest
  clashes hk := by
    have hrest := h.clashes (Nat.lt_of_succ_lt_succ hk)
    rw [documents_withDocuments, List.append_assoc, List.singleton_append] at hrest
    exact hrest

/-- A document that is refused is the first that is not appended. -/
theorem halt {v : Value} (hv : d.get? c.idField = some v)
    (hstored : ∃ f ∈ c.documents, f.has c.idField v = true) : c.Appends (d :: ds) 0 where
  le_length := Nat.zero_le _
  apart _ _ hi := absurd hi (Nat.not_lt_zero _)
  clashes _ := by
    rw [List.take_zero, List.append_nil]
    exact ⟨v, hv, hstored⟩

end Appends

/-- An insertion stops behind the documents that are new in their turn. -/
theorem exists_appends (c : Collection) (ds : List Document) :
    ∃ k answer, c.Appends ds k ∧
      (insertMany ds).outcome c = (answer, c.withDocuments (c.documents ++ ds.take k)) ∧
      (answer = .ok () ∧ k = ds.length ∨
        ∃ (hk : k < ds.length) (v : Value), ds[k].get? c.idField = some v ∧
          answer = .error (c.clash v)) := by
  induction ds generalizing c with
  | nil =>
    refine ⟨0, .ok (), .nil c, ?_, .inl ⟨rfl, rfl⟩⟩
    rw [outcome_insertMany_nil, List.take_nil, List.append_nil, withDocuments_self]
  | cons d rest ih =>
    rw [outcome_insertMany_cons]
    cases hd : c.checkNew d with
    | error e =>
      obtain ⟨v, hv, hstored, rfl⟩ := checkNew_eq_error_iff.1 hd
      refine ⟨0, .error (c.clash v), .halt hv hstored, ?_, .inr ⟨Nat.succ_pos _, v, hv, rfl⟩⟩
      rw [List.take_zero, List.append_nil, withDocuments_self]
    | ok _ =>
      obtain ⟨k, answer, hk, houtcome, hanswer⟩ := ih (c.withDocuments (c.documents ++ [d]))
      refine ⟨k + 1, answer, .cons hd hk, ?_, ?_⟩
      · simp only [houtcome, documents_withDocuments, withDocuments_withDocuments,
          List.take_succ_cons, List.append_assoc, List.singleton_append]
      · obtain ⟨hok, hlength⟩ | ⟨hlt, v, hv, herror⟩ := hanswer
        · exact .inl ⟨hok, congrArg Nat.succ hlength⟩
        · exact .inr ⟨Nat.succ_lt_succ hlt, v, hv, herror⟩

/-- **Insertions of several documents.** The documents of a list are appended in order, up to one
of them. Each of these has no identity, or one that no document before it has, stored or in the
list. The insertion succeeds if and only if they are all. Otherwise the next document has the
identity of a stored one or of one that was appended, and the error shows this identity. -/
theorem insertMany_in_order (c : Collection) (ds : List Document) :
    ∃ k ≤ ds.length,
      ((insertMany ds).outcome c).2 = c.withDocuments (c.documents ++ ds.take k) ∧
      (((insertMany ds).outcome c).1 = .ok () ↔ k = ds.length) ∧
      (∀ i (hi : i < ds.length), i < k → c.Apart ds[i] (c.documents ++ ds.take i)) ∧
      ∀ e, ((insertMany ds).outcome c).1 = .error e →
        ∃ (hk : k < ds.length) (v : Value), ds[k].get? c.idField = some v ∧
          (∃ f ∈ c.documents ++ ds.take k, f.has c.idField v = true) ∧
          e = .duplicateKey (c.name ++ "." ++ c.idField ++ " = " ++ v.text) := by
  obtain ⟨k, answer, hk, houtcome, hanswer⟩ := exists_appends c ds
  rw [houtcome]
  refine ⟨k, hk.le_length, rfl, ?_, hk.apart, ?_⟩
  · obtain ⟨rfl, hlength⟩ | ⟨hlt, v, -, rfl⟩ := hanswer
    · exact iff_of_true rfl hlength
    · exact iff_of_false (by simp) (Nat.ne_of_lt hlt)
  · rintro e rfl
    obtain ⟨herror, -⟩ | ⟨hlt, v, hv, herror⟩ := hanswer
    · cases herror
    · cases herror
      obtain ⟨w, hw, hstored⟩ := hk.clashes hlt
      rw [hv] at hw
      cases hw
      exact ⟨hlt, v, hv, hstored, rfl⟩

/-- A document without an identity goes in, and the one whose identity came before does not. -/
example :
    ((insertMany [[("id", .string "1")], [], [("id", .string "1")], [("id", .string "2")]]).outcome
      ⟨{}, "c", "id"⟩).2.documents = [[("id", .string "1")], []] := rfl

end Collection

end RecordStore
