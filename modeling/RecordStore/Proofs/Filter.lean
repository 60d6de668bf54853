import RecordStore.Collection
/-!
# How filters are evaluated

The evaluation of a filter fails only for what the filter says, an unknown operator or a
membership test without a list, and only on a document that meets all conditions before it.
A filter that some document matches has had every condition looked at, so it fails on no other
document either (`decides_of_test_true`). Every scan over a list is therefore one of two
things: the fault of the first document on which the evaluation fails, with nothing done, or
the plain list operation by `accepts`.

## Main definitions

* `Filter.accepts`: whether a document matches, where a fault counts as no.
* `Filter.firstFault?`: the fault that ends a scan over a list.

## Main results

* `Filter.select_eq`, `Collection.partition_eq`, `Update.applyAll_eq`: the scans by `accepts` and
  `firstFault?`.
* `Filter.first?_eq_some_iff`, `Filter.first?_eq_none_iff`, `Filter.first?_eq_error_iff`: the
  search for the first match.
-/

namespace RecordStore

namespace Filter

variable {filter d : Document}

/-- The evaluation of the filter does not fail on the document. -/
def Decides (filter d : Document) : Prop :=
  ∃ found, test d filter = .ok found

/-- Whether a document matches; one on which the evaluation fails does not. -/
def accepts (filter d : Document) : Bool :=
  match test d filter with
  | .ok found => found
  | .error _ => false

/-- Why the evaluation of the filter fails on the document, if it does. -/
def fault? (filter d : Document) : Option StorageError :=
  match test d filter with
  | .ok _ => none
  | .error e => some e

/-- The fault of the first document in a list on which the evaluation fails. -/
def firstFault? (filter : Document) (ds : List Document) : Option StorageError :=
  ds.findSome? (fault? filter)

/-! ### One document -/

theorem decides_iff_fault?_eq_none : Decides filter d ↔ fault? filter d = none := by
  unfold Decides fault?
  cases test d filter <;> simp

theorem fault?_eq_some_iff {e : StorageError} :
    fault? filter d = some e ↔ test d filter = .error e := by
  unfold fault?
  cases test d filter <;> simp

theorem accepts_iff : accepts filter d = true ↔ test d filter = .ok true := by
  unfold accepts
  cases test d filter <;> simp

/-- The empty filter matches everything. -/
@[simp] theorem accepts_nil : accepts [] d = true := rfl

@[simp] theorem decides_nil : Decides [] d := ⟨true, rfl⟩

/-- Whether an operator can be evaluated does not depend on the field. -/
theorem holds_ok_of_ok {field : Option Value} {operator : String} {operand : Value} {found : Bool}
    (h : holds field operator operand = .ok found) (other : Option Value) :
    ∃ b, holds other operator operand = .ok b := by
  unfold holds at h ⊢
  split at h
  · exact ⟨_, rfl⟩
  · exact ⟨_, rfl⟩
  · split at h
    · exact ⟨_, rfl⟩
    · cases h
  · cases h

theorem allHold_cons (field : Option Value) (operator : String) (operand : Value)
    (rest : Document) :
    allHold field ((operator, operand) :: rest) =
      match holds field operator operand with
      | .error e => .error e
      | .ok true => allHold field rest
      | .ok false => .ok false := by
  rw [allHold]
  cases holds field operator operand with
  | error e => rfl
  | ok found => cases found <;> rfl

/-- Operators that all hold of one field have all been evaluated, so they can be evaluated for
every field. -/
theorem allHold_ok_of_true {field : Option Value} {operators : Document}
    (h : allHold field operators = .ok true) (other : Option Value) :
    ∃ b, allHold other operators = .ok b := by
  induction operators with
  | nil => exact ⟨true, rfl⟩
  | cons entry rest ih =>
    obtain ⟨operator, operand⟩ := entry
    rw [allHold_cons] at h ⊢
    split at h
    · cases h
    · obtain ⟨found, hfound⟩ := holds_ok_of_ok ‹_› other
      rw [hfound]
      cases found with
      | false => exact ⟨false, rfl⟩
      | true => exact ih h
    · cases h

/-- A condition that one field meets can be evaluated for every field. -/
theorem meets_ok_of_true {field : Option Value} {condition : Value}
    (h : meets field condition = .ok true) (other : Option Value) :
    ∃ b, meets other condition = .ok b := by
  unfold meets at h ⊢
  split at h
  · split at h
    · rw [if_pos ‹_›]
      exact allHold_ok_of_true h other
    · rw [if_neg ‹_›]
      exact ⟨_, rfl⟩
  · exact ⟨_, rfl⟩

theorem test_cons (d : Document) (name : String) (condition : Value) (rest : Document) :
    test d ((name, condition) :: rest) =
      match meets (d.get? name) condition with
      | .error e => .error e
      | .ok true => test d rest
      | .ok false => .ok false := by
  rw [test]
  cases meets (d.get? name) condition with
  | error e => rfl
  | ok found => cases found <;> rfl

/-- A filter that one document matches fails on no document. -/
theorem decides_of_test_true (h : test d filter = .ok true) (other : Document) :
    Decides filter other := by
  unfold Decides
  induction filter with
  | nil => exact ⟨true, rfl⟩
  | cons entry rest ih =>
    obtain ⟨name, condition⟩ := entry
    rw [test_cons] at h ⊢
    split at h
    · cases h
    · -- the other document need not meet this condition, which then ends its test
      obtain ⟨found, hfound⟩ := meets_ok_of_true ‹_› (other.get? name)
      rw [hfound]
      cases found with
      | false => exact ⟨false, rfl⟩
      | true => exact ih h
    · cases h

theorem decides_of_accepts (h : accepts filter d = true) (other : Document) :
    Decides filter other :=
  decides_of_test_true (accepts_iff.1 h) other

/-- A filter that fails on one document matches none. -/
theorem accepts_eq_false_of_test_error {e : StorageError} (h : test d filter = .error e)
    (other : Document) : accepts filter other = false := by
  cases hother : accepts filter other with
  | false => rfl
  | true =>
    obtain ⟨found, hfound⟩ := decides_of_accepts hother d
    rw [h] at hfound
    cases hfound

/-! ### Lists of documents -/

theorem firstFault?_cons (filter d : Document) (ds : List Document) :
    firstFault? filter (d :: ds) = (fault? filter d).or (firstFault? filter ds) := by
  unfold firstFault?
  rw [List.findSome?_cons]
  cases fault? filter d <;> rfl

theorem firstFault?_eq_none_iff {ds : List Document} :
    firstFault? filter ds = none ↔ ∀ d ∈ ds, Decides filter d := by
  simp only [firstFault?, List.findSome?_eq_none_iff, decides_iff_fault?_eq_none]

/-- A scan that ends with a fault has matched no document before it, nor would it after. -/
theorem accepts_eq_false_of_firstFault? {ds : List Document} {e : StorageError}
    (h : firstFault? filter ds = some e) (other : Document) : accepts filter other = false := by
  obtain ⟨d, -, hd⟩ := List.exists_of_findSome?_eq_some h
  exact accepts_eq_false_of_test_error (fault?_eq_some_iff.1 hd) other

/-- A selection fails with the first fault, and is the list of all that match otherwise. -/
theorem select_eq (filter : Document) (ds : List Document) :
    select filter ds =
      match firstFault? filter ds with
      | some e => .error e
      | none => .ok (ds.filter (accepts filter)) := by
  induction ds with
  | nil => rfl
  | cons d rest ih =>
    rw [select, ih, firstFault?_cons]
    cases hd : test d filter with
    | error e => simp [fault?, hd, bind, Except.bind]
    | ok found =>
      have hfound : accepts filter d = found := by simp [accepts, hd]
      cases hrest : firstFault? filter rest with
      | some e => simp [fault?, hd, bind, Except.bind]
      | none =>
        cases found <;>
          simp [fault?, hd, hfound, bind, Except.bind, pure, Except.pure]

theorem select_eq_error_iff {ds : List Document} {e : StorageError} :
    select filter ds = .error e ↔ firstFault? filter ds = some e := by
  rw [select_eq]
  cases firstFault? filter ds <;> simp

theorem select_eq_ok_iff {ds selected : List Document} :
    select filter ds = .ok selected ↔
      firstFault? filter ds = none ∧ ds.filter (accepts filter) = selected := by
  rw [select_eq]
  cases firstFault? filter ds <;> simp

theorem first?_cons (filter d : Document) (rest : List Document) :
    first? filter (d :: rest) =
      match test d filter with
      | .error e => .error e
      | .ok true => .ok (some ⟨[], d, rest⟩)
      | .ok false => (first? filter rest).map
          (Option.map fun p => { p with before := d :: p.before }) := by
  rw [first?]
  cases test d filter with
  | error e => rfl
  | ok found =>
    cases found with
    | true => rfl
    | false => cases first? filter rest <;> rfl

/-- The search for the first match fails exactly where a scan of the whole list does. -/
theorem first?_eq_error_iff {ds : List Document} {e : StorageError} :
    first? filter ds = .error e ↔ firstFault? filter ds = some e := by
  induction ds with
  | nil => simp [first?, firstFault?]
  | cons d rest ih =>
    rw [first?_cons, firstFault?_cons]
    split
    · next hd => simp [fault?, hd]
    · next hd =>
      have hrest : firstFault? filter rest = none :=
        firstFault?_eq_none_iff.2 fun x _ => decides_of_test_true hd x
      simp [fault?, hd, hrest]
    · next hd =>
      rw [fault?, hd, Option.none_or, ← ih]
      cases first? filter rest <;> simp [Except.map]

/-- The search finds nothing if every document is refused. -/
theorem first?_eq_none_iff {ds : List Document} :
    first? filter ds = .ok none ↔ ∀ d ∈ ds, test d filter = .ok false := by
  induction ds with
  | nil => simp [first?]
  | cons d rest ih =>
    rw [first?_cons, List.forall_mem_cons, ← ih]
    split
    · next hd => simp [hd]
    · next hd => simp [hd]
    · next hd =>
      rw [hd]
      cases hrest : first? filter rest with
      | error e => simp [Except.map]
      | ok place => cases place <;> simp [Except.map]

/-- The search finds the first document that matches, with those around it. -/
theorem first?_eq_some_iff {ds : List Document} {p : Place} :
    first? filter ds = .ok (some p) ↔
      ds = p.before ++ p.document :: p.after ∧ accepts filter p.document = true ∧
        ∀ d ∈ p.before, accepts filter d = false := by
  induction ds generalizing p with
  | nil => simp [first?]
  | cons d rest ih =>
    rw [first?_cons]
    obtain ⟨before, document, after⟩ := p
    split
    · next hd =>
      -- a fault on the head excludes any match, so both sides are false
      have hnone := accepts_eq_false_of_test_error hd
      simp [hnone]
    · next hd =>
      have haccepts : accepts filter d = true := accepts_iff.2 hd
      constructor
      · intro h
        cases h
        exact ⟨rfl, haccepts, by simp⟩
      · rintro ⟨hsplit, -, hbefore⟩
        obtain ⟨rfl, hrest⟩ | ⟨others, rfl, -⟩ := List.cons_eq_append_iff.1 hsplit
        · cases hrest
          rfl
        · simp [hbefore d List.mem_cons_self] at haccepts
    · next hd =>
      -- the head is refused, so it stands before the place that is found behind it
      have hrefused : accepts filter d = false := by simp [accepts, hd]
      constructor
      · intro h
        cases hrest : first? filter rest with
        | error e => simp [hrest, Except.map] at h
        | ok place =>
          cases place with
          | none => simp [hrest, Except.map] at h
          | some q =>
            rw [hrest] at h
            cases h
            obtain ⟨hsplit, hdocument, hbefore⟩ := ih.1 hrest
            refine ⟨by rw [hsplit]; rfl, hdocument, ?_⟩
            exact List.forall_mem_cons.2 ⟨hrefused, hbefore⟩
      · rintro ⟨hsplit, hdocument, hbefore⟩
        obtain ⟨-, hrest⟩ | ⟨others, rfl, hrest⟩ := List.cons_eq_append_iff.1 hsplit
        · cases hrest
          simp [hrefused] at hdocument
        · have hfound := ih (p := ⟨others, document, after⟩).2
            ⟨hrest, hdocument, fun x hx => hbefore x (List.mem_cons_of_mem _ hx)⟩
          simp [hfound, Except.map]

end Filter

/-- The separation of a list fails with the first fault, and separates by `Filter.accepts`
otherwise. -/
theorem Collection.partition_eq (filter : Document) (ds : List Document) :
    partition filter ds =
      match Filter.firstFault? filter ds with
      | some e => .error e
      | none => .ok (ds.filter (Filter.accepts filter), ds.filter (!Filter.accepts filter ·)) := by
  induction ds with
  | nil => rfl
  | cons d rest ih =>
    rw [partition, ih, Filter.firstFault?_cons]
    cases hd : Filter.test d filter with
    | error e => simp [Filter.fault?, hd, bind, Except.bind]
    | ok found =>
      have hfound : Filter.accepts filter d = found := by simp [Filter.accepts, hd]
      cases hrest : Filter.firstFault? filter rest with
      | some e => simp [Filter.fault?, hd, bind, Except.bind]
      | none =>
        cases found <;>
          simp [Filter.fault?, hd, hfound, bind, Except.bind, pure, Except.pure]

namespace Update

/-- What the documents of a list become: those that match get the fields. -/
def updated (filter fields d : Document) : Document :=
  if Filter.accepts filter d then (apply fields d).1 else d

/-- How many documents of a list match, and how many of these change. -/
def countAll (filter fields : Document) (ds : List Document) : UpdateResult where
  matched := ds.countP (Filter.accepts filter)
  modified := ds.countP fun d => Filter.accepts filter d && (apply fields d).2

/-- An update of all that match leaves the list alone if it fails. -/
theorem applyAll_eq (filter fields : Document) (ds : List Document) :
    applyAll filter fields ds =
      match Filter.firstFault? filter ds with
      | some e => (.error e, ds)
      | none => (.ok (countAll filter fields ds), ds.map (updated filter fields)) := by
  induction ds with
  | nil => rfl
  | cons d rest ih =>
    rw [applyAll, ih, Filter.firstFault?_cons]
    cases hd : Filter.test d filter with
    | error e => simp [Filter.fault?, hd]
    | ok found =>
      have hfound : Filter.accepts filter d = found := by simp [Filter.accepts, hd]
      cases hrest : Filter.firstFault? filter rest with
      | some e =>
        -- the scan goes on to a fault, so this document cannot have been changed
        have hd' : found = false := hfound ▸ Filter.accepts_eq_false_of_firstFault? hrest d
        subst hd'
        simp [Filter.fault?, hd]
      | none =>
        cases found with
        | false => simp [Filter.fault?, hd, hfound, updated, countAll]
        | true =>
          simp [Filter.fault?, hd, hfound, updated, countAll, tally, Except.map,
            List.countP_cons]

end Update

end RecordStore
