import RecordStore.Order
import RecordStore.Proofs.Rounding
import RecordStore.Proofs.Sorting
/-!
# Columns of one kind

The order of values has no place for values of different kinds: they count as equal, and a NaN
counts as equal to every number. Where the values of a field are of one kind, it is the order on
a scale: numbers by the doubles they are, strings by their letters, truth values and points of
time by their size, with a missing value below all. Values without an order are all in one place
on it. Every list of keys orders documents lexicographically by these scales, each turned round if
its key descends, and such an order sorts.

## Main definitions

* `Kind`, `Value.kind?`, `Document.Uniform`, `Document.Comparable`: what the values of a field are.
* `Value.rank`, `Value.letters`, `Value.scale`: the scale.
* `SortKey.scale`, `SortKey.lexicographic`: documents ordered by keys.

## Main results

* `Value.compareValues_of_kind`, `SortKey.compareAll_eq_lexicographic`: the order of values and of
  documents in columns of one kind.
* `sortDocuments_eq_of_comparable`: sorting documents is sorting by the scales.
-/

namespace RecordStore

/-! ### Kinds and scales -/

/-- The kinds of values that have an order. -/
inductive Kind
  | number
  | text
  | truth
  | time
deriving DecidableEq

namespace Value

/-- The kind of a value, if it has an order. A NaN has none. -/
def kind? : Value → Option Kind
  | .int32 _ => some .number
  | .int64 _ => some .number
  | .double d => if d.isNaN then none else some .number
  | .string _ => some .text
  | .boolean _ => some .truth
  | .dateTime _ => some .time
  | _ => none

/-- The place of a value among those of its kind, if they are no strings. -/
def rank : Value → Int
  | .int32 i => (Double.ofInt i.toInt).units
  | .int64 i => (Double.ofInt i.toInt).units
  | .double d => if d.isNaN then 0 else d.units
  | .boolean b => b.toInt
  | .dateTime millis => millis.toInt
  | _ => 0

/-- The letters of a string. -/
def letters : Value → String
  | .string s => s
  | _ => ""

/-- The order of two values of one kind, either of which may be missing. -/
def scale : Option Value → Option Value → Ordering :=
  compareLex (compareOn (Option.map rank)) (compareOn (Option.map letters))

instance : Std.TransCmp scale :=
  inferInstanceAs (Std.TransCmp (compareLex (compareOn _) (compareOn _)))

theorem scale_swap (v w : Option Value) : scale v w = (scale w v).swap :=
  Std.OrientedCmp.eq_swap

theorem isLE_scale_trans {u v w : Option Value} (h : (scale u v).isLE = true)
    (h' : (scale v w).isLE = true) : (scale u w).isLE = true :=
  Std.TransCmp.isLE_trans h h'

theorem scale_some (v w : Value) :
    scale (some v) (some w) = (compare v.rank w.rank).then (compare v.letters w.letters) := rfl

theorem scale_of_rank {v w : Value} (h : v.letters = w.letters) :
    scale (some v) (some w) = compare v.rank w.rank := by
  rw [scale_some, h, Std.ReflOrd.compare_self, Ordering.then_eq]

theorem kind?_eq_number {v : Value} (h : v.kind? = some .number) :
    ∃ d, v.number? = some d ∧ d.isNaN = false ∧ v.rank = d.units ∧ v.letters = "" := by
  cases v with
  | int32 i => exact ⟨_, rfl, Double.isNaN_ofInt _, rfl, rfl⟩
  | int64 i => exact ⟨_, rfl, Double.isNaN_ofInt _, rfl, rfl⟩
  | double d =>
    cases hd : d.isNaN with
    | false => exact ⟨d, rfl, hd, by simp [rank, hd], rfl⟩
    | true => simp [kind?, hd] at h
  | _ => cases h

theorem kind?_eq_text {v : Value} (h : v.kind? = some .text) : ∃ s, v = .string s := by
  cases v with
  | string s => exact ⟨s, rfl⟩
  | double d => cases hd : d.isNaN <;> simp [kind?, hd] at h
  | _ => cases h

theorem kind?_eq_truth {v : Value} (h : v.kind? = some .truth) : ∃ b, v = .boolean b := by
  cases v with
  | boolean b => exact ⟨b, rfl⟩
  | double d => cases hd : d.isNaN <;> simp [kind?, hd] at h
  | _ => cases h

theorem kind?_eq_time {v : Value} (h : v.kind? = some .time) : ∃ t, v = .dateTime t := by
  cases v with
  | dateTime t => exact ⟨t, rfl⟩
  | double d => cases hd : d.isNaN <;> simp [kind?, hd] at h
  | _ => cases h

theorem kind?_eq_none {v : Value} (h : v.kind? = none) :
    (∀ d, v.number? = some d → d.isNaN = true) ∧ (∀ w, compareKinds v w = .eq) ∧ v.rank = 0 ∧
      v.letters = "" := by
  cases v with
  | double d =>
    have hd : d.isNaN = true := by
      by_contra hd
      simp [kind?, hd] at h
    refine ⟨?_, fun w => rfl, by simp [rank, hd], rfl⟩
    rintro x ⟨⟩
    exact hd
  | int32 i => cases h
  | int64 i => cases h
  | string s => cases h
  | boolean b => cases h
  | dateTime t => cases h
  | _ => exact ⟨nofun, fun _ => rfl, rfl, rfl⟩

/-- Values of one kind compare as on its scale, and values without an order as equal. -/
theorem compareValues_of_kind {v w : Value} {k : Option Kind} (hv : v.kind? = k)
    (hw : w.kind? = k) : compareValues (some v) (some w) = scale (some v) (some w) := by
  cases k with
  | none =>
    obtain ⟨hnumber, hkinds, hrank, hletters⟩ := kind?_eq_none hv
    obtain ⟨-, -, hwrank, hwletters⟩ := kind?_eq_none hw
    rw [scale_of_rank (hletters.trans hwletters.symm), hrank, hwrank, compareValues]
    cases hx : v.number? with
    | none => exact hkinds w
    | some x =>
      cases w.number? with
      | none => exact hkinds w
      | some y => simp [Double.compare?, hnumber x hx]
  | some k =>
    cases k with
    | number =>
      obtain ⟨x, hx, hxnumber, hxrank, hxletters⟩ := kind?_eq_number hv
      obtain ⟨y, hy, hynumber, hyrank, hyletters⟩ := kind?_eq_number hw
      rw [scale_of_rank (hxletters.trans hyletters.symm), hxrank, hyrank]
      simp [compareValues, hx, hy, Double.compare?, hxnumber, hynumber]
    | text =>
      obtain ⟨s, rfl⟩ := kind?_eq_text hv
      obtain ⟨t, rfl⟩ := kind?_eq_text hw
      rfl
    | truth =>
      obtain ⟨a, rfl⟩ := kind?_eq_truth hv
      obtain ⟨b, rfl⟩ := kind?_eq_truth hw
      cases a <;> cases b <;> rfl
    | time =>
      obtain ⟨t, rfl⟩ := kind?_eq_time hv
      obtain ⟨u, rfl⟩ := kind?_eq_time hw
      exact (scale_of_rank (v := .dateTime t) (w := .dateTime u) rfl).symm

end Value

namespace Document

/-- The values that documents have in a field are of one kind. A document may have none. -/
def Uniform (field : String) (ds : List Document) : Prop :=
  ∃ k : Kind, ∀ d ∈ ds, ∀ v, d.get? field = some v → v.kind? = some k

/-- The values that documents have in a field are of one kind, or none of them has an order. A
document may have none. -/
def Comparable (field : String) (ds : List Document) : Prop :=
  ∃ k : Option Kind, ∀ d ∈ ds, ∀ v, d.get? field = some v → v.kind? = k

variable {field : String} {ds : List Document}

theorem Uniform.comparable (h : Uniform field ds) : Comparable field ds :=
  let ⟨k, hk⟩ := h
  ⟨some k, hk⟩

/-- In a comparable column, missing values included, the order is that of the scale. -/
theorem Comparable.compareValues_eq_scale (h : Comparable field ds) {a b : Document} (ha : a ∈ ds)
    (hb : b ∈ ds) :
    compareValues (a.get? field) (b.get? field) = Value.scale (a.get? field) (b.get? field) := by
  obtain ⟨k, hk⟩ := h
  cases hv : a.get? field with
  | none => cases b.get? field <;> rfl
  | some v =>
    cases hw : b.get? field with
    | none => rfl
    | some w => exact Value.compareValues_of_kind (hk a ha v hv) (hk b hb w hw)

end Document

/-! ### Documents ordered by keys -/

namespace SortKey

/-- The order of two documents by the scale of one key. -/
def scale (k : SortKey) (a b : Document) : Ordering :=
  if k.descending then Value.scale (b.get? k.field) (a.get? k.field)
  else Value.scale (a.get? k.field) (b.get? k.field)

/-- The lexicographic order by the scales of all keys, the first key before the others. -/
def lexicographic : List SortKey → Document → Document → Ordering
  | [] => fun _ _ => .eq
  | k :: rest => compareLex k.scale (lexicographic rest)

/-- A key that sees no difference sees none in either direction. -/
theorem scale_eq_eq_iff {k : SortKey} {a b : Document} :
    k.scale a b = .eq ↔ Value.scale (a.get? k.field) (b.get? k.field) = .eq := by
  unfold scale
  split
  · exact Std.OrientedCmp.eq_comm
  · exact Iff.rfl

instance transCmp_scale (k : SortKey) : Std.TransCmp k.scale := by
  have hfield : Std.TransCmp fun a b : Document =>
      Value.scale (a.get? k.field) (b.get? k.field) :=
    { eq_swap := Value.scale_swap _ _
      isLE_trans := Value.isLE_scale_trans }
  unfold scale
  cases k.descending with
  | false => exact hfield
  | true => exact hfield.opposite

instance transCmp_lexicographic (keys : List SortKey) : Std.TransCmp (lexicographic keys) := by
  induction keys with
  | nil => exact { eq_swap := rfl, isLE_trans := fun _ _ => rfl }
  | cons k rest ih => exact inferInstanceAs (Std.TransCmp (compareLex k.scale (lexicographic rest)))

theorem lexicographic_swap (keys : List SortKey) (a b : Document) :
    lexicographic keys a b = (lexicographic keys b a).swap :=
  Std.OrientedCmp.eq_swap

theorem lexicographic_cons (k : SortKey) (rest : List SortKey) (a b : Document) :
    lexicographic (k :: rest) a b = (k.scale a b).then (lexicographic rest a b) := rfl

theorem lexicographic_append (keys others : List SortKey) (a b : Document) :
    lexicographic (keys ++ others) a b =
      (lexicographic keys a b).then (lexicographic others a b) := by
  induction keys with
  | nil => rfl
  | cons k rest ih =>
    rw [List.cons_append, lexicographic_cons, ih, lexicographic_cons, Ordering.then_assoc]

theorem lexicographic_eq_eq_iff {keys : List SortKey} {a b : Document} :
    lexicographic keys a b = .eq ↔ ∀ k ∈ keys, k.scale a b = .eq := by
  induction keys with
  | nil => simp [lexicographic]
  | cons k rest ih => rw [lexicographic_cons, Ordering.then_eq_eq, ih, List.forall_mem_cons]

theorem compare_eq_scale {k : SortKey} {ds : List Document} (h : Document.Comparable k.field ds)
    {a b : Document} (ha : a ∈ ds) (hb : b ∈ ds) : k.compare a b = k.scale a b := by
  rw [compare, scale, h.compareValues_eq_scale ha hb]
  split
  · exact Std.OrientedCmp.eq_swap.symm
  · rfl

theorem compareAll_eq_lexicographic {keys : List SortKey} {ds : List Document}
    (h : ∀ k ∈ keys, Document.Comparable k.field ds) {a b : Document} (ha : a ∈ ds) (hb : b ∈ ds) :
    compareAll keys a b = lexicographic keys a b := by
  induction keys with
  | nil => rfl
  | cons k rest ih =>
    obtain ⟨hk, hrest⟩ := List.forall_mem_cons.1 h
    rw [compareAll, lexicographic_cons, compare_eq_scale hk ha hb, ih hrest]

/-- Whether a document comes before another by the scales of all keys. -/
def precedes (keys : List SortKey) (a b : Document) : Bool :=
  lexicographic keys a b == .lt

theorem precedence_precedes (keys : List SortKey) : Precedence (precedes keys) :=
  precedence_of_transCmp (lexicographic keys)

end SortKey

/-- Where every column is comparable, sorting is sorting by the scales. -/
theorem sortDocuments_eq_of_comparable {directions : Document} {keys : List SortKey}
    (hkeys : SortKey.ofDocument directions = .ok keys) {ds : List Document}
    (h : ∀ k ∈ keys, Document.Comparable k.field ds) :
    sortDocuments directions ds = .ok (stableSort (SortKey.precedes keys) ds) := by
  have hsort : stableSort (fun a b => SortKey.compareAll keys a b == .lt) ds =
      stableSort (SortKey.precedes keys) ds :=
    stableSort_congr fun a ha b hb => by
      rw [SortKey.compareAll_eq_lexicographic h ha hb, SortKey.precedes]
  rw [sortDocuments, hkeys]
  exact congrArg Except.ok hsort

end RecordStore
