import RecordStore.Criteria.Reading
import RecordStore.Proofs.Forms
/-!
# Search criteria in payloads

Criteria that are written are read back, and so are all other forms of what was written. The
settings may come in any order, or in their own order without names; those with nothing in them
may be missing, and other members may stand among them. A filter and a field to sort by need all
of their parts, but take them by name or by position as well.

Bounds have to be finite, because the others are not written.

## Main results

* `Criteria.read_of_form`: criteria are read from every form of what they are written as.
-/

namespace RecordStore

namespace Payload

/-- A value that a missing setting stands for. -/
def Blank (p : Payload) : Prop :=
  p = .string "" ∨ p = .array [] ∨ p = .integer 0

theorem Blank.eq_of_string {s : String} (h : Blank (.string s)) : "" = s := by
  simpa [Blank, eq_comm] using h

theorem Blank.eq_of_array {α : Type} {write : α → Payload} {as : List α}
    (h : Blank (.array (as.map write))) : [] = as := by
  simpa [Blank, eq_comm] using h

theorem Blank.eq_of_integer {i : Int64} (h : Blank (.integer i.toInt)) : 0 = i := by
  obtain h | h | h := h
  · cases h
  · cases h
  · exact (Int64.toInt_inj.1 (Payload.integer.inj h)).symm

/-- An entry of a list as it is, or another form of it with all of its parts. -/
inductive EntryForm : Payload → Payload → Prop
  | same (p : Payload) : EntryForm p p
  | form {fields : List (String × Payload)} {q : Payload}
      (h : Form (fun _ => False) Eq fields q) : EntryForm (.object fields) q

/-- A setting as it is, or a list with other forms of its entries. -/
inductive Recast : Payload → Payload → Prop
  | same (p : Payload) : Recast p p
  | entries {ps qs : List Payload} (h : List.Forall₂ EntryForm ps qs) :
      Recast (.array ps) (.array qs)

theorem EntryForm.form_of_object {fields : List (String × Payload)} {q : Payload}
    (hnames : (fields.map Prod.fst).Nodup) (h : EntryForm (.object fields) q) :
    Form (fun _ => False) Eq fields q := by
  cases h with
  | same => exact Form.self hnames fun _ => rfl
  | form h => exact h

theorem Recast.exists_of_array {ps : List Payload} {q : Payload} (h : Recast (.array ps) q) :
    ∃ qs, q = .array qs ∧ List.Forall₂ EntryForm ps qs := by
  cases h with
  | same => exact ⟨ps, rfl, List.forall₂_same.2 fun p _ => .same p⟩
  | entries h => exact ⟨_, rfl, h⟩

end Payload

open Payload

/-! ### Leaves -/

namespace Reader

variable {α : Type}

/-- A list is read if each of its entries is, in every form. -/
theorem list_of_recast {reader : Reader Payload α} {write : α → Payload} {as : List α}
    {q : Payload} (hread : ∀ a ∈ as, ∀ p, EntryForm (write a) p → reader p = .ok a)
    (h : Recast (.array (as.map write)) q) : Reader.list reader q = .ok as := by
  obtain ⟨qs, rfl, hqs⟩ := h.exists_of_array
  rw [List.forall₂_map_left_iff] at hqs
  have hboth := (List.forall₂_and_left _ _).2 ⟨hread, hqs⟩
  exact list_eq_ok rfl (hboth.imp fun a p hp => hp.1 p hp.2).flip

theorem text_of_recast {s : String} {q : Payload} (h : Recast (.string s) q) :
    Reader.text q = .ok s := by
  cases h
  rfl

theorem texts_of_recast {ss : List String} {q : Payload} (h : Recast (.array (ss.map .string)) q) :
    Reader.list Reader.text q = .ok ss := by
  refine list_of_recast (fun s _ p hp => ?_) h
  cases hp
  rfl

theorem int64_of_recast {i : Int64} {q : Payload} (h : Recast (.integer i.toInt) q) :
    Reader.int64 q = .ok i := by
  cases h
  exact int64_eq_ok rfl

end Reader

theorem RangeOperator.read_name (o : RangeOperator) :
    RangeOperator.read (Payload.string o.name) = .ok o := by
  cases o <;> rfl

theorem SortDirection.read_name (d : SortDirection) :
    SortDirection.read (Payload.string d.name) = .ok d := by
  cases d <;> rfl

/-! ### Entries -/

theorem TokenFilter.read_of_entry {t : TokenFilter} {q : Payload}
    (h : EntryForm (.object t.members) q) : TokenFilter.read q = .ok t := by
  have hnames : ((t.members : List (String × Payload)).map Prod.fst).Nodup := by simp [members]
  refine Reader.struct_of_form rfl hnames (fun member missing hfound => ?_)
    (h.form_of_object hnames)
  simp only [members, Medium.text_payload, Medium.sequence_payload, List.forall_mem_cons] at hfound
  obtain ⟨hname, hvalues, -⟩ := hfound
  rw [Fields.read_seq, Fields.read_map, Fields.read_required_of_found hname,
    Fields.read_required_of_found hvalues, Reader.texts_of_recast (.same _)]
  rfl

theorem RangeFilter.read_of_entry {r : RangeFilter} (hr : r.bound.isFinite = true) {q : Payload}
    (h : EntryForm (.object r.members) q) : RangeFilter.read q = .ok r := by
  have hnames : ((r.members : List (String × Payload)).map Prod.fst).Nodup := by simp [members]
  refine Reader.struct_of_form rfl hnames (fun member missing hfound => ?_)
    (h.form_of_object hnames)
  simp only [members, Medium.text_payload, Medium.double_payload, if_pos hr,
    List.forall_mem_cons] at hfound
  obtain ⟨hname, hoperator, hvalue, -⟩ := hfound
  rw [Fields.read_seq, Fields.read_seq, Fields.read_map, Fields.read_required_of_found hname,
    Fields.read_required_of_found hoperator, Fields.read_required_of_found hvalue,
    RangeOperator.read_name]
  rfl

theorem SortEntry.read_of_entry {s : SortEntry} {q : Payload}
    (h : EntryForm (.object s.members) q) : SortEntry.read q = .ok s := by
  have hnames : ((s.members : List (String × Payload)).map Prod.fst).Nodup := by simp [members]
  refine Reader.struct_of_form rfl hnames (fun member missing hfound => ?_)
    (h.form_of_object hnames)
  simp only [members, Medium.text_payload, List.forall_mem_cons] at hfound
  obtain ⟨hname, hdirection, -⟩ := hfound
  rw [Fields.read_seq, Fields.read_map, Fields.read_required_of_found hname,
    Fields.read_required_of_found hdirection, SortDirection.read_name]
  rfl

/-! ### Criteria -/

namespace Criteria

instance : (fields : Fields Payload Criteria).Consistent := by
  unfold fields
  infer_instance

theorem nodup_names_members (c : Criteria) :
    ((c.members : List (String × Payload)).map Prod.fst).Nodup := by
  simp [members]

/-- What is found for the settings of criteria is read as the criteria. -/
theorem read_fields_of_found {c : Criteria}
    (hfinite : ∀ r ∈ c.rangeFilters, r.bound.isFinite = true)
    {member : String → Option Payload} {missing : String → ReadError}
    (h : ∀ f ∈ c.members, Found Blank Recast member f) :
    fields.read member missing = .ok c := by
  simp only [members, List.forall_mem_cons] at h
  obtain ⟨hindex, hquery, hlimit, hautocomplete, htokens, hranges, hbooleans, hsort, -⟩ := h
  simp only [fields, Fields.read_seq, Fields.read_map]
  rw [Fields.read_optional_of_found hindex (fun _ => Reader.text_of_recast) Blank.eq_of_string,
    Fields.read_optional_of_found hquery (fun _ => Reader.text_of_recast) Blank.eq_of_string,
    Fields.read_optional_of_found hlimit (fun _ => Reader.int64_of_recast) Blank.eq_of_integer,
    Fields.read_optional_of_found hautocomplete (fun _ => Reader.texts_of_recast)
      Blank.eq_of_array,
    Fields.read_optional_of_found htokens
      (fun _ => Reader.list_of_recast fun t _ _ => TokenFilter.read_of_entry) Blank.eq_of_array,
    Fields.read_optional_of_found hranges
      (fun _ => Reader.list_of_recast fun r hr _ => RangeFilter.read_of_entry (hfinite r hr))
      Blank.eq_of_array,
    Fields.read_optional_of_found hbooleans (fun _ => Reader.texts_of_recast) Blank.eq_of_array,
    Fields.read_optional_of_found hsort
      (fun _ => Reader.list_of_recast fun s _ _ => SortEntry.read_of_entry) Blank.eq_of_array]
  rfl

/-- **Criteria survive every form.** Criteria whose bounds are finite are read from what they are
written as, and from every other form of it. -/
theorem read_of_form (c : Criteria)
    (hfinite : ∀ r ∈ c.rangeFilters, r.bound.isFinite = true) :
    Criteria.read c.toPayload = .ok c ∧
      ∀ p, Form Blank Recast c.members p → Criteria.read p = .ok c := by
  have hread : ∀ p, Form Blank Recast c.members p → Criteria.read p = .ok c := fun p h =>
    Reader.struct_of_form rfl c.nodup_names_members
      (fun _ _ hfound => read_fields_of_found hfinite hfound) h
  exact ⟨hread _ (Form.self c.nodup_names_members Recast.same), hread⟩

/-- A search with a bound. -/
def cheap : Criteria where
  index := "products"
  query := "ch"
  autocompleteFields := ["name"]
  rangeFilters := [⟨"price", .lte, ⟨0x4023000000000000⟩⟩]

/-- The search in another order, with a member of its own and without the blank settings. -/
def cheapByName : Payload :=
  .object [("range_fields", .array [.object [("value", .float ⟨0x4023000000000000⟩),
      ("operator", .string "lte"), ("name", .string "price")]]),
    ("page", .integer 2),
    ("query", .string "ch"),
    ("autocomplete_fields", .array [.string "name"]),
    ("index_name", .string "products")]

/-- The search without names, up to the last setting that is not blank. -/
def cheapByPosition : Payload :=
  .array [.string "products", .string "ch", .integer 0, .array [.string "name"], .array [],
    .array [.array [.string "price", .string "lte", .float ⟨0x4023000000000000⟩]]]

theorem form_cheapByName : Form Blank Recast cheap.members cheapByName := by
  have hrange : Recast (.array (cheap.rangeFilters.map fun r => .object r.members))
      (.array [.object [("value", .float ⟨0x4023000000000000⟩), ("operator", .string "lte"),
        ("name", .string "price")]]) := by
    refine .entries (.cons (.form (.object ⟨by decide, fun f hf => .inl ⟨f.2, ?_, rfl⟩⟩)) .nil)
    have hfields : f ∈ [("name", .string "price"), ("operator", .string "lte"),
        ("value", .float ⟨0x4023000000000000⟩)] := hf
    simp only [List.mem_cons] at hfields ⊢
    tauto
  refine .object ⟨by decide, ?_⟩
  simp only [members, List.forall_mem_cons]
  refine ⟨.inl ⟨_, ?_, .same _⟩, .inl ⟨_, ?_, .same _⟩, .inr ⟨by decide, .inr (.inr rfl)⟩,
    .inl ⟨_, ?_, .same _⟩, .inr ⟨by decide, .inr (.inl rfl)⟩, .inl ⟨_, ?_, hrange⟩,
    .inr ⟨by decide, .inr (.inl rfl)⟩, .inr ⟨by decide, .inr (.inl rfl)⟩, nofun⟩
  all_goals simp [cheap]

theorem form_cheapByPosition : Form Blank Recast cheap.members cheapByPosition := by
  have hrange : Recast (.array (cheap.rangeFilters.map fun r => .object r.members))
      (.array [.array [.string "price", .string "lte", .float ⟨0x4023000000000000⟩]]) :=
    .entries (.cons (.form (.array (List.append_nil _).symm
      (.cons rfl (.cons rfl (.cons rfl .nil))) nofun)) .nil)
  have hempty : ∀ f ∈ cheap.members.drop 6, Blank f.2 :=
    List.forall_mem_cons.2 ⟨.inr (.inl rfl), List.forall_mem_cons.2 ⟨.inr (.inl rfl), nofun⟩⟩
  exact .array (List.take_append_drop 6 cheap.members).symm
    (.cons (.same _) (.cons (.same _) (.cons (.same _) (.cons (.same _) (.cons (.same _)
      (.cons hrange .nil)))))) hempty

theorem read_of_form_cheap :
    Criteria.read cheap.toPayload = .ok cheap ∧ Criteria.read cheapByName = .ok cheap ∧
      Criteria.read cheapByPosition = .ok cheap := by
  obtain ⟨hself, hforms⟩ := read_of_form cheap (by decide)
  exact ⟨hself, hforms _ form_cheapByName, hforms _ form_cheapByPosition⟩

end Criteria

end RecordStore
