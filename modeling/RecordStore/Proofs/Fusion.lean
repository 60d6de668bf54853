import RecordStore.Proofs.Paging
/-!
# Selections in a row

Two `$match` stages in a row select what one stage with the conditions of both selects, and they
fail with the same error. The stages ask different questions on the way: the first one tests all
documents before the second one tests any, while the joined filter goes on to the second half on
each document that meets the first. A fault can tell them apart only if the first filter fails on
one document and matches another, and a filter that matches a document fails on none.

## Main results

* `Filter.select_append`: selecting by two filters in a row.
* `Pipeline.run_match`: a pipeline of selections is one selection.
* `Collection.aggregate_match_append`: two stages, in either order, and the stage that joins them.
-/

namespace RecordStore

namespace Filter

variable {f g d : Document}

theorem test_append (f g d : Document) :
    test d (f ++ g) =
      match test d f with
      | .error e => .error e
      | .ok true => test d g
      | .ok false => .ok false := by
  induction f with
  | nil => rfl
  | cons entry rest ih =>
    obtain ⟨name, condition⟩ := entry
    rw [List.cons_append, test_cons, test_cons, ih]
    cases meets (d.get? name) condition with
    | error e => rfl
    | ok found => cases found <;> rfl

theorem accepts_append (f g d : Document) :
    accepts (f ++ g) d = (accepts f d && accepts g d) := by
  rw [accepts, test_append, accepts, accepts]
  cases test d f with
  | error e => rfl
  | ok found => cases found <;> rfl

/-- The joined filter fails where the first half fails, and where the second half fails on a
document that the first one matches. -/
theorem fault?_append (f g d : Document) :
    fault? (f ++ g) d = (fault? f d).or (if accepts f d then fault? g d else none) := by
  rw [fault?, test_append, fault?, accepts]
  cases test d f with
  | error e => rfl
  | ok found => cases found <;> rfl

theorem firstFault?_append (f g : Document) (ds : List Document) :
    firstFault? (f ++ g) ds =
      (firstFault? f ds).or (firstFault? g (ds.filter (accepts f))) := by
  induction ds with
  | nil => rfl
  | cons d rest ih =>
    rw [firstFault?_cons, fault?_append, ih, firstFault?_cons]
    by_cases hd : accepts f d = true
    · -- the first half matches here, so it cannot fail further on, before the second half does
      have hhead : fault? f d = none := decides_iff_fault?_eq_none.1 (decides_of_accepts hd d)
      have hrest : firstFault? f rest = none :=
        firstFault?_eq_none_iff.2 fun x _ => decides_of_accepts hd x
      rw [List.filter_cons_of_pos hd, firstFault?_cons, hhead, hrest, if_pos hd]
      rfl
    · rw [List.filter_cons_of_neg hd, if_neg hd, Option.or_none, Option.or_assoc]

theorem filter_accepts_append (f g : Document) (ds : List Document) :
    ds.filter (accepts (f ++ g)) = (ds.filter (accepts f)).filter (accepts g) := by
  rw [List.filter_filter]
  refine List.filter_congr fun d _ => ?_
  rw [accepts_append, Bool.and_comm]

/-- Selecting by two filters in a row is selecting by their conditions together, errors
included. -/
theorem select_append (f g : Document) (ds : List Document) :
    select (f ++ g) ds = select f ds >>= select g := by
  rw [select_eq, select_eq, firstFault?_append, filter_accepts_append]
  cases firstFault? f ds with
  | some e => rfl
  | none => exact (select_eq g _).symm

theorem select_nil (ds : List Document) : select [] ds = .ok ds := by
  have hfault : firstFault? [] ds = none := firstFault?_eq_none_iff.2 fun _ _ => decides_nil
  have hall : ds.filter (accepts []) = ds := List.filter_eq_self.2 fun _ _ => accepts_nil
  rw [select_eq, hfault, hall]

end Filter

/-- A pipeline of selections selects by all their conditions. -/
theorem Pipeline.run_match (filters ds : List Document) :
    run (filters.map fun filter => [("$match", .document filter)]) ds =
      Filter.select filters.flatten ds := by
  induction filters generalizing ds with
  | nil => exact (Filter.select_nil ds).symm
  | cons filter rest ih =>
    rw [List.map_cons, run_cons (Stage.ofDocument_match filter), List.flatten_cons,
      Filter.select_append]
    exact bind_congr ih

namespace Collection

variable {c : Collection}

theorem aggregate_match (c : Collection) (filters : List Document) :
    ((aggregate (filters.map fun filter => [("$match", .document filter)])).outcome c).1 =
      Filter.select filters.flatten c.documents := by
  rw [outcome_aggregate, Pipeline.run_match]

/-- **Selections in a row.** Two stages that select answer what the stage with the conditions of
both answers: the same documents in the same order, or the same error. In the other order the
stages may fail where these do not, or the other way round; if both succeed, the answers are the
same. -/
theorem aggregate_match_append (c : Collection) (f g : Document) :
    ((aggregate [[("$match", .document f)], [("$match", .document g)]]).outcome c).1 =
      ((aggregate [[("$match", .document (f ++ g))]]).outcome c).1 ∧
    ∀ ds es,
      ((aggregate [[("$match", .document f)], [("$match", .document g)]]).outcome c).1 = .ok ds →
      ((aggregate [[("$match", .document g)], [("$match", .document f)]]).outcome c).1 = .ok es →
      es = ds := by
  have hfg := aggregate_match c [f, g]
  have hgf := aggregate_match c [g, f]
  have hjoined := aggregate_match c [f ++ g]
  simp only [List.map_cons, List.map_nil, List.flatten_cons, List.flatten_nil, List.append_nil]
    at hfg hgf hjoined
  refine ⟨hfg.trans hjoined.symm, fun ds es hds hes => ?_⟩
  rw [hfg] at hds
  rw [hgf] at hes
  rw [← (Filter.select_eq_ok_iff.1 hds).2, ← (Filter.select_eq_ok_iff.1 hes).2]
  refine List.filter_congr fun d _ => ?_
  rw [Filter.accepts_append, Filter.accepts_append, Bool.and_comm]

end Collection

end RecordStore
