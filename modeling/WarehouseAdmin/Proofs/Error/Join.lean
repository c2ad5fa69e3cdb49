import WarehouseAdmin.Proofs.Error.Flat

/-!
# Joined errors

A flat error is nothing but the list of single errors that it stands for: two flat errors with the
same list are the same error (`IsFlat.ext`). Joining flat errors appends their lists, and gives the
error of that list; so it makes no difference in which groups errors are joined before the groups
are (`join_filterMap_join`), which is what checks inside of checks do, and look-ups behind a failed
statement. Kinds and texts follow the list: an error is of the kinds of the errors that it lists,
and shows each on lines of its own.
-/

set_option autoImplicit false

namespace WarehouseAdmin
namespace Error

/-! ## The list behind a flat error -/

/-- A flat error that lists one error is that error: a joined one lists at least two. -/
theorem IsFlat.eq_of_errors {e x : Error} (he : e.IsFlat) (h : e.errors = [x]) : e = x := by
  cases e with
  | joined es =>
    obtain ⟨hlength, -⟩ := he
    rw [show es = [x] from h] at hlength
    exact absurd hlength (by simp)
  | _ => exact (List.cons.inj h).1

/-- **A flat error is determined by the errors that it lists.** -/
theorem IsFlat.ext {e e' : Error} (he : e.IsFlat) (he' : e'.IsFlat) (h : e.errors = e'.errors) :
    e = e' := by
  cases e with
  | joined es =>
    cases e' with
    | joined es' => exact congrArg joined h
    | _ => exact he.eq_of_errors h
  | _ => exact (he'.eq_of_errors h.symm).symm

/-- Joining looks at nothing but the single errors, one after another. -/
theorem join_congr {es es' : List Error} (h : es.flatMap errors = es'.flatMap errors) :
    join es = join es' := by
  unfold join
  rw [h]

/-! ## Groups -/

/-- A group of flat errors and the error that joins it list the same. -/
theorem errors_join {es : List Error} (hes : ∀ e ∈ es, e.IsFlat) :
    (join es).toList.flatMap errors = es.flatMap errors := by
  cases hjoin : join es with
  | none => exact (join_eq_none_iff_flatMap.mp hjoin).symm
  | some e =>
    obtain ⟨-, herrors⟩ := join_eq_some hes hjoin
    simpa using herrors

theorem flatMap_errors_filterMap_join {groups : List (List Error)}
    (h : ∀ es ∈ groups, ∀ e ∈ es, e.IsFlat) :
    (groups.filterMap join).flatMap errors = groups.flatten.flatMap errors := by
  induction groups with
  | nil => rfl
  | cons es groups ih =>
    rw [List.forall_mem_cons] at h
    have hsplit : (es :: groups).filterMap join = (join es).toList ++ groups.filterMap join := by
      cases hjoin : join es <;> simp [hjoin]
    rw [hsplit, List.flatMap_append, errors_join h.1, ih h.2, List.flatten_cons,
      List.flatMap_append]

/-- **Groups can be joined first.** A group without errors leaves nothing to join. -/
theorem join_filterMap_join {groups : List (List Error)}
    (h : ∀ es ∈ groups, ∀ e ∈ es, e.IsFlat) :
    join (groups.filterMap join) = join groups.flatten :=
  join_congr (flatMap_errors_filterMap_join h)

/-! ## Texts -/

theorem messages_eq_map (es : List Error) : messages es = es.map message := by
  induction es with
  | nil => rfl
  | cons e es ih => rw [messages, ih, List.map_cons]

/-- The text of an error shows the errors that it lists, each on lines of its own. -/
theorem message_eq_lines (e : Error) :
    e.message = String.intercalate "\n" (e.errors.map message) := by
  cases e with
  | joined es => exact congrArg (String.intercalate "\n") (messages_eq_map es)
  | _ => exact String.intercalate_singleton.symm

/-- Lines that are put together from lines make one text, since an error never lists none. -/
theorem intercalate_message {es : List Error} (hes : ∀ e ∈ es, e.IsFlat) :
    String.intercalate "\n" ((es.flatMap errors).map message) =
      String.intercalate "\n" (es.map message) := by
  induction es with
  | nil => rfl
  | cons e es ih =>
    rw [List.forall_mem_cons] at hes
    cases es with
    | nil => rw [List.flatMap_singleton, List.map_singleton, String.intercalate_singleton,
        message_eq_lines]
    | cons e' es =>
      have hfirst : e.errors.map message ≠ [] := by
        intro hnil
        exact hes.1.errors_ne_nil (List.map_eq_nil_iff.mp hnil)
      have hrest : ((e' :: es).flatMap errors).map message ≠ [] := by
        intro hnil
        rw [List.map_eq_nil_iff, ← join_eq_none_iff_flatMap, join_eq_none_iff hes.2] at hnil
        exact absurd hnil (List.cons_ne_nil _ _)
      rw [List.flatMap_cons, List.map_append, String.intercalate_append_of_ne_nil hfirst hrest,
        ih hes.2, ← message_eq_lines, List.map_cons, List.map_cons, List.map_cons,
        String.intercalate_cons_cons]

/-! ## What is joined -/

/-- What an error is that joins others: flat, with all their errors in order, of every kind that one
of them is of, and with their texts on lines. -/
structure Joins (e : Error) (es : List Error) : Prop where
  isFlat : e.IsFlat
  errors_eq : e.errors = es.flatMap errors
  is_iff : ∀ k : ErrorKind, k ≠ .joined → (e.is k = true ↔ ∃ x ∈ es, x.is k = true)
  message_eq : e.message = String.intercalate "\n" (es.map message)

theorem joins_of_join {es : List Error} (hes : ∀ e ∈ es, e.IsFlat) {e : Error}
    (h : join es = some e) : e.Joins es := by
  obtain ⟨hflat, herrors⟩ := join_eq_some hes h
  refine ⟨hflat, herrors, fun k hk => ?_, ?_⟩
  · rw [is_of_join h hk, anyIs_eq_any, List.any_eq_true]
  · rw [message_eq_lines, herrors, intercalate_message hes]

/-- Only one error joins flat errors. -/
theorem Joins.join_eq {es : List Error} (hes : ∀ e ∈ es, e.IsFlat) {e : Error} (h : e.Joins es) :
    join es = some e := by
  cases hjoin : join es with
  | none =>
    rw [join_eq_none_iff_flatMap, ← h.errors_eq] at hjoin
    exact absurd hjoin h.isFlat.errors_ne_nil
  | some e' =>
    obtain ⟨hflat, herrors⟩ := join_eq_some hes hjoin
    rw [hflat.ext h.isFlat (herrors.trans h.errors_eq.symm)]

/-- **Joining flat errors appends them.** There is nothing to join only if there is no error, and
otherwise one error, and no other, joins them all: it lists their errors in order, is of the kinds
that they are of, and shows their texts on lines. It is the same error if neighbours are joined to
groups first. -/
theorem join_appends {es : List Error} (hes : ∀ e ∈ es, e.IsFlat) :
    (join es = none ↔ es = []) ∧
    (es ≠ [] → ∃ e, join es = some e) ∧
    (∀ e, join es = some e ↔ e.Joins es) ∧
    ∀ groups : List (List Error), groups.flatten = es → join (groups.filterMap join) = join es := by
  refine ⟨join_eq_none_iff hes, fun hne => ?_, fun e => ⟨joins_of_join hes, Joins.join_eq hes⟩, ?_⟩
  · rw [← Option.ne_none_iff_exists']
    intro hnone
    exact hne ((join_eq_none_iff hes).mp hnone)
  · rintro groups rfl
    refine join_filterMap_join fun group hgroup e he => ?_
    exact hes e (List.mem_flatten.mpr ⟨group, hgroup, he⟩)

/-- Three errors, one of which joins two others already. -/
def threeErrors : List Error :=
  [.cancelled, .joined [.objectNotFound "w", .timeout ⟨0⟩], .objectNotFound "v"]

/-- They make four lines, and the same ones if the first is joined alone, then nothing, then the
others. -/
theorem join_appends_threeErrors :
    (∀ e ∈ threeErrors, e.IsFlat) ∧
    join threeErrors =
      some (.joined [.cancelled, .objectNotFound "w", .timeout ⟨0⟩, .objectNotFound "v"]) ∧
    (joined [.cancelled, .objectNotFound "w", .timeout ⟨0⟩, .objectNotFound "v"]).Joins
      threeErrors ∧
    join (([threeErrors.take 1, [], threeErrors.drop 1] : List (List Error)).filterMap join) =
      join threeErrors := by
  have hflat : ∀ e ∈ threeErrors, e.IsFlat := by
    simp [threeErrors, IsFlat, IsSingle]
  obtain ⟨-, -, hjoins, hgroups⟩ := join_appends hflat
  exact ⟨hflat, rfl, (hjoins _).mp rfl, hgroups _ rfl⟩

end Error
end WarehouseAdmin
