import WarehouseAdmin.Error

/-!
# Flat errors, and what joining them comes to

`Error.join` takes joined errors apart by **one** level before it puts the pieces together. That one
level is enough only because every error that reaches it is *flat*: it is either a single error, or
at least two single errors joined. This file says so once. The fact that everything about checks
consumes is the last one, `join_eq_none_iff`: a list of flat errors joins to nothing exactly when it
is empty. Without flatness it is false, since `joined []` lists no error at all.
-/

set_option autoImplicit false

namespace WarehouseAdmin
namespace Error

/-- An error that is not a joined one. -/
def IsSingle : Error → Prop
  | .joined _ => False
  | _ => True

/-- A single error, or at least two single errors that are joined. -/
def IsFlat : Error → Prop
  | .joined es => 2 ≤ es.length ∧ ∀ e ∈ es, e.IsSingle
  | _ => True

theorem IsSingle.isFlat {e : Error} (h : e.IsSingle) : e.IsFlat := by
  cases e with
  | joined es => exact absurd h (by simp [IsSingle])
  | _ => trivial

theorem isSingle_of_kind_ne {e : Error} (h : e.kind ≠ .joined) : e.IsSingle := by
  cases e with
  | joined es => exact absurd rfl h
  | _ => trivial

theorem IsSingle.errors_eq {e : Error} (h : e.IsSingle) : e.errors = [e] := by
  cases e with
  | joined es => exact absurd h (by simp [IsSingle])
  | _ => rfl

/-- A single error is of its own kind and of no other. -/
theorem IsSingle.is_eq {e : Error} (h : e.IsSingle) (k : ErrorKind) : e.is k = (e.kind == k) := by
  cases e with
  | joined es => exact absurd h (by simp [IsSingle])
  | _ => rfl

/-- A flat error lists single errors only. -/
theorem IsFlat.errors_single {e : Error} (h : e.IsFlat) : ∀ x ∈ e.errors, x.IsSingle := by
  cases e with
  | joined es => exact h.2
  | _ =>
    intro x hx
    rw [List.mem_singleton.mp hx]
    trivial

theorem IsFlat.errors_ne_nil {e : Error} (h : e.IsFlat) : e.errors ≠ [] := by
  cases e with
  | joined es =>
    intro hes
    have hlen : 2 ≤ es.length := h.1
    rw [show es = [] from hes] at hlen
    exact absurd hlen (by simp)
  | _ => exact List.cons_ne_nil _ _

/-! ## Joining -/

theorem join_eq_none_iff_flatMap {es : List Error} :
    join es = none ↔ es.flatMap errors = [] := by
  unfold join
  split <;> simp_all

/-- What joins flat errors is flat again, and lists the errors of all of them in order. -/
theorem join_eq_some {es : List Error} (hes : ∀ e ∈ es, e.IsFlat) {e : Error}
    (h : join es = some e) : e.IsFlat ∧ e.errors = es.flatMap errors := by
  have hsingle : ∀ x ∈ es.flatMap errors, x.IsSingle := by
    intro x hx
    obtain ⟨y, hy, hxy⟩ := List.mem_flatMap.mp hx
    exact (hes y hy).errors_single x hxy
  unfold join at h
  split at h
  · exact absurd h (by simp)
  · rename_i x hx
    obtain rfl := Option.some.inj h
    have hxs : x.IsSingle := hsingle x (by simp [hx])
    exact ⟨hxs.isFlat, by rw [hx, hxs.errors_eq]⟩
  · rename_i hnil hone
    obtain rfl := Option.some.inj h
    refine ⟨⟨?_, hsingle⟩, rfl⟩
    -- Neither of the shorter arms applied, so there are at least two errors.
    match hf : es.flatMap errors with
    | [] => exact absurd hf hnil
    | [x] => exact absurd hf (hone x)
    | _ :: _ :: _ => simp

theorem join_eq_none_iff {es : List Error} (hes : ∀ e ∈ es, e.IsFlat) :
    join es = none ↔ es = [] := by
  rw [join_eq_none_iff_flatMap]
  constructor
  · intro h
    cases es with
    | nil => rfl
    | cons e rest =>
      rw [List.flatMap_cons] at h
      exact absurd (List.append_eq_nil_iff.mp h).1 (hes e List.mem_cons_self).errors_ne_nil
  · rintro rfl
    rfl

/-! ## Errors of a kind, among several -/

@[simp] theorem anyIs_append {k : ErrorKind} (xs ys : List Error) :
    anyIs k (xs ++ ys) = (anyIs k xs || anyIs k ys) := by
  induction xs with
  | nil => rfl
  | cons x xs ih => rw [List.cons_append, anyIs, anyIs, ih, Bool.or_assoc]

theorem anyIs_eq_any (k : ErrorKind) (es : List Error) : anyIs k es = es.any fun e => e.is k := by
  induction es with
  | nil => rfl
  | cons e es ih => rw [anyIs, ih, List.any_cons]

/-- An error is of a kind if one of those that it lists is, for joined errors are a kind of their
own that is never asked for here. -/
theorem is_eq_anyIs {k : ErrorKind} (hk : k ≠ .joined) (e : Error) : e.is k = anyIs k e.errors := by
  cases e with
  | joined es =>
    show (k == .joined || anyIs k es) = anyIs k es
    simp [hk]
  | _ => exact (Bool.or_false _).symm

theorem anyIs_flatMap_errors {k : ErrorKind} (hk : k ≠ .joined) (es : List Error) :
    anyIs k (es.flatMap errors) = anyIs k es := by
  induction es with
  | nil => rfl
  | cons e es ih => rw [List.flatMap_cons, anyIs_append, anyIs, ih, is_eq_anyIs hk]

/-- **Joining keeps the kinds of the errors**, of whatever shape these are. -/
theorem is_of_join {es : List Error} {e : Error} (h : join es = some e) {k : ErrorKind}
    (hk : k ≠ .joined) : e.is k = anyIs k es := by
  rw [← anyIs_flatMap_errors hk]
  unfold join at h
  split at h
  · exact absurd h (by simp)
  · rename_i x hx
    obtain rfl := Option.some.inj h
    rw [hx, anyIs, anyIs, Bool.or_false]
  · obtain rfl := Option.some.inj h
    exact is_eq_anyIs hk _

end Error
end WarehouseAdmin
