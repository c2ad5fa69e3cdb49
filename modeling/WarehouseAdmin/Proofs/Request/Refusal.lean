import WarehouseAdmin.Proofs.Catalog.Reading
import WarehouseAdmin.Proofs.Request.Place

/-!
# What a refusal can be about

Errors come from two sides. A client finds some of them by itself: a request breaks a rule, a row
cannot be read, an object is not in a listing. The others come of a statement that was sent: they are
the driver's, or the waiting for the driver had an end. `Error.IsLocal` singles the former out, and
the kinds alone tell them apart. That a request is refused for local errors only is a matter of the
kinds that its rules record, and so there is one equation for each rule.
-/

set_option autoImplicit false

namespace WarehouseAdmin

/-- Says whether errors of this kind come of a statement that was sent. -/
def ErrorKind.isRemote : ErrorKind → Bool
  | .notExistOrNotAuthorized | .notExistOrNotPossible | .driver | .cancelled | .timeout => true
  | _ => false

namespace Error

/-- Holds of single errors that are not remote, and of several of them that are joined. -/
structure IsLocal (e : Error) : Prop where
  isFlat : e.IsFlat
  notRemote : ∀ x ∈ e.errors, x.kind.isRemote = false

theorem IsSingle.isLocal {e : Error} (he : e.IsSingle) (h : e.kind.isRemote = false) :
    e.IsLocal := by
  refine ⟨he.isFlat, fun x hx => ?_⟩
  rw [he.errors_eq, List.mem_singleton] at hx
  rw [hx]
  exact h

theorem isLocal_of_is {e : Error} (he : e.IsFlat)
    (h : ∀ k : ErrorKind, k.isRemote = true → e.is k = false) : e.IsLocal := by
  refine ⟨he, fun x hx => ?_⟩
  have hsingle := he.errors_single x hx
  cases hk : x.kind.isRemote with
  | false => rfl
  | true =>
    have hkind : x.kind ≠ .joined := by
      intro heq
      rw [heq] at hk
      exact nomatch hk
    have his : e.is x.kind = true := by
      rw [is_eq_anyIs hkind, anyIs_eq_any, List.any_eq_true]
      exact ⟨x, hx, by rw [hsingle.is_eq, beq_self_eq_true]⟩
    exact absurd (his.symm.trans (h x.kind hk)) (by simp)

end Error

section
variable {α : Type} [OfRow α] {rows : List Row} {e : Error}

/-- A row that cannot be read. -/
theorem ReadInOrder.isLocal (h : ReadInOrder α rows (.error e)) : e.IsLocal := by
  cases h with
  | fault => exact Error.IsSingle.isLocal trivial rfl

/-- A row that cannot be read, or an object that is not in the listing. -/
theorem Picks.isLocal {Id : Type} [Identified α Id] {id : Id} (h : Picks α id rows (.error e)) :
    e.IsLocal := by
  cases h with
  | fault hfault => exact hfault.isLocal
  | missing => exact Error.IsSingle.isLocal trivial rfl

end

open Error

/-! ## The kinds of errors that rules record -/

section
variable {k : ErrorKind} {α : Type}

theorem anyIs_failIf (b : Bool) (f : ValidationFailure) :
    anyIs k (failIf b f) = (b && ErrorKind.validation == k) := by
  cases b
  · rfl
  · exact Bool.or_false _

theorem anyIs_validId_kind (b : Bool) (request field : String) :
    anyIs k (validId b request field) = (!b && ErrorKind.invalidIdentifier == k) := by
  cases b
  · exact Bool.or_false _
  · rfl

theorem anyIs_flatMap (as : List α) (f : α → List Error) :
    anyIs k (as.flatMap f) = as.any fun a => anyIs k (f a) := by
  induction as with
  | nil => rfl
  | cons a as ih => rw [List.flatMap_cons, anyIs_append, ih, List.any_cons]

/-- The errors of a nested check are counted where they are recorded, if they are joined or not. -/
theorem anyIs_nested [Validate α] (hk : k ≠ .joined) (a : α) :
    anyIs k (nested (validate a)) = anyIs k (Validate.failures a) := by
  unfold validate conclude
  cases hjoin : join (Validate.failures a) with
  | none =>
    rw [← anyIs_flatMap_errors hk (Validate.failures a), join_eq_none_iff_flatMap.mp hjoin]
    rfl
  | some e => exact (Bool.or_false _).trans (is_of_join hjoin hk)

theorem anyIs_nestedOption [Validate α] (hk : k ≠ .joined) (o : Option α) :
    anyIs k (nestedOption o) = o.any fun a => anyIs k (Validate.failures a) := by
  cases o with
  | none => rfl
  | some a => exact anyIs_nested hk a

theorem anyIs_clusterFailures (hk : (ErrorKind.validation == k) = false) (request : String)
    (min max : Option Int) : anyIs k (clusterFailures request min max) = false := by
  unfold clusterFailures
  split
  · rw [anyIs_failIf, hk, Bool.and_false]
  · rfl

end

/-- **Requests record errors about rules and identifiers only.** One case per request, and in each the
rules that it is made of. -/
theorem Request.anyIs_failures (q : Request) {k : ErrorKind} (hvalidation : k ≠ .validation)
    (hidentifier : k ≠ .invalidIdentifier) (hjoined : k ≠ .joined) :
    anyIs k (Validate.failures q) = false := by
  have hvalidation : (ErrorKind.validation == k) = false := beq_false_of_ne hvalidation.symm
  have hidentifier : (ErrorKind.invalidIdentifier == k) = false :=
    beq_false_of_ne hidentifier.symm
  cases q <;>
    simp [Validate.failures, Request.on, anyIs_failIf, anyIs_validId_kind, anyIs_flatMap,
      anyIs_nestedOption hjoined, anyIs_clusterFailures hvalidation, hvalidation, hidentifier,
      tagFailures, tagNameFailures, optionalId, optionalGroup, exactlyOneOf, AlertSet.failures, anyIs]

/-- What is refused breaks a rule, or it cannot be emitted. -/
theorem cases_of_render {α : Type} [Clause α] [Validate α] {a : α} {e : Error}
    (h : render a = .error e) : validate a = .error e ∨ ∃ x, e = .emission x := by
  unfold render at h
  cases hvalidate : validate a with
  | error x =>
    rw [hvalidate] at h
    exact .inl (congrArg Except.error (Except.error.inj h))
  | ok _ =>
    rw [hvalidate] at h
    cases hsql : toSql a with
    | ok sql =>
      rw [hsql] at h
      exact nomatch h
    | error x =>
      rw [hsql] at h
      exact .inr ⟨x, (Except.error.inj h).symm⟩

theorem Request.is_of_render {q : Request} {e : Error} (h : render q = .error e) {k : ErrorKind}
    (hvalidation : k ≠ .validation) (hidentifier : k ≠ .invalidIdentifier)
    (hemission : k ≠ .emission) (hjoined : k ≠ .joined) : e.is k = false := by
  rcases cases_of_render h with hvalidate | ⟨x, rfl⟩
  · have hnested := anyIs_nested hjoined q
    rw [hvalidate, q.anyIs_failures hvalidation hidentifier hjoined] at hnested
    exact (Bool.or_false _).symm.trans hnested
  · exact beq_false_of_ne hemission.symm

/-- Whatever a request is refused for is a local error. -/
theorem Request.isLocal_of_render {q : Request} {e : Error} (h : render q = .error e) :
    e.IsLocal := by
  have hflat : e.IsFlat := by
    rcases cases_of_render h with hvalidate | ⟨x, rfl⟩
    · exact isFlat_of_validate hvalidate
    · trivial
  refine isLocal_of_is hflat fun k hk => is_of_render h ?_ ?_ ?_ ?_
  all_goals
    rintro rfl
    exact nomatch hk

end WarehouseAdmin
