import WarehouseAdmin.Proofs.Request.Basic

/-!
# Containers as places

What contains an object is where it is looked for. A place that is a container breaks a rule only if
the container has no proper name, and then the error says so.
-/

set_option autoImplicit false

namespace WarehouseAdmin

namespace Ancestor

/-- Says whether the container has a valid identifier. -/
def isValid : Ancestor → Bool
  | .schema id => id.isValid
  | .database id => id.isValid

/-- The place whose objects are in the container. -/
def place : Ancestor → Within
  | .schema id => .ofSchema id
  | .database id => .ofDatabase id

/-- The field of a place that names the container. -/
def field : Ancestor → String
  | .schema _ => "schema"
  | .database _ => "database"

/-- One place is named, so only its identifier can break a rule. -/
theorem failures_place (p : Ancestor) :
    Validate.failures p.place = validId p.isValid "In" p.field := by
  have hone : exactlyOneOf "In" ["account", "database", "schema"] (Clause.fields p.place) = [] := by
    rw [exactlyOneOf_eq_nil]
    cases p <;> rfl
  cases p with
  | schema id =>
    show exactlyOneOf _ _ (Clause.fields (place (.schema id))) ++ [] ++ _ = _
    rw [hone]
    rfl
  | database id =>
    show exactlyOneOf _ _ (Clause.fields (place (.database id))) ++ _ ++ [] = _
    rw [hone, List.append_nil]
    rfl

theorem validate_place_eq_ok {p : Ancestor} : validate p.place = .ok () ↔ p.isValid = true := by
  rw [validate_eq_ok_iff, failures_place, validId_eq_nil]

/-- A place whose container has no valid identifier is refused for that. -/
theorem anyIs_nested_place {p : Ancestor} (h : p.isValid = false) :
    Error.anyIs .invalidIdentifier (nested (validate p.place)) = true := by
  have hfailures : Error.anyIs .invalidIdentifier (Validate.failures p.place) = true := by
    rw [failures_place, anyIs_validId, h]
    rfl
  obtain ⟨e, he, his⟩ := is_of_validate (by decide) hfailures
  rw [he]
  exact (Bool.or_false _).trans his

end Ancestor

/-! ## The containers of an object -/

namespace Identifier

/-- The containers have valid identifiers if the innermost one does. -/
theorem isValid_of_head_ancestors {id : Identifier} {p : Ancestor}
    (hp : id.ancestors.head? = some p) (hvalid : p.isValid = true) :
    ∀ b ∈ id.ancestors, b.isValid = true := by
  have hschema : ∀ o : SchemaObjectId, o.schemaId.isValid = true → o.databaseId.isValid = true := by
    intro o ho
    simp only [DatabaseObjectId.isValid, SchemaObjectId.schemaId, Bool.and_eq_true] at ho
    exact ho.1
  cases id with
  | account o => exact nomatch hp
  | database o =>
    obtain rfl := Option.some.inj hp
    simpa [ancestors] using hvalid
  | schema o =>
    obtain rfl := Option.some.inj hp
    simpa [ancestors] using ⟨hvalid, hschema o hvalid⟩
  | function o =>
    obtain rfl := Option.some.inj hp
    simpa [ancestors] using ⟨hvalid, hschema o.object hvalid⟩

end Identifier

end WarehouseAdmin
