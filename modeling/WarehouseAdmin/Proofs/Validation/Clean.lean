import WarehouseAdmin.Request.Parts
import WarehouseAdmin.Proofs.Error.Flat

/-!
# What a check that passes has found

A check is a concatenation of rules, and each rule records errors or none. Everything that is proved
about accepted requests starts from `validate r = .ok ()` and needs the *meaning* of the rules, one
by one. Two things are supplied here.

* `validate_eq_ok_iff`: a check passes exactly when it has recorded nothing. This is not a matter of
  unfolding, for errors are joined before they are counted; it rests on every recorded error being
  flat, which is the class `FlatFailures`.
* one lemma per rule that says when the rule records nothing. They are simp lemmas, so that a whole
  check opens into the conjunction of what its rules ask for.
-/

set_option autoImplicit false

namespace WarehouseAdmin

/-! ## Checks that record flat errors -/

/-- The checks whose errors are flat, whatever they are given. -/
class FlatFailures (α : Type) [Validate α] : Prop where
  isFlat : ∀ a : α, ∀ e ∈ Validate.failures a, e.IsFlat

section
variable {es : List Error}

theorem conclude_eq_ok_iff : conclude es = .ok () ↔ Error.join es = none := by
  unfold conclude
  cases Error.join es with
  | none => simp
  | some e => simp

theorem conclude_eq_error_iff {e : Error} : conclude es = .error e ↔ Error.join es = some e := by
  unfold conclude
  cases Error.join es with
  | none => simp
  | some e => simp

/-- Whatever flat errors are recorded are given in one, and none is left out. -/
theorem conclude_of_ne_nil (hflat : ∀ e ∈ es, e.IsFlat) (hne : es ≠ []) :
    ∃ e, conclude es = .error e ∧ e.IsFlat ∧ e.errors = es.flatMap Error.errors := by
  cases hjoin : Error.join es with
  | none => exact absurd ((Error.join_eq_none_iff hflat).mp hjoin) hne
  | some e => exact ⟨e, conclude_eq_error_iff.mpr hjoin, Error.join_eq_some hflat hjoin⟩

end

section
variable {α : Type} [Validate α] [FlatFailures α]

theorem validate_eq_ok_iff {a : α} : validate a = .ok () ↔ Validate.failures a = [] :=
  conclude_eq_ok_iff.trans (Error.join_eq_none_iff (FlatFailures.isFlat a))

theorem isFlat_of_validate {a : α} {e : Error} (h : validate a = .error e) : e.IsFlat :=
  (Error.join_eq_some (FlatFailures.isFlat a) (conclude_eq_error_iff.mp h)).1

end

/-- A check that records an error of some kind fails with an error of that kind, whatever else it
records. -/
theorem is_of_validate {α : Type} [Validate α] {a : α} {k : ErrorKind} (hk : k ≠ .joined)
    (h : Error.anyIs k (Validate.failures a) = true) :
    ∃ e, validate a = .error e ∧ e.is k = true := by
  unfold validate conclude
  cases hjoin : Error.join (Validate.failures a) with
  | none =>
    rw [← Error.anyIs_flatMap_errors hk, Error.join_eq_none_iff_flatMap.mp hjoin] at h
    exact absurd h (by simp [Error.anyIs])
  | some e => exact ⟨e, rfl, (Error.is_of_join hjoin hk).trans h⟩

/-- Rendering is checking and then emitting. -/
theorem render_eq_ok_iff {α : Type} [Clause α] [Validate α] {a : α} {sql : String} :
    render a = .ok sql ↔ validate a = .ok () ∧ toSql a = .ok sql := by
  unfold render
  cases validate a with
  | error e => simp
  | ok u =>
    rw [eq_self, true_and]
    cases toSql a with
    | error e => exact iff_of_false (fun h => nomatch h) (fun h => nomatch h)
    | ok t =>
      constructor
      · intro h
        rw [Except.ok.inj h]
      · intro h
        rw [Except.ok.inj h]
        rfl

/-- What holds the same values and breaks the same rules is the same statement. -/
theorem render_congr {α β : Type} [Clause α] [Validate α] [Clause β] [Validate β] {a : α} {b : β}
    (hfailures : Validate.failures a = Validate.failures b)
    (hfields : Clause.fields a = Clause.fields b) : render a = render b := by
  have hvalidate : validate a = validate b := congrArg conclude hfailures
  have hsql : toSql a = toSql b := by rw [toSql, toSql, hfields]
  rw [render, render, hvalidate, hsql]

/-! ## When a rule records nothing -/

@[simp] theorem failIf_eq_nil {b : Bool} {f : ValidationFailure} :
    failIf b f = [] ↔ b = false := by
  cases b <;> simp [failIf]

@[simp] theorem validId_eq_nil {b : Bool} {request field : String} :
    validId b request field = [] ↔ b = true := by
  cases b <;> simp [validId]

@[simp] theorem anyIs_validId {b : Bool} {request field : String} :
    Error.anyIs .invalidIdentifier (validId b request field) = !b := by
  cases b <;> rfl

@[simp] theorem optionalId_eq_nil {α : Type} {id : Option α} {isValid : α → Bool}
    {request field : String} :
    optionalId id isValid request field = [] ↔ ∀ a, id = some a → isValid a = true := by
  cases id <;> simp [optionalId]

@[simp] theorem optionalGroup_eq_nil {α : Type} [Clause α] {group : Option α} {request : String} :
    optionalGroup group request = [] ↔ ∀ a, group = some a → isGiven a = true := by
  cases group <;> simp [optionalGroup]

@[simp] theorem nested_eq_nil {result : Except Error Unit} : nested result = [] ↔ result = .ok () := by
  cases result <;> simp [nested]

@[simp] theorem nestedOption_eq_nil {α : Type} [Validate α] {o : Option α} :
    nestedOption o = [] ↔ ∀ a, o = some a → validate a = .ok () := by
  cases o <;> simp [nestedOption]

@[simp] theorem tagFailures_eq_nil {tags : List Tag} {request field : String} :
    tagFailures tags request field = [] ↔
      ∀ t ∈ tags, t.name.isValid = true ∧ t.value ≠ "" := by
  simp [tagFailures, List.flatMap_eq_nil_iff]

@[simp] theorem tagNameFailures_eq_nil {names : List SchemaObjectId} {request field : String} :
    tagNameFailures names request field = [] ↔ ∀ id ∈ names, id.isValid = true := by
  simp [tagNameFailures, List.flatMap_eq_nil_iff]

@[simp] theorem exactlyOneOf_eq_nil {request : String} {names : List String} {fields : List Field} :
    exactlyOneOf request names fields = [] ↔
      (fieldsNamed names fields).countP (·.2.isSet) = 1 := by
  simp [exactlyOneOf, Given.exactlyOne, Given.count, List.countP_map, Function.comp_def]

/-! ## Every rule records flat errors -/

/-- Holds of a list of errors that are all flat. -/
def AllFlat (es : List Error) : Prop := ∀ e ∈ es, e.IsFlat

@[simp] theorem allFlat_nil : AllFlat [] := by
  simp [AllFlat]

@[simp] theorem allFlat_append {xs ys : List Error} :
    AllFlat (xs ++ ys) ↔ AllFlat xs ∧ AllFlat ys := by
  simp only [AllFlat, List.mem_append, or_imp, forall_and]

@[simp] theorem allFlat_flatMap {α : Type} {f : α → List Error} {as : List α} :
    AllFlat (as.flatMap f) ↔ ∀ a ∈ as, AllFlat (f a) := by
  simp only [AllFlat, List.mem_flatMap]
  exact ⟨fun h a ha e he => h e ⟨a, ha, he⟩, fun h e ⟨a, ha, he⟩ => h a ha e he⟩

@[simp] theorem allFlat_failIf {b : Bool} {f : ValidationFailure} : AllFlat (failIf b f) := by
  cases b <;> simp [failIf, AllFlat, Error.IsFlat]

@[simp] theorem allFlat_validId {b : Bool} {request field : String} :
    AllFlat (validId b request field) := by
  cases b <;> simp [validId, AllFlat, Error.IsFlat]

@[simp] theorem allFlat_optionalId {α : Type} {id : Option α} {isValid : α → Bool}
    {request field : String} : AllFlat (optionalId id isValid request field) :=
  allFlat_validId

@[simp] theorem allFlat_optionalGroup {α : Type} [Clause α] {group : Option α} {request : String} :
    AllFlat (optionalGroup group request) :=
  allFlat_failIf

@[simp] theorem allFlat_exactlyOneOf {request : String} {names : List String}
    {fields : List Field} : AllFlat (exactlyOneOf request names fields) :=
  allFlat_failIf

@[simp] theorem allFlat_tagFailures {tags : List Tag} {request field : String} :
    AllFlat (tagFailures tags request field) := by
  simp [tagFailures]

@[simp] theorem allFlat_tagNameFailures {names : List SchemaObjectId} {request field : String} :
    AllFlat (tagNameFailures names request field) := by
  simp [tagNameFailures]

/-- The errors of a nested check come as one error, which is flat because joining made it. -/
@[simp] theorem allFlat_nestedOption {α : Type} [Validate α] [FlatFailures α] {o : Option α} :
    AllFlat (nestedOption o) := by
  cases o with
  | none => simp [nestedOption]
  | some a =>
    intro e he
    cases h : validate a with
    | ok u => exact absurd he (by simp [nestedOption, nested, h])
    | error e' =>
      have hee : e = e' := by simpa [nestedOption, nested, h] using he
      exact hee ▸ isFlat_of_validate h

end WarehouseAdmin
