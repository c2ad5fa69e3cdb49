import WarehouseAdmin.Proofs.Clause.Shape
import WarehouseAdmin.Proofs.Request.Basic

/-!
# A checked request can be emitted

The two conditions of `toSql_isOk_of_isRegular` are met here for every request. That its fields are
regular has nothing to do with checking: it follows from the types of the fields alone, so it is an
instance (`RegularClause`), proved once per type and for all values of it. That its identifiers are
valid is what the check is for (`allValid_of_validate`). A rule that a request forgot, for a tag or
for the source of a clone, would show as an identifier that the goal asks for and no rule speaks of.
-/

set_option autoImplicit false

namespace WarehouseAdmin

open FieldValue

/-! ## Values of Lean types have the shape that their types give them -/

section
variable {α : Type} {spec : FieldSpec}

@[simp] theorem isRegular_bool {b : Bool} :
    (toFieldValue b).isRegular spec = (spec.takesText && spec.literal.isSome) := rfl

@[simp] theorem isRegular_int {n : Int} : (toFieldValue n).isRegular spec = spec.takesText := rfl

@[simp] theorem isRegular_string {s : String} :
    (toFieldValue s).isRegular spec = (spec.takesText && spec.showsBlank) := rfl

@[simp] theorem isRegular_constant [Constant α] {a : α} :
    (toFieldValue a).isRegular spec =
      (spec.takesText && (spec.showsBlank || !Text.isBlankText (Constant.sql a))) := rfl

@[simp] theorem isRegular_account {id : AccountObjectId} :
    (toFieldValue id).isRegular spec = (spec.kind == .identifier) := rfl

@[simp] theorem isRegular_database {id : DatabaseObjectId} :
    (toFieldValue id).isRegular spec = (spec.kind == .identifier) := rfl

@[simp] theorem isRegular_schema {id : SchemaObjectId} :
    (toFieldValue id).isRegular spec = (spec.kind == .identifier) := rfl

@[simp] theorem isRegular_function {id : FunctionId} :
    (toFieldValue id).isRegular spec = (spec.kind == .identifier) := rfl

@[simp] theorem isRegular_option [ToFieldValue α] {o : Option α} :
    (toFieldValue o).isRegular spec = true ↔
      (o = none → spec.modifiers.required = false) ∧
        ∀ a, o = some a → (toFieldValue a).isRegular spec = true := by
  cases o with
  | none => simp [toFieldValue, FieldValue.isRegular]
  | some a => simp [toFieldValue, FieldValue.isRegular]

end

/-- The clauses whose fields are regular, whatever they hold. -/
class RegularClause (α : Type) [Clause α] : Prop where
  isRegular : ∀ a : α, fieldsRegular (Clause.fields a) = true

@[simp] theorem isRegular_clause {α : Type} [Clause α] [RegularClause α] {spec : FieldSpec} {a : α} :
    (toFieldValue a).isRegular spec = spec.takesText := by
  show (spec.takesText && fieldsRegular (Clause.fields a)) = spec.takesText
  rw [RegularClause.isRegular, Bool.and_true]

theorem fieldsRegular_of {fields : List Field} (hs : fields.all (·.1.isRegular) = true)
    (hv : ∀ f ∈ fields, f.1.kind = .static ∨ f.2.isRegular f.1 = true) :
    fieldsRegular fields = true := by
  refine fieldsRegular_iff.mpr fun f hf => ?_
  rw [Field.isRegular, Bool.and_eq_true, Bool.or_eq_true, beq_iff_eq]
  exact ⟨List.all_eq_true.mp hs f hf, hv f hf⟩

/-! ## Every clause is regular -/

section

attribute [local simp] Clause.fields Field.fixed Field.keyword Field.parameter Field.identifier
  Field.required FieldSpec.takesText FieldSpec.showsBlank Modifiers.singleQuotes
  Modifiers.inParentheses Modifiers.bare

instance : RegularClause Like := ⟨fun r => fieldsRegular_of (by cbv) (by simp)⟩
instance : RegularClause Within := ⟨fun r => fieldsRegular_of (by cbv) (by simp)⟩
instance : RegularClause Limit := ⟨fun r => fieldsRegular_of (by cbv) (by simp)⟩
instance : RegularClause Tag := ⟨fun r => fieldsRegular_of (by cbv) (by simp)⟩
instance : RegularClause TimeTravel := ⟨fun r => fieldsRegular_of (by cbv) (by simp)⟩
instance : RegularClause ClonePoint := ⟨fun r => fieldsRegular_of (by cbv) (by simp)⟩

theorem elementsRegular_iff {vs : List FieldValue} :
    elementsRegular vs = true ↔ ∀ v ∈ vs, v.isRegularElement = true := by
  induction vs with
  | nil => simp [elementsRegular]
  | cons v rest ih => rw [elementsRegular, Bool.and_eq_true, ih, List.forall_mem_cons]

@[simp] theorem isRegular_tags {spec : FieldSpec} {tags : List Tag} :
    (toFieldValue tags).isRegular spec = (spec.kind == .keyword && spec.literal.isSome) := by
  have h : elementsRegular (tags.map toFieldValue) = true := by
    rw [elementsRegular_iff, List.forall_mem_map]
    intro tag _
    show (isNamed (Clause.fields tag) && fieldsRegular (Clause.fields tag)) = true
    rw [RegularClause.isRegular, Bool.and_true]
    rfl
  show (spec.kind == .keyword && spec.literal.isSome && elementsRegular (tags.map toFieldValue)) = _
  rw [h, Bool.and_true]

@[simp] theorem isRegular_names {spec : FieldSpec} {names : List SchemaObjectId} :
    (toFieldValue names).isRegular spec = (spec.kind == .keyword && spec.literal.isSome) := by
  have h : elementsRegular (names.map toFieldValue) = true := by
    rw [elementsRegular_iff, List.forall_mem_map]
    intro name _
    rfl
  show (spec.kind == .keyword && spec.literal.isSome && elementsRegular (names.map toFieldValue)) = _
  rw [h, Bool.and_true]

instance : RegularClause WarehouseSet := ⟨fun r => fieldsRegular_of (by cbv) (by simp)⟩
instance : RegularClause WarehouseUnset := ⟨fun r => fieldsRegular_of (by cbv) (by simp)⟩
instance : RegularClause DatabaseClone := ⟨fun r => fieldsRegular_of (by cbv) (by simp)⟩
instance : RegularClause DatabaseSet := ⟨fun r => fieldsRegular_of (by cbv) (by simp)⟩
instance : RegularClause DatabaseUnset := ⟨fun r => fieldsRegular_of (by cbv) (by simp)⟩
instance : RegularClause SchemaClone := ⟨fun r => fieldsRegular_of (by cbv) (by simp)⟩
instance : RegularClause SchemaSet := ⟨fun r => fieldsRegular_of (by cbv) (by simp)⟩
instance : RegularClause SchemaUnset := ⟨fun r => fieldsRegular_of (by cbv) (by simp)⟩
instance : RegularClause AlertCondition := ⟨fun r => fieldsRegular_of (by cbv) (by simp)⟩
instance : RegularClause AlertSet := ⟨fun r => fieldsRegular_of (by cbv) (by simp)⟩
instance : RegularClause AlertUnset := ⟨fun r => fieldsRegular_of (by cbv) (by simp)⟩

/-- The operation of an alert is the only constant that is written without quotes and without a
literal before it. -/
@[simp] theorem isBlankText_operation {a : AlertOperation} :
    Text.isBlankText (Constant.sql a) = false := by
  cases a <;> decide

instance : RegularClause Request where
  isRegular q := by
    cases q <;> exact fieldsRegular_of (by cbv) (by simp [Request.on])

end

/-! ## What has been checked holds valid identifiers only -/

section
variable {α : Type}

@[simp] theorem identifiers_bool {b : Bool} : (toFieldValue b).identifiers = [] := rfl

@[simp] theorem identifiers_int {n : Int} : (toFieldValue n).identifiers = [] := rfl

@[simp] theorem identifiers_string {s : String} : (toFieldValue s).identifiers = [] := rfl

@[simp] theorem identifiers_constant [Constant α] {a : α} : (toFieldValue a).identifiers = [] := rfl

@[simp] theorem identifiers_account {id : AccountObjectId} :
    (toFieldValue id).identifiers = [.account id] := rfl

@[simp] theorem identifiers_database {id : DatabaseObjectId} :
    (toFieldValue id).identifiers = [.database id] := rfl

@[simp] theorem identifiers_schema {id : SchemaObjectId} :
    (toFieldValue id).identifiers = [.schema id] := rfl

@[simp] theorem identifiers_function {id : FunctionId} :
    (toFieldValue id).identifiers = [.function id] := rfl

@[simp] theorem identifiers_clause [Clause α] {a : α} :
    (toFieldValue a).identifiers = fieldIdentifiers (Clause.fields a) := rfl

@[simp] theorem allValid_option [ToFieldValue α] {o : Option α} :
    AllValid (toFieldValue o).identifiers ↔ ∀ a, o = some a → AllValid (toFieldValue a).identifiers := by
  cases o with
  | none => simp [toFieldValue, identifiers]
  | some a => simp [toFieldValue, identifiers]

theorem elementIdentifiers_eq {vs : List FieldValue} :
    elementIdentifiers vs = vs.flatMap identifiers := by
  induction vs with
  | nil => rfl
  | cons v rest ih => rw [elementIdentifiers, ih, List.flatMap_cons]

@[simp] theorem allValid_list [ToFieldValue α] {as : List α} :
    AllValid (toFieldValue as).identifiers ↔ ∀ a ∈ as, AllValid (toFieldValue a).identifiers := by
  show AllValid (elementIdentifiers (as.map toFieldValue)) ↔ _
  rw [elementIdentifiers_eq, List.flatMap_map]
  simp only [AllValid, List.mem_flatMap]
  constructor
  · intro h a ha id hid
    exact h id ⟨a, ha, hid⟩
  · rintro h id ⟨a, ha, hid⟩
    exact h a ha id hid

end

/-- **What has been checked holds valid identifiers only**, also in its parts, in its groups of
properties and in its tags. -/
theorem allValid_of_validate {q : Request} (h : validate q = .ok ()) :
    AllValid (fieldIdentifiers (Clause.fields q)) := by
  rw [validate_eq_ok_iff] at h
  -- The rules on the left and the identifiers on the right, as two lists of conditions. The goal
  -- asks for nothing but the rules about identifiers.
  cases q <;>
    simp [Request.on, Validate.failures, AlertSet.failures, validate_eq_ok_iff] at h <;>
    simp [Request.on, Clause.fields, Field.fixed, Field.keyword, Field.parameter, Field.identifier,
      Field.required, fieldIdentifiers, identifiers, Identifier.isValid]
  all_goals grind

/-- **A request that has been checked can be emitted.** Its shape is regular whatever it holds, and the
check has found its identifiers valid; nothing else is needed. -/
theorem toSql_isOk_of_validate {q : Request} (h : validate q = .ok ()) :
    ∃ sql, toSql q = .ok sql :=
  toSql_isOk_of_isRegular (RegularClause.isRegular q) (allValid_of_validate h)

/-- A schema that is cloned at a point in time, with a comment and a tag. -/
def clonedSchema (comment owner : String) : Request := .createSchema {
  name := ⟨"lab", "copy"⟩
  clone := some ⟨⟨"lab", "main"⟩, some { atPoint := some { offset := some (-60) } }⟩
  comment := some comment
  tag := [⟨⟨"lab", "main", "owner"⟩, owner⟩] }

theorem toSql_isOk_clonedSchema :
    validate (clonedSchema "it's" "team 1") = .ok () ∧
      ∃ sql, toSql (clonedSchema "it's" "team 1") = .ok sql :=
  ⟨rfl, toSql_isOk_of_validate rfl⟩

end WarehouseAdmin
