import WarehouseAdmin.Proofs.Text.Plain
import WarehouseAdmin.Proofs.Clause.Form

/-!
# Fields of a regular shape

Whether a field can be emitted depends on two things of a very different nature. One is how its spec
and its value fit *in shape*: a flag needs a literal, an identifier field takes identifiers, the
elements of a list must not come to nothing. This is settled when a request is declared, whatever
the request holds. The other is whether the identifiers in it are *valid*, and that only a check can
tell.

So the shape is a `Bool` that is computed over the tree of a clause (`Field.isRegular`), and there is
a single theorem, `succeed_of_isRegular`: regular fields whose identifiers are all valid are
emitted. A request has to supply its shape once and the validity of its identifiers once, and never
has to look at the emission again.

Regular specs also have literals that are `plain`. That is not needed for the emission to succeed,
but it is part of the shape, and what is said about quotes later rests on it.
-/

set_option autoImplicit false

namespace WarehouseAdmin

namespace FieldSpec

/-- Says whether the field writes the text of its value. -/
def takesText (spec : FieldSpec) : Bool := spec.kind == .keyword || spec.kind == .parameter

/-- Says whether the spec does not contradict itself. -/
def isSound (spec : FieldSpec) : Bool :=
  match spec.fault? with
  | none => true
  | some _ => false

/-- A sound spec that never writes parentheses around nothing, with a plain literal if any. -/
def isRegular (spec : FieldSpec) : Bool :=
  spec.isSound && spec.kind != .list && !spec.modifiers.mustParentheses &&
    spec.literal.all Text.isPlain

/-- Says whether the field writes a token even for a text that is blank. -/
def showsBlank (spec : FieldSpec) : Bool := spec.literal.isSome || spec.modifiers.quotes == .single

end FieldSpec

/-- Says whether one of the fields must hold an identifier. -/
def isNamed (fields : List Field) : Bool := fields.any fun f => f.1.modifiers.required

namespace FieldValue

mutual

/-- Says whether the spec can emit a value of this shape, provided that its identifiers are valid. -/
def isRegular (spec : FieldSpec) : FieldValue → Bool
  | .flag _ => spec.takesText && spec.literal.isSome
  | .int _ => spec.takesText
  | .text _ => spec.takesText && spec.showsBlank
  | .constant sql => spec.takesText && (spec.showsBlank || !Text.isBlankText sql)
  | .identifier _ => spec.kind == .identifier
  | .absent => !spec.modifiers.required
  | .present v => v.isRegular spec
  | .many vs => spec.kind == .keyword && spec.literal.isSome && elementsRegular vs
  | .clause fields => spec.takesText && fieldsRegular fields
  | .unit | .float _ | .fragment _ => false

/-- Says whether the elements are identifiers or regular clauses that must hold one. -/
def elementsRegular : List FieldValue → Bool
  | [] => true
  | v :: rest => v.isRegularElement && elementsRegular rest

/-- Says whether the value is an identifier or a regular clause that must hold one. -/
def isRegularElement : FieldValue → Bool
  | .identifier _ => true
  | .clause fields => isNamed fields && fieldsRegular fields
  | _ => false

/-- Says whether every field is regular. -/
def fieldsRegular : List Field → Bool
  | [] => true
  | (spec, v) :: rest =>
    spec.isRegular && (spec.kind == .static || v.isRegular spec) && fieldsRegular rest

end

mutual

/-- All identifiers in the value, however deep. -/
def identifiers : FieldValue → List Identifier
  | .identifier id => [id]
  | .present v => v.identifiers
  | .many vs => elementIdentifiers vs
  | .clause fields => fieldIdentifiers fields
  | _ => []

/-- All identifiers in the elements. -/
def elementIdentifiers : List FieldValue → List Identifier
  | [] => []
  | v :: rest => v.identifiers ++ elementIdentifiers rest

/-- All identifiers in the fields. -/
def fieldIdentifiers : List Field → List Identifier
  | [] => []
  | (_, v) :: rest => v.identifiers ++ fieldIdentifiers rest

end

end FieldValue

/-- A regular spec with a value of a shape that it can emit. A static field never looks at its value. -/
def Field.isRegular (f : Field) : Bool :=
  f.1.isRegular && (f.1.kind == .static || f.2.isRegular f.1)

open FieldValue

theorem fieldsRegular_iff {fields : List Field} :
    fieldsRegular fields = true ↔ ∀ f ∈ fields, Field.isRegular f = true := by
  induction fields with
  | nil => simp [fieldsRegular]
  | cons f rest ih =>
    obtain ⟨spec, v⟩ := f
    rw [fieldsRegular, Bool.and_eq_true, ih, List.forall_mem_cons]
    rfl

theorem fieldIdentifiers_eq {fields : List Field} :
    fieldIdentifiers fields = fields.flatMap fun f => f.2.identifiers := by
  induction fields with
  | nil => rfl
  | cons f rest ih =>
    obtain ⟨spec, v⟩ := f
    rw [fieldIdentifiers, ih, List.flatMap_cons]

theorem anySet_iff {fields : List Field} :
    anySet fields = fields.any fun f => f.1.kind != .static && f.2.isSet := by
  induction fields with
  | nil => rfl
  | cons f rest ih =>
    obtain ⟨spec, v⟩ := f
    rw [anySet, ih, List.any_cons]

/-! ## What a regular spec is -/

namespace FieldSpec

theorem isSound_iff {spec : FieldSpec} : spec.isSound = true ↔ spec.fault? = none := by
  unfold isSound
  cases spec.fault? <;> simp

theorem isRegular_iff {spec : FieldSpec} :
    spec.isRegular = true ↔ spec.fault? = none ∧ spec.kind ≠ .list ∧
      spec.modifiers.mustParentheses = false ∧ ∀ l, spec.literal = some l → Text.isPlain l = true := by
  cases h : spec.literal <;> simp [isRegular, isSound_iff, h, and_assoc]

theorem takesText_iff {spec : FieldSpec} :
    spec.takesText = true ↔ spec.kind = .keyword ∨ spec.kind = .parameter := by
  simp [takesText]

/-- Only an identifier can be a must. -/
theorem kind_of_required {spec : FieldSpec} (hs : spec.fault? = none)
    (hr : spec.modifiers.required = true) : spec.kind = .identifier :=
  (fault?_eq_none_iff.mp hs).2.2.2.2.2 hr

/-- A spec that takes texts accepts everything but a list, if only it has a literal for a flag. -/
theorem fits_of_takesText {spec : FieldSpec} (ht : spec.takesText = true) {f : Fragment}
    (hflag : ∀ b, f = .flag b → spec.literal.isSome = true)
    (hlist : ∀ items, f = .list items → items.all Fragment.isElement = true) :
    spec.fits f = true := by
  rcases takesText_iff.mp ht with hk | hk
  · cases f with
    | flag b => simpa [fits, hk] using hflag b rfl
    | list items => simpa [fits, hk] using hlist items rfl
    | _ => simp [fits, hk]
  · cases f with
    | list items => simpa [fits, hk] using hlist items rfl
    | _ => simp [fits, hk]

theorem fits_unset {spec : FieldSpec} (hr : spec.modifiers.required = false) :
    spec.fits .unset = true := by
  cases hk : spec.kind <;> simp [fits, hk, hr]

end FieldSpec

/-! ## Regular fields are emitted -/

/-- Holds of identifiers that are all valid. -/
def AllValid (ids : List Identifier) : Prop := ∀ id ∈ ids, id.isValid = true

@[simp] theorem allValid_nil : AllValid [] := by
  simp [AllValid]

@[simp] theorem allValid_cons {id : Identifier} {ids : List Identifier} :
    AllValid (id :: ids) ↔ id.isValid = true ∧ AllValid ids :=
  List.forall_mem_cons

@[simp] theorem allValid_append {ids ids' : List Identifier} :
    AllValid (ids ++ ids') ↔ AllValid ids ∧ AllValid ids' := by
  simp only [AllValid, List.mem_append, or_imp, forall_and]

theorem isValid_of_allValid {id : Identifier} (h : AllValid (FieldValue.identifier id).identifiers) :
    id.isValid = true :=
  h id List.mem_cons_self

theorem allValid_of_mem {fields : List Field} (h : AllValid (fieldIdentifiers fields)) {f : Field}
    (hf : f ∈ fields) : AllValid f.2.identifiers := by
  intro id hid
  rw [fieldIdentifiers_eq] at h
  exact h id (List.mem_flatMap.mpr ⟨f, hf, hid⟩)

namespace Field

theorem succeeds_of_static {f : Field} (hs : f.1.isRegular = true) (hk : f.1.kind = .static) :
    f.Succeeds := by
  rw [FieldSpec.isRegular_iff] at hs
  simp [Succeeds, emission, FieldSpec.emit, hs.1, hk, Emission.of]

theorem succeeds_of_fits {f : Field} (hs : f.1.isRegular = true) {x : Fragment}
    (hv : f.2.toFragment = .ok x) (hx : f.1.fits x = true) : f.Succeeds := by
  rw [FieldSpec.isRegular_iff] at hs
  rw [Succeeds, emission, hv]
  exact (FieldSpec.emit_failure_eq_none_iff hs.1).mpr hx

end Field

/-- A value that must be an identifier counts as given once it is valid. -/
theorem isSet_of_required {spec : FieldSpec} (hs : spec.isRegular = true)
    (hr : spec.modifiers.required = true) {v : FieldValue} (hv : v.isRegular spec = true)
    (hids : AllValid v.identifiers) : v.isSet = true := by
  have hk := FieldSpec.kind_of_required (FieldSpec.isRegular_iff.mp hs).1 hr
  cases v with
  | identifier id => exact isValid_of_allValid hids
  | present v => rfl
  | _ => exact absurd hv (by simp [FieldValue.isRegular, FieldSpec.takesText, hk, hr])

/-- A clause that must hold an identifier counts as given once its identifiers are valid. -/
theorem isSet_of_isNamed {fields : List Field} (hn : isNamed fields = true)
    (hf : fieldsRegular fields = true) (hids : AllValid (fieldIdentifiers fields)) :
    isSet (.clause fields) = true := by
  obtain ⟨f, hmem, hr⟩ := List.any_eq_true.mp hn
  have hreg := fieldsRegular_iff.mp hf f hmem
  rw [Field.isRegular, Bool.and_eq_true] at hreg
  have hk := FieldSpec.kind_of_required (FieldSpec.isRegular_iff.mp hreg.1).1 hr
  have hv : f.2.isRegular f.1 = true := by simpa [hk] using hreg.2
  have hset := isSet_of_required hreg.1 hr hv (allValid_of_mem hids hmem)
  rw [isSet, anySet_iff, Bool.or_eq_true, List.any_eq_true]
  exact Or.inr ⟨f, hmem, by simp [hk, hset]⟩

theorem toFragment_text {s : String} (h : s ≠ "") : toFragment (.text s) = .ok (.text s) := by
  rw [toFragment, if_neg h]

theorem toFragment_identifier {id : Identifier} (h : id.isValid = true) :
    toFragment (.identifier id) = .ok (.identifier id.qualifiedName) := by
  rw [toFragment, if_pos h]

theorem toFragment_many {vs : List FieldValue} {items : List Fragment}
    (h : toFragments vs = .ok items) : toFragment (.many vs) = .ok (.list items) := by
  rw [toFragment, h]
  rfl

theorem toFragments_cons {v : FieldValue} {rest : List FieldValue} {x : Fragment}
    {items : List Fragment} (hv : v.toFragment = .ok x) (hrest : toFragments rest = .ok items) :
    toFragments (v :: rest) = .ok (x :: items) := by
  rw [toFragments, hv, hrest]
  rfl

theorem exists_of_toFragments_cons {v : FieldValue} {rest : List FieldValue} {items : List Fragment}
    (h : toFragments (v :: rest) = .ok items) :
    ∃ x others, v.toFragment = .ok x ∧ toFragments rest = .ok others ∧ x :: others = items := by
  rw [toFragments] at h
  cases hv : v.toFragment with
  | error e => exact absurd h (by simp [hv])
  | ok x =>
    rw [hv] at h
    obtain ⟨others, hothers, hitems⟩ := exists_of_map_eq_ok h
    exact ⟨x, others, rfl, hothers, hitems⟩

theorem toFragment_clause {fields : List Field} (h : ∀ f ∈ fields, f.Succeeds) :
    toFragment (.clause fields) =
      .ok (if isSet (.clause fields) then .clause (fields.flatMap Field.tokens) else .unset) := by
  rw [toFragment]
  by_cases hset : isSet (.clause fields) = true
  · rw [if_pos hset, if_pos hset, writeFields_eq h]
    rfl
  · rw [if_neg hset, if_neg hset]

mutual

/-- A regular value whose identifiers are valid comes to a fragment that its spec accepts. The
induction is over the tree of the value; the elements of a list and the fields of a clause have
statements of their own. -/
theorem fits_of_isRegular {spec : FieldSpec} : (v : FieldValue) → v.isRegular spec = true →
    AllValid v.identifiers → ∃ x, v.toFragment = .ok x ∧ spec.fits x = true
  | .flag b => by
    intro h _
    rw [FieldValue.isRegular, Bool.and_eq_true] at h
    exact ⟨.flag b, rfl, FieldSpec.fits_of_takesText h.1 (fun _ _ => h.2) (by simp)⟩
  | .int n => by
    intro h _
    exact ⟨.int n, rfl, FieldSpec.fits_of_takesText h (by simp) (by simp)⟩
  | .text s => by
    intro h _
    rw [FieldValue.isRegular, Bool.and_eq_true] at h
    by_cases hs : s = ""
    · exact ⟨.unset, by rw [toFragment, if_pos hs], FieldSpec.fits_of_takesText h.1 (by simp) (by simp)⟩
    · exact ⟨.text s, toFragment_text hs, FieldSpec.fits_of_takesText h.1 (by simp) (by simp)⟩
  | .constant sql => by
    intro h _
    rw [FieldValue.isRegular, Bool.and_eq_true] at h
    exact ⟨.text sql, rfl, FieldSpec.fits_of_takesText h.1 (by simp) (by simp)⟩
  | .identifier id => by
    intro h hids
    have hk : spec.kind = .identifier := by simpa [FieldValue.isRegular] using h
    exact ⟨_, toFragment_identifier (isValid_of_allValid hids), by simp [FieldSpec.fits, hk]⟩
  | .absent => by
    intro h _
    exact ⟨.unset, rfl, FieldSpec.fits_unset (by simpa [FieldValue.isRegular] using h)⟩
  | .present v => by
    intro h hids
    exact fits_of_isRegular v h hids
  | .many vs => by
    intro h hids
    simp only [FieldValue.isRegular, Bool.and_eq_true, beq_iff_eq] at h
    obtain ⟨⟨hk, _⟩, hvs⟩ := h
    obtain ⟨items, hitems, hall⟩ := elements_of_isRegular vs hvs hids
    refine ⟨.list items, toFragment_many hitems, ?_⟩
    simpa [FieldSpec.fits, hk] using hall
  | .clause fields => by
    intro h hids
    rw [FieldValue.isRegular, Bool.and_eq_true] at h
    have hsucc := succeed_of_isRegular fields h.2 hids
    refine ⟨_, toFragment_clause hsucc, FieldSpec.fits_of_takesText h.1 ?_ ?_⟩
    all_goals
      intro _ hx
      split at hx <;> exact absurd hx (by simp)
  | .unit | .float _ | .fragment _ => by
    intro h _
    exact absurd h (by simp [FieldValue.isRegular])

theorem elements_of_isRegular : (vs : List FieldValue) → elementsRegular vs = true →
    AllValid (elementIdentifiers vs) →
    ∃ items, toFragments vs = .ok items ∧ items.all Fragment.isElement = true
  | [] => fun _ _ => ⟨[], rfl, rfl⟩
  | v :: rest => by
    intro h hids
    rw [elementsRegular, Bool.and_eq_true] at h
    rw [elementIdentifiers, allValid_append] at hids
    obtain ⟨x, hx, hel⟩ := element_of_isRegular v h.1 hids.1
    obtain ⟨items, hitems, hall⟩ := elements_of_isRegular rest h.2 hids.2
    refine ⟨x :: items, toFragments_cons hx hitems, ?_⟩
    rw [List.all_cons, hel, hall]
    rfl

theorem element_of_isRegular : (v : FieldValue) → v.isRegularElement = true →
    AllValid v.identifiers → ∃ x, v.toFragment = .ok x ∧ x.isElement = true
  | .identifier id => by
    intro _ hids
    exact ⟨_, toFragment_identifier (isValid_of_allValid hids), rfl⟩
  | .clause fields => by
    intro h hids
    rw [isRegularElement, Bool.and_eq_true] at h
    have hsucc := succeed_of_isRegular fields h.2 hids
    refine ⟨_, toFragment_clause hsucc, ?_⟩
    rw [if_pos (isSet_of_isNamed h.1 h.2 hids)]
    rfl
  | .unit | .flag _ | .int _ | .float _ | .text _ | .constant _ | .absent | .present _ | .many _
  | .fragment _ => by
    intro h _
    exact absurd h (by simp [isRegularElement])

theorem succeed_of_isRegular : (fields : List Field) → fieldsRegular fields = true →
    AllValid (fieldIdentifiers fields) → ∀ f ∈ fields, f.Succeeds
  | [] => by
    intro _ _ f hf
    exact absurd hf (by simp)
  | (spec, v) :: rest => by
    intro h hids
    simp only [fieldsRegular, Bool.and_eq_true, Bool.or_eq_true, beq_iff_eq] at h
    obtain ⟨⟨hs, hv⟩, hrest⟩ := h
    rw [fieldIdentifiers, allValid_append] at hids
    rw [List.forall_mem_cons]
    refine ⟨?_, succeed_of_isRegular rest hrest hids.2⟩
    rcases hv with hk | hv
    · exact Field.succeeds_of_static hs hk
    · obtain ⟨x, hx, hfits⟩ := fits_of_isRegular v hv hids.1
      exact Field.succeeds_of_fits hs hx hfits

end

/-- **Regular fields are emitted** if the identifiers in them are all valid. -/
theorem toSql_isOk_of_isRegular {α : Type} [Clause α] {a : α}
    (hf : fieldsRegular (Clause.fields a) = true)
    (hids : AllValid (fieldIdentifiers (Clause.fields a))) : ∃ sql, toSql a = .ok sql :=
  ⟨_, toSql_eq_ok_iff.mpr ⟨succeed_of_isRegular _ hf hids, rfl⟩⟩

end WarehouseAdmin
