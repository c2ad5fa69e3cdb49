import WarehouseAdmin.Clause.Value

/-!
# Emission, one field at a time

`writeFields` threads an emission through a list of fields and stops at the first that fails. This
file takes it apart into what each field does alone: a clause is emitted exactly when every field
is (`writeFields_failure_eq_none`), and then its tokens are those of its fields, one after another
(`writeFields_eq`).

Whether a single field fails has an exact answer about the *fragment* its value comes to. `fits` says
which fragments a spec accepts, and `emit_failure_eq_none_iff` says that these are all.
-/

set_option autoImplicit false

namespace WarehouseAdmin

open FieldValue

namespace Field

/-- What the field does when it is emitted alone. -/
def emission (f : Field) : Emission := f.1.emit f.2.toFragment

/-- The tokens that the field adds. -/
def tokens (f : Field) : List String := f.emission.tokens

/-- Says whether the field adds any token. -/
def contributes (f : Field) : Bool := !f.tokens.isEmpty

/-- The field does not fail. -/
def Succeeds (f : Field) : Prop := f.emission.failure = none

theorem contributes_eq_true {f : Field} : f.contributes = true ↔ f.tokens ≠ [] := by
  simp [contributes]

theorem contributes_eq_false {f : Field} : f.contributes = false ↔ f.tokens = [] := by
  simp [contributes]

end Field

/-! ## A clause is its fields, one after another -/

theorem writeFields_cons {f : Field} {rest : List Field} (h : f.Succeeds) :
    writeFields (f :: rest) =
      ⟨f.tokens ++ (writeFields rest).tokens, (writeFields rest).failure⟩ := by
  obtain ⟨spec, v⟩ := f
  rw [writeFields]
  have hf : (spec.emit v.toFragment).failure = none := h
  simp only [hf]
  rfl

theorem writeFields_cons_of_failure {f : Field} {rest : List Field} {e : EmissionError}
    (h : f.emission.failure = some e) : writeFields (f :: rest) = f.emission := by
  obtain ⟨spec, v⟩ := f
  rw [writeFields]
  have hf : (spec.emit v.toFragment).failure = some e := h
  simp only [hf]
  rfl

theorem writeFields_failure_eq_none {fields : List Field} :
    (writeFields fields).failure = none ↔ ∀ f ∈ fields, f.Succeeds := by
  induction fields with
  | nil => simp [writeFields, Emission.nothing]
  | cons f rest ih =>
    cases hf : f.emission.failure with
    | none =>
      have hs : f.Succeeds := hf
      rw [writeFields_cons hs, List.forall_mem_cons, ← ih]
      exact ⟨fun h => ⟨hs, h⟩, fun h => h.2⟩
    | some e =>
      rw [writeFields_cons_of_failure hf, hf, List.forall_mem_cons]
      exact ⟨fun h => absurd h (by simp), fun h => absurd (h.1.symm.trans hf) (by simp)⟩

theorem writeFields_eq {fields : List Field} (h : ∀ f ∈ fields, f.Succeeds) :
    writeFields fields = ⟨fields.flatMap Field.tokens, none⟩ := by
  induction fields with
  | nil => rfl
  | cons f rest ih =>
    rw [List.forall_mem_cons] at h
    rw [writeFields_cons h.1, ih h.2, List.flatMap_cons]

section
variable {α : Type} [Clause α] {a : α}

theorem toSql_eq_ok_iff {sql : String} :
    toSql a = .ok sql ↔ (∀ f ∈ Clause.fields a, f.Succeeds) ∧
      sql = statement ((Clause.fields a).flatMap Field.tokens) := by
  unfold toSql Emission.result
  cases hf : (writeFields (Clause.fields a)).failure with
  | none =>
    have hs := writeFields_failure_eq_none.mp hf
    rw [writeFields_eq hs]
    simp only [Except.map, Except.ok.injEq]
    exact ⟨fun h => ⟨hs, h.symm⟩, fun h => h.2.symm⟩
  | some e =>
    simp only [Except.map, reduceCtorEq, false_iff]
    rintro ⟨hs, -⟩
    exact absurd (hf.symm.trans (writeFields_failure_eq_none.mpr hs)) (by simp)

end

/-! ## When a field fails -/

namespace Fragment

/-- Says whether the fragment can be an element of a list. -/
def isElement : Fragment → Bool
  | .unset => false
  | .list _ => false
  | _ => true

/-- Says whether the fragment is neither a clause nor a list. -/
def isLeaf : Fragment → Bool
  | .clause _ => false
  | .list _ => false
  | _ => true

theorem scalar?_isSome {f : Fragment} (hset : f ≠ .unset) (hleaf : f.isLeaf = true)
    (quotes : Quotes) : (f.scalar? quotes).isSome = true := by
  cases f with
  | unset => exact absurd rfl hset
  | flag b => cases b <;> rfl
  | text s => cases quotes <;> rfl
  | int n => rfl
  | float x => rfl
  | identifier name => rfl
  | clause tokens => exact absurd hleaf (by simp [isLeaf])
  | list items => exact absurd hleaf (by simp [isLeaf])

end Fragment

namespace FieldSpec

/-- Says whether the spec accepts the fragment that a value has come to. -/
def fits (spec : FieldSpec) (f : Fragment) : Bool :=
  match spec.kind, f with
  | .static, _ => true
  | .keyword, .flag _ => spec.literal.isSome
  | .keyword, .list items => items.all Fragment.isElement
  | .keyword, _ => true
  | .identifier, .unset => !spec.modifiers.required
  | .identifier, .identifier _ => true
  | .identifier, .list items => items.all Fragment.isIdentifier
  | .identifier, _ => false
  | .parameter, .list items => items.all Fragment.isElement
  | .parameter, _ => true
  | .list, .unset => true
  | .list, .list items => items.all Fragment.isElement
  | .list, _ => false

theorem scalarText_eq_ok (spec : FieldSpec) {f : Fragment} (hset : f ≠ .unset)
    (hleaf : f.isLeaf = true) : ∃ text, spec.scalarText f = .ok text := by
  obtain ⟨text, ht⟩ := Option.isSome_iff_exists.mp
    (Fragment.scalar?_isSome hset hleaf spec.modifiers.quotes)
  exact ⟨text, by rw [scalarText, ht]⟩

theorem elementText_leaf {spec : FieldSpec} {f : Fragment} (hset : f ≠ .unset)
    (hleaf : f.isLeaf = true) : spec.elementText f = (spec.scalarText f).map some := by
  cases f with
  | unset => exact absurd rfl hset
  | clause tokens => exact absurd hleaf (by simp [Fragment.isLeaf])
  | list items => exact absurd hleaf (by simp [Fragment.isLeaf])
  | _ => rfl

theorem valueText_leaf {spec : FieldSpec} {f : Fragment} (hleaf : f.isLeaf = true) :
    spec.valueText f = spec.scalarText f := by
  cases f with
  | clause tokens => exact absurd hleaf (by simp [Fragment.isLeaf])
  | list items => exact absurd hleaf (by simp [Fragment.isLeaf])
  | _ => rfl

theorem elementText_isOk (spec : FieldSpec) {f : Fragment} :
    (∃ text, spec.elementText f = .ok text) ↔ f.isElement = true := by
  by_cases hset : f = .unset
  · simp [hset, elementText, Fragment.isElement]
  by_cases hleaf : f.isLeaf = true
  · obtain ⟨text, ht⟩ := scalarText_eq_ok spec hset hleaf
    have helem : f.isElement = true := by
      cases f <;> simp_all [Fragment.isElement, Fragment.isLeaf]
    rw [elementText_leaf hset hleaf, ht]
    exact ⟨fun _ => helem, fun _ => ⟨some text, rfl⟩⟩
  · cases f with
    | clause tokens => cases tokens <;> simp [elementText, Fragment.isElement]
    | list items => simp [elementText, Fragment.isElement]
    | _ => exact absurd rfl hleaf

theorem elementTexts_isOk (spec : FieldSpec) {items : List Fragment} :
    (∃ texts, spec.elementTexts items = .ok texts) ↔ items.all Fragment.isElement = true := by
  induction items with
  | nil => simp [elementTexts]
  | cons f rest ih =>
    rw [elementTexts, List.all_cons, Bool.and_eq_true, ← ih, ← elementText_isOk spec]
    cases spec.elementText f with
    | error e => simp
    | ok text => cases spec.elementTexts rest <;> simp [Except.map]

theorem listText_isOk (spec : FieldSpec) {items : List Fragment} :
    (∃ text, spec.listText items = .ok text) ↔ items.all Fragment.isElement = true := by
  rw [← elementTexts_isOk spec, listText]
  cases spec.elementTexts items <;> simp [Except.map]

/-- The value of a field has a text unless it is unset, or a list with an element that has none. -/
theorem valueText_isOk {spec : FieldSpec} {f : Fragment} (hset : f ≠ .unset) :
    (∃ text, spec.valueText f = .ok text) ↔
      ∀ items, f = .list items → items.all Fragment.isElement = true := by
  by_cases hleaf : f.isLeaf = true
  · obtain ⟨text, ht⟩ := scalarText_eq_ok spec hset hleaf
    rw [valueText_leaf hleaf, ht]
    refine ⟨fun _ items hitems => ?_, fun _ => ⟨text, rfl⟩⟩
    exact absurd hleaf (by simp [hitems, Fragment.isLeaf])
  · cases f with
    | clause tokens => simp [valueText]
    | list items => simp [valueText, listText_isOk]
    | _ => exact absurd rfl hleaf

theorem emitValue_failure {spec : FieldSpec} {before : List String}
    {value : Except EmissionError String} :
    (spec.emitValue before value).failure = none ↔ ∃ text, value = .ok text := by
  cases value <;> simp [emitValue, Emission.fail, Emission.of]

theorem emitItems_failure {spec : FieldSpec} {items : List Fragment} :
    (spec.emitItems items).failure = none ↔ items.all Fragment.isElement = true := by
  unfold emitItems
  split
  · rename_i h
    simp only [Bool.and_eq_true, List.isEmpty_iff] at h
    simp [h.1, Emission.nothing]
  · rw [← listText_isOk spec]
    split <;> simp_all [Emission.of]

/-- A sound spec of a kind that needs a literal has one. -/
theorem literal_of_fault? {spec : FieldSpec} (hs : spec.fault? = none)
    (hk : spec.kind = .static ∨ spec.kind = .parameter) : ∃ l, spec.literal = some l := by
  cases hl : spec.literal with
  | some l => exact ⟨l, rfl⟩
  | none =>
    unfold fault? at hs
    rw [if_pos ⟨hk, hl⟩] at hs
    exact absurd hs (by simp)

theorem emitKeyword_failure {spec : FieldSpec} (hk : spec.kind = .keyword) {f : Fragment} :
    (spec.emitKeyword f).failure = none ↔ spec.fits f = true := by
  unfold emitKeyword
  by_cases hset : f.isSet = true
  · rw [if_pos hset]
    cases f with
    | unset => exact absurd hset (by simp [Fragment.isSet])
    | flag b =>
      cases hl : spec.literal with
      | none => simp [fits, hk, hl, Emission.fail]
      | some l => cases b <;> simp [fits, hk, hl, Emission.of, Emission.nothing]
    | list items => simp [fits, hk, emitValue_failure, valueText, listText_isOk]
    | _ =>
      rw [emitValue_failure, valueText_isOk (by simp)]
      simp [fits, hk]
  · rw [if_neg hset]
    cases f with
    | flag b => exact absurd rfl hset
    | list items =>
      have : items = [] := by simpa [Fragment.isSet] using hset
      simp [this, fits, hk, Emission.nothing]
    | _ => simp [fits, hk, Emission.nothing]

/-- Names can be elements of a list. -/
theorem isElement_of_isIdentifier {items : List Fragment}
    (h : items.all Fragment.isIdentifier = true) : items.all Fragment.isElement = true := by
  rw [List.all_eq_true] at h ⊢
  intro f hf
  have hi : f.isIdentifier = true := h f hf
  cases f <;> simp_all [Fragment.isElement, Fragment.isIdentifier]

theorem emitIdentifier_list {spec : FieldSpec} {f : Fragment} {rest : List Fragment} :
    spec.emitIdentifier (.list (f :: rest)) =
      if (f :: rest).all Fragment.isIdentifier then
        spec.emitValue spec.identifierLead (spec.listText (f :: rest))
      else .fail (spec.misfit .notIdentifiers) := rfl

theorem emitIdentifier_failure {spec : FieldSpec} (hk : spec.kind = .identifier) {f : Fragment} :
    (spec.emitIdentifier f).failure = none ↔ spec.fits f = true := by
  cases f with
  | unset =>
    cases hr : spec.modifiers.required <;>
      simp [emitIdentifier, fits, hk, hr, Emission.fail, Emission.nothing]
  | identifier name => simp [emitIdentifier, fits, hk, Emission.of]
  | list items =>
    have hfits : spec.fits (.list items) = items.all Fragment.isIdentifier := by
      simp only [fits, hk]
    rw [hfits]
    cases items with
    | nil => simp [emitIdentifier, Emission.nothing]
    | cons f rest =>
      rw [emitIdentifier_list]
      by_cases hall : (f :: rest).all Fragment.isIdentifier = true
      · rw [if_pos hall, emitValue_failure, listText_isOk]
        exact ⟨fun _ => hall, isElement_of_isIdentifier⟩
      · rw [if_neg hall]
        exact ⟨fun h => absurd h (by simp [Emission.fail]), fun h => absurd h hall⟩
  | _ => simp [emitIdentifier, fits, hk, Emission.fail]

theorem emitParameter_failure {spec : FieldSpec} (hs : spec.fault? = none)
    (hk : spec.kind = .parameter) {f : Fragment} :
    (spec.emitParameter f).failure = none ↔ spec.fits f = true := by
  obtain ⟨l, hl⟩ := literal_of_fault? hs (Or.inr hk)
  unfold emitParameter
  rw [hl]
  by_cases hskip : spec.parameterSkips f = true
  · simp only [hskip, if_true]
    cases f with
    | list items =>
      have : items = [] := by
        simp only [parameterSkips, Fragment.isSet, Bool.and_eq_true] at hskip
        simpa using hskip.1
      simp [this, fits, hk, Emission.nothing]
    | _ => simp [fits, hk, Emission.nothing]
  · have hset : f ≠ .unset := by
      rintro rfl
      exact hskip rfl
    simp only [hskip, if_false, Bool.false_eq_true]
    rw [emitValue_failure, valueText_isOk hset]
    cases f <;> simp [fits, hk]

theorem emitList_failure {spec : FieldSpec} (hk : spec.kind = .list) {f : Fragment} :
    (spec.emitList f).failure = none ↔ spec.fits f = true := by
  cases f with
  | unset => simp [emitList, fits, hk, emitItems_failure]
  | list items => simp [emitList, fits, hk, emitItems_failure]
  | _ => simp [emitList, fits, hk, Emission.fail]

/-- **A sound spec fails exactly on the fragments that do not fit.** One case per kind. -/
theorem emit_failure_eq_none_iff {spec : FieldSpec} (hs : spec.fault? = none) {f : Fragment} :
    (spec.emit (.ok f)).failure = none ↔ spec.fits f = true := by
  unfold emit
  rw [hs]
  cases hk : spec.kind with
  | static => simp [fits, hk, Emission.of]
  | keyword => exact emitKeyword_failure hk
  | identifier => exact emitIdentifier_failure hk
  | parameter => exact emitParameter_failure hs hk
  | list => exact emitList_failure hk

end FieldSpec

end WarehouseAdmin
