import WarehouseAdmin.Proofs.Clause.Builder

/-!
# Values that are not set

`isSet` and `toFragment` are two recursions over the tree of a value that do not know of each other.
They agree in this: a value that is not set comes to an unset fragment or to the empty list, and it
does so without a look at what is inside it (`toFragment_of_not_isSet`). So neither the literals of a
clause that is not set nor the faults of its fields are ever met. The one value that is not set and
comes to something is a bare flag that does not hold.

Both ends are passed over by every kind of field, provided that no identifier is required and that
parentheses are no must.
-/

set_option autoImplicit false

namespace WarehouseAdmin

open FieldValue

namespace FieldValue

/-- What is there under the options around a value. -/
def content : FieldValue → FieldValue
  | .present v => v.content
  | v => v

theorem toFragment_content : (v : FieldValue) → v.content.toFragment = v.toFragment
  | .present v => by
    rw [content, toFragment]
    exact toFragment_content v
  | .unit | .flag _ | .int _ | .float _ | .text _ | .identifier _ | .constant _ | .absent | .many _
  | .clause _ | .fragment _ => rfl

/-- **What a value that is not set comes to.** One case per constructor; the fields of a clause are
not looked at. -/
theorem toFragment_of_not_isSet {v : FieldValue} (hset : v.isSet = false) (hflag : ∀ b, v ≠ .flag b)
    (hraw : ∀ f, v ≠ .fragment f) :
    v.toFragment = .ok .unset ∨ (v = .many [] ∧ v.toFragment = .ok (.list [])) := by
  cases v with
  | unit => exact Or.inl rfl
  | absent => exact Or.inl rfl
  | flag b => exact absurd rfl (hflag b)
  | fragment f => exact absurd rfl (hraw f)
  | text s =>
    have hs : s = "" := by simpa [isSet] using hset
    exact Or.inl (by rw [toFragment, if_pos hs])
  | identifier id =>
    have hid : ¬ id.isValid = true := by simpa [isSet] using hset
    exact Or.inl (by rw [toFragment, if_neg hid])
  | many vs =>
    have hvs : vs = [] := by simpa [isSet] using hset
    subst hvs
    exact Or.inr ⟨rfl, rfl⟩
  | clause fields => exact Or.inl (by rw [toFragment, if_neg (by simp [hset])])
  | int n => exact nomatch hset
  | float x => exact nomatch hset
  | constant sql => exact nomatch hset
  | present v => exact nomatch hset

end FieldValue

namespace FieldSpec

variable {spec : FieldSpec} {f : Fragment}

/-- An unset fragment and the empty list are passed over. -/
theorem emit_of_void (hs : spec.fault? = none) (hk : spec.kind ≠ .static)
    (hr : spec.modifiers.required = false) (hm : spec.modifiers.mustParentheses = false)
    (hf : f = .unset ∨ f = .list []) : spec.emit (.ok f) = .nothing := by
  have hset : f.isSet = false := by rcases hf with rfl | rfl <;> rfl
  have hfits : spec.fits f = true := by
    rcases hf with rfl | rfl
    · exact fits_unset hr
    · cases h : spec.kind <;> simp [fits, h]
  exact emit_of_passesOver hs hk hfits (by rw [passesOver_eq_not_isSet hm, hset]; rfl)

end FieldSpec

/-- **What is not set adds nothing.** Let a field be sound, neither static nor required, and without
parentheses that are a must. Whatever the builder,

* a value that is not set leaves it as it was, and the field does not fail. The value may be of any of
  the types that fields have, however deep, but for a flag without an option around it;
* so does a clause that is not set, under however many options. The literals of its static fields are
  not written, and it does not matter how its fields would fail. -/
theorem unset_adds_nothing {spec : FieldSpec} (hs : spec.check = .ok ()) (hk : spec.kind ≠ .static)
    (hr : spec.modifiers.required = false) (hm : spec.modifiers.mustParentheses = false)
    (b : Builder) :
    (∀ v : FieldValue, v.isSet = false → (∀ x, v ≠ .flag x) → (∀ f, v ≠ .fragment f) →
      (Writing.field (spec, v)).on b = (.ok (), b)) ∧
    (∀ (v : FieldValue) (fields : List Field), v.content = .clause fields →
      FieldValue.isSet (.clause fields) = false → (Writing.field (spec, v)).on b = (.ok (), b)) := by
  have hsound := FieldSpec.check_eq_ok_iff.mp hs
  have hvoid : ∀ (v : FieldValue) (f : Fragment), v.toFragment = .ok f → f = .unset ∨ f = .list [] →
      (Writing.field (spec, v)).on b = (.ok (), b) := by
    intro v f hv hf
    apply Writing.field_of_nothing
    rw [Field.emission, hv]
    exact FieldSpec.emit_of_void hsound hk hr hm hf
  constructor
  · intro v hset hflag hraw
    rcases toFragment_of_not_isSet hset hflag hraw with hv | ⟨-, hv⟩
    · exact hvoid v .unset hv (Or.inl rfl)
    · exact hvoid v (.list []) hv (Or.inr rfl)
  · intro v fields hcontent hset
    have hclause : toFragment (.clause fields) = .ok .unset := by
      rw [toFragment, if_neg (by simp [hset])]
    rw [← hcontent, toFragment_content] at hclause
    exact hvoid v .unset hclause (Or.inl rfl)

/-- A clause with a literal of its own and with a field that needs a literal and has none. Written for
itself it fails; as the value of a keyword it is passed over, also when it is optional and there. -/
theorem unset_adds_nothing_faultyClause :
    let faulty : Field := ({ name := "limit", kind := .parameter }, .absent)
    let fields : List Field := [Field.fixed "with" "WITH", faulty]
    let clause : FieldValue := .clause fields
    let spec : FieldSpec := { name := "grant", kind := .keyword, literal := some "GRANT" }
    let started : Builder := { tokens := ["SHOW"] }
    clause.isSet = false ∧
      (Writing.fields fields).collect = .error (.missingLiteral "limit" .parameter) ∧
      (Writing.field (spec, clause)).on started = (.ok (), started) ∧
      (Writing.field (spec, .present clause)).on started = (.ok (), started) := by
  intro faulty fields clause spec started
  have hset : clause.isSet = false := rfl
  obtain ⟨hunset, hunder⟩ := @unset_adds_nothing spec rfl (by decide) rfl rfl started
  refine ⟨hset, rfl, hunset clause hset nofun nofun, hunder (.present clause) _ rfl hset⟩

end WarehouseAdmin
