import WarehouseAdmin.Proofs.Clause.Unset

/-!
# Parentheses that are a must

A parameter and a list field whose parentheses are a must write a sequence in the same way: the
literal, with the sign that belongs to it, and behind it what the elements show, in one pair of
parentheses, also if there are no elements. They part company over a sequence that is not there. A
parameter passes over it; a list field takes it for an empty one.
-/

set_option autoImplicit false

namespace WarehouseAdmin

open FieldValue

namespace FieldSpec

variable {spec : FieldSpec}

/-- A field that puts its value in parentheses adds it with them, whatever its literal. -/
theorem field_of_wrapped {v : FieldValue} {f : Fragment} {text : String} (hs : spec.fault? = none)
    (hw : spec.wraps = true) (hv : v.toFragment = .ok f)
    (hemit : spec.emit (.ok f) = .of (spec.lead ++ [spec.wrap text])) (b : Builder) :
    (Writing.field (spec, v)).on b = (.ok (), b.add spec ("(" ++ text ++ ")")) := by
  have hemission : Field.emission (spec, v) = .of (spec.lead ++ [spec.wrap text]) := by
    rw [Field.emission, hv, hemit]
  rw [← wrap_eq hw]
  exact Writing.field_of_lead hs hemission (isTidy_wrap hw)

theorem emit_items_of_must {items : List Fragment} (hs : spec.fault? = none)
    (hk : spec.kind = .parameter ∨ spec.kind = .list)
    (hm : spec.modifiers.mustParentheses = true) (hall : items.all Fragment.isElement = true) :
    spec.emit (.ok (.list items)) =
      .of (spec.lead ++ [spec.wrap (String.intercalate spec.separator (spec.shownTexts items))]) := by
  refine emit_of_bodyText hs ?_ (by simp) ?_ ?_ ?_
  · rcases hk with hk | hk <;> simp [hk]
  · rcases hk with hk | hk <;> simpa [fits, hk] using hall
  · simp [passesOver_items, hm]
  · rw [bodyText_items, listText_eq hall]
    rfl

theorem emit_unset_of_must (hs : spec.fault? = none) (hk : spec.kind = .list)
    (hm : spec.modifiers.mustParentheses = true) :
    spec.emit (.ok .unset) = .of (spec.lead ++ [spec.wrap ""]) :=
  emit_of_bodyText hs (by simp [hk]) (by simp) (by simp [fits, hk]) (by simp [passesOver, hm, hk])
    (by simp [bodyText, hk])

theorem emit_unset_of_parameter (hs : spec.fault? = none) (hk : spec.kind = .parameter) :
    spec.emit (.ok .unset) = .nothing :=
  emit_of_passesOver hs (by simp [hk]) (by simp [fits, hk])
    (by simp [passesOver, Fragment.isSet, Fragment.isLeaf, hk])

end FieldSpec

/-- **What parentheses that are a must do**, for a parameter and for a list field. Whatever the builder
and the options around the value,

* of a sequence whose elements can be written, the literal is added, with its sign, and then what the
  elements show, put together with the separator of the field, in one pair of parentheses;
* an empty sequence is added as `()` behind the literal;
* a value that is not there is passed over by a parameter. A list field adds `()` behind its literal, as
  if it were an empty sequence. -/
theorem must_parentheses_exact {spec : FieldSpec} (hs : spec.check = .ok ())
    (hk : spec.kind = .parameter ∨ spec.kind = .list)
    (hm : spec.modifiers.mustParentheses = true) (b : Builder) :
    (∀ (v : FieldValue) (vs : List FieldValue) (items : List Fragment), v.content = .many vs →
      Writing.values vs = .ok items → items.all Fragment.isElement = true →
      (Writing.field (spec, v)).on b =
        (.ok (), b.add spec
          ("(" ++ String.intercalate spec.separator (spec.shownTexts items) ++ ")"))) ∧
    (∀ v : FieldValue, v.content = .many [] →
      (Writing.field (spec, v)).on b = (.ok (), b.add spec "()")) ∧
    (∀ v : FieldValue, v.content = .absent →
      (Writing.field (spec, v)).on b =
        (.ok (), if spec.kind = .parameter then b else b.add spec "()")) := by
  have hsound := FieldSpec.check_eq_ok_iff.mp hs
  have hw := FieldSpec.wraps_of_mustParentheses hsound hm
  have hsequence : ∀ (v : FieldValue) (vs : List FieldValue) (items : List Fragment),
      v.content = .many vs → Writing.values vs = .ok items →
      items.all Fragment.isElement = true →
      (Writing.field (spec, v)).on b =
        (.ok (), b.add spec
          ("(" ++ String.intercalate spec.separator (spec.shownTexts items) ++ ")")) := by
    intro v vs items hcontent hvs hall
    have hv : v.toFragment = .ok (.list items) := by
      rw [← toFragment_content, hcontent]
      exact toFragment_many (Writing.values_eq vs ▸ hvs)
    exact FieldSpec.field_of_wrapped hsound hw hv (FieldSpec.emit_items_of_must hsound hk hm hall) b
  refine ⟨hsequence, fun v hcontent => hsequence v [] [] hcontent rfl rfl, fun v hcontent => ?_⟩
  have hv : v.toFragment = .ok .unset := by
    rw [← toFragment_content, hcontent]
    rfl
  rcases hk with hk | hk
  · rw [if_pos hk]
    apply Writing.field_of_nothing
    rw [Field.emission, hv]
    exact FieldSpec.emit_unset_of_parameter hsound hk
  · rw [if_neg (by simp [hk])]
    exact FieldSpec.field_of_wrapped hsound hw hv (FieldSpec.emit_unset_of_must hsound hk hm) b

/-- The same three values in a parameter and in a list field. Only the one that is not there tells the
two apart. -/
theorem must_parentheses_exact_sizes :
    let parameter : FieldSpec :=
      { name := "sizes", kind := .parameter, literal := some "SIZES",
        modifiers := { mustParentheses := true } }
    let list : FieldSpec := { parameter with kind := .list }
    let started : Builder := { tokens := ["SHOW"] }
    let written (spec : FieldSpec) (v : FieldValue) : Except EmissionError Unit × Builder :=
      (Writing.field (spec, v)).on started
    written parameter (.present (.many [.int 1, .int 2])) =
        (.ok (), { tokens := ["SHOW", "SIZES", "=", "(1, 2)"] }) ∧
      written list (.present (.many [.int 1, .int 2])) =
        (.ok (), { tokens := ["SHOW", "SIZES", "(1, 2)"] }) ∧
      written parameter (.present (.many [])) =
        (.ok (), { tokens := ["SHOW", "SIZES", "=", "()"] }) ∧
      written list (.present (.many [])) = (.ok (), { tokens := ["SHOW", "SIZES", "()"] }) ∧
      written parameter .absent = (.ok (), started) ∧
      written list .absent = (.ok (), { tokens := ["SHOW", "SIZES", "()"] }) := by
  intro parameter list started written
  obtain ⟨hmany, hnone, habsent⟩ :=
    @must_parentheses_exact parameter rfl (Or.inl rfl) rfl started
  obtain ⟨hmany', hnone', habsent'⟩ :=
    @must_parentheses_exact list rfl (Or.inr rfl) rfl started
  refine ⟨?_, ?_, hnone _ rfl, hnone' _ rfl, habsent _ rfl, habsent' _ rfl⟩
  · exact hmany _ [.int 1, .int 2] [.int 1, .int 2] rfl rfl rfl
  · exact hmany' _ [.int 1, .int 2] [.int 1, .int 2] rfl rfl rfl

end WarehouseAdmin
