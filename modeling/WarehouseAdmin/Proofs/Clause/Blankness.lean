import WarehouseAdmin.Proofs.Clause.Silence

/-!
# Values of which nothing is left

Whether a field has something to add is asked of the value before its text is put together. The text
then enters the statement as any token does, trimmed, and not at all if it is blank. So a field can
add its literal for a value that counts as set and of which nothing is left. `losesText` says which
values these are, by what they hold: texts that are blank and have no quotes, tokens that are all
blank, and lists of such with no comma between them. Parentheses keep all of them visible.
-/

set_option autoImplicit false

namespace WarehouseAdmin

open FieldValue

/-! ## Numbers are visible -/

namespace Decimal

theorem not_isBlankText_positional {d : Scaled} : Text.isBlankText d.positional = false := by
  unfold Scaled.positional
  split
  · have hne : Nat.toDigits 10 d.digits ≠ [] := Nat.toDigits_ne_nil
    obtain ⟨c, rest, hdigits⟩ := List.exists_cons_of_ne_nil hne
    have hc : c ∈ Nat.toDigits 10 d.digits := hdigits ▸ List.mem_cons_self
    refine Text.not_isBlankText_of_mem (c := c) ?_
      (Text.digit_plain (Text.isDigit_of_mem_toDigits c hc)).1
    rw [String.toList_ofList]
    exact List.mem_append_left _ hc
  · refine Text.not_isBlankText_of_mem (c := '.') ?_ (by decide)
    rw [String.toList_ofList]
    exact List.mem_append_right _ List.mem_cons_self

theorem not_isBlankText_signed {negative : Bool} {text : String}
    (h : Text.isBlankText text = false) : Text.isBlankText (signed negative text) = false := by
  unfold signed
  split
  · rw [Text.isBlankText_append, h, Bool.and_false]
  · exact h

theorem not_isBlankText_ofFloat {x : Float} : Text.isBlankText (ofFloat x) = false := by
  unfold ofFloat
  cases Parts.ofBits x.toBits with
  | notANumber => decide
  | infinite negative => exact not_isBlankText_signed (by decide)
  | zero negative => exact not_isBlankText_signed (by decide)
  | finite negative m q thin => exact not_isBlankText_signed not_isBlankText_positional

end Decimal

/-! ## Which values have a blank text -/

namespace Fragment

variable {quotes : Quotes} {f : Fragment}

/-- Says whether nothing of a fragment is visible in the statement. A list is judged as a whole, and
not here. -/
def isBlankIn (quotes : Quotes) : Fragment → Bool
  | .text s => quotes == .none && Text.isBlankText s
  | .identifier name => Text.isBlankText name
  | .clause tokens => tokens.all Text.isBlankText
  | .unset => true
  | .flag _ | .int _ | .float _ | .list _ => false

theorem isBlankText_scalar? {text : String} (hleaf : f.isLeaf = true)
    (h : f.scalar? quotes = some text) : Text.isBlankText text = f.isBlankIn quotes := by
  cases f with
  | unset => exact nomatch h
  | flag b =>
    cases b with
    | true => exact Option.some.inj h ▸ (by decide : Text.isBlankText "TRUE" = false)
    | false => exact Option.some.inj h ▸ (by decide : Text.isBlankText "FALSE" = false)
  | int n =>
    rw [← Option.some.inj h]
    exact not_isBlankText_of_isTidy (Text.isTidy_of_isPlain Text.isPlain_int)
  | float x =>
    rw [← Option.some.inj h]
    exact Decimal.not_isBlankText_ofFloat
  | text s =>
    cases quotes with
    | none => rw [← Option.some.inj h, isBlankIn]; rfl
    | single =>
      rw [← Option.some.inj h]
      exact not_isBlankText_of_isTidy Text.isTidy_singleQuoted
    | double =>
      rw [← Option.some.inj h]
      exact not_isBlankText_of_isTidy Text.isTidy_doubleQuoted
  | identifier name => rw [← Option.some.inj h, isBlankIn]
  | clause tokens => exact nomatch hleaf
  | list items => exact nomatch hleaf

theorem isBlankText_statement {tokens : List String} :
    Text.isBlankText (statement tokens) = tokens.all Text.isBlankText := by
  rw [statement, Text.isBlankText_intercalate, show Text.isBlankText " " = true by decide]
  simp

/-- An element is blank in a list when it shows no text, or a blank one. -/
theorem all_shown? (h : f.isElement = true) :
    (f.shown? quotes).all Text.isBlankText = f.isBlankIn quotes := by
  by_cases hleaf : f.isLeaf = true
  · have hset : f ≠ .unset := by
      rintro rfl
      exact nomatch h
    obtain ⟨text, htext⟩ := Option.isSome_iff_exists.mp (scalar?_isSome hset hleaf quotes)
    have hshown : f.shown? quotes = some text := by
      rw [← htext]
      cases f with
      | clause tokens => exact nomatch hleaf
      | _ => rfl
    rw [hshown, ← isBlankText_scalar? hleaf htext]
    rfl
  · cases f with
    | clause tokens =>
      cases tokens with
      | nil => rfl
      | cons t rest => exact isBlankText_statement
    | list items => exact nomatch h
    | _ => exact absurd rfl hleaf

end Fragment

namespace FieldSpec

variable {spec : FieldSpec} {f : Fragment}

/-- Says whether nothing is left of a value that the field has taken as something to add. -/
def losesText (spec : FieldSpec) : Fragment → Bool
  | .identifier name => (spec.kind == .identifier || !spec.wraps) && Text.isBlankText name
  | .list items =>
    !spec.wraps && items.all (Fragment.isBlankIn spec.modifiers.quotes) &&
      (spec.modifiers.noComma || decide ((spec.shownTexts items).length ≤ 1))
  | f => !spec.wraps && f.isBlankIn spec.modifiers.quotes

theorem all_shownTexts {items : List Fragment} (h : items.all Fragment.isElement = true) :
    (spec.shownTexts items).all Text.isBlankText =
      items.all (Fragment.isBlankIn spec.modifiers.quotes) := by
  induction items with
  | nil => rfl
  | cons f rest ih =>
    rw [List.all_cons, Bool.and_eq_true] at h
    rw [shownTexts_cons, List.all_append, ih h.2, List.all_cons, ← Fragment.all_shown? h.1]
    cases f.shown? spec.modifiers.quotes <;> simp

theorem isBlankText_separator : Text.isBlankText spec.separator = spec.modifiers.noComma := by
  unfold separator
  cases spec.modifiers.noComma <;> decide

theorem isBlankText_valueText {text : String} (h : spec.valueText f = .ok text)
    (hlist : ∀ items, f ≠ .list items) :
    Text.isBlankText text = f.isBlankIn spec.modifiers.quotes := by
  by_cases hleaf : f.isLeaf = true
  · rw [valueText_leaf hleaf, scalarText] at h
    cases hscalar : f.scalar? spec.modifiers.quotes with
    | none => exact absurd h (by simp [hscalar])
    | some s =>
      rw [hscalar] at h
      rw [← Except.ok.inj h]
      exact Fragment.isBlankText_scalar? hleaf hscalar
  · cases f with
    | clause tokens =>
      rw [← Except.ok.inj h]
      exact Fragment.isBlankText_statement
    | list items => exact absurd rfl (hlist items)
    | _ => exact absurd rfl hleaf

theorem isBlankText_listText {items : List Fragment} {text : String}
    (h : spec.listText items = .ok text) :
    Text.isBlankText text = (items.all (Fragment.isBlankIn spec.modifiers.quotes) &&
      (spec.modifiers.noComma || decide ((spec.shownTexts items).length ≤ 1))) := by
  have hall := (listText_isOk spec).mp ⟨text, h⟩
  rw [listText_eq hall] at h
  rw [← Except.ok.inj h, Text.isBlankText_intercalate, all_shownTexts hall, isBlankText_separator]

/-- **The text of a value is blank exactly when nothing is left of the value.** -/
theorem isBlankText_bodyText {text : String} (h : spec.bodyText f = .ok text) :
    Text.isBlankText text = spec.losesText f := by
  -- A name in an identifier field, nothing in a list field, and then everything with a text of its own.
  unfold bodyText at h
  split at h
  · rename_i name hk
    rw [← Except.ok.inj h, losesText, hk]
    rfl
  · rw [← Except.ok.inj h, isBlankText_wrap]
    rfl
  · rename_i f _ _ hname hunset
    obtain ⟨body, hv, rfl⟩ := exists_of_map_eq_ok h
    rw [isBlankText_wrap]
    cases f with
    | list items => rw [isBlankText_listText hv, losesText, Bool.and_assoc]
    | unset => exact nomatch hv
    | identifier name =>
      have hk : spec.kind ≠ .identifier := fun hk => hname name hk rfl
      rw [isBlankText_valueText hv nofun, losesText, beq_false_of_ne hk]
      rfl
    | _ =>
      rw [isBlankText_valueText hv nofun]
      rfl

end FieldSpec

/-! ## What stands behind a literal -/

namespace Field

variable {f : Field} {x : Fragment}

/-- A field that does not pass over its value adds its literal and its sign, and behind them the text
of the value, unless nothing is left of it. -/
theorem tokens_of_bodyText (hs : f.1.fault? = none) (hk : f.1.kind ≠ .static)
    (hflag : ∀ b, x = .flag b → f.1.kind ≠ .keyword) (hv : f.2.toFragment = .ok x)
    (hfits : f.1.fits x = true) (hp : f.1.passesOver x = false) {text : String}
    (htext : f.1.bodyText x = .ok text) :
    f.tokens = tidyTokens f.1.literal.toList ++ f.1.sign ++
      if f.1.losesText x then [] else [Text.trim text] := by
  rw [Field.tokens, emission, hv, FieldSpec.emit_of_bodyText hs hk hflag hfits hp htext]
  show tidyTokens (f.1.lead ++ [text]) = _
  rw [tidyTokens_append, FieldSpec.tidyTokens_lead_eq hs, tidyTokens_singleton,
    FieldSpec.isBlankText_bodyText htext]

theorem tokens_of_passesOver (hs : f.1.fault? = none) (hk : f.1.kind ≠ .static)
    (hv : f.2.toFragment = .ok x) (hfits : f.1.fits x = true) (hp : f.1.passesOver x = true) :
    f.tokens = [] := by
  rw [Field.tokens, emission, hv, FieldSpec.emit_of_passesOver hs hk hfits hp]
  rfl

end Field

end WarehouseAdmin
