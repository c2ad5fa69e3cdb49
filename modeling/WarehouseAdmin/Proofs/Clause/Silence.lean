import WarehouseAdmin.Proofs.Clause.Tokens
import WarehouseAdmin.Proofs.Ident.Parts

/-!
# Fields that stay silent

A value can count as given and still add nothing to the statement: a flag that is there and does not
hold, a text that is there and empty, a group of properties that are all of this kind. `speaks` says
from the value alone, by a recursion of its own, whether its field has something to write, and
`tokens_ne_nil_iff` is the agreement of the two recursions: a regular field adds a token exactly when
its value speaks.

`isSet` is the third recursion over the same tree, and the one that the rules count by. A value that
speaks counts as given (`isSet_of_speaks`). The converse fails, and it is the failure of the converse
that lets a request pass its check and lose what it was to do.
-/

set_option autoImplicit false

namespace WarehouseAdmin

namespace FieldValue

mutual

/-- Says whether the field has something to write. -/
def speaks (spec : FieldSpec) : FieldValue → Bool
  | .unit | .absent => false
  | .flag b => b || spec.kind != .keyword
  | .int _ | .float _ => true
  | .text s => s != ""
  | .constant sql => sql != ""
  | .identifier id => id.isValid
  | .present v => v.speaks spec
  | .many vs => !vs.isEmpty
  | .clause fields => isSet (.clause fields) && anySpeaks fields
  | .fragment f => f.isSet

/-- Says whether one of the fields has something to write. -/
def anySpeaks : List Field → Bool
  | [] => false
  | (spec, v) :: rest => (spec.kind == .static || v.speaks spec) || anySpeaks rest

end

end FieldValue

/-- Says whether the field has something to write; a static field always has. -/
def Field.speaks (f : Field) : Bool := f.1.kind == .static || f.2.speaks f.1

open FieldValue

theorem anySpeaks_eq {fields : List Field} : anySpeaks fields = fields.any Field.speaks := by
  induction fields with
  | nil => rfl
  | cons f rest ih =>
    obtain ⟨spec, v⟩ := f
    rw [anySpeaks, ih, List.any_cons]
    rfl

/-- A value that speaks counts as given, unless it is a flag without an option around it. -/
theorem isSet_of_speaks {spec : FieldSpec} {v : FieldValue} (h : v.speaks spec = true)
    (hb : ∀ b, v ≠ .flag b) : v.isSet = true := by
  cases v with
  | flag b => exact absurd rfl (hb b)
  | clause fields => exact (Bool.and_eq_true _ _ |>.mp h).1
  | unit => exact absurd h (by simp [FieldValue.speaks])
  | absent => exact absurd h (by simp [FieldValue.speaks])
  | int n => rfl
  | float x => rfl
  | constant sql => rfl
  | present v => rfl
  | _ => exact h

/-! ## Texts that are not blank -/

theorem not_isBlankText_of_isTidy {s : String} (h : Text.isTidy s = true) :
    Text.isBlankText s = false := by
  have hne := Text.ne_empty_of_isTidy h
  rw [← Text.trim_eq_self h, Ne, Text.trim_eq_empty_iff] at hne
  simpa using hne

theorem isTidy_qualify {parts : List String} (hne : parts ≠ []) :
    Text.isTidy (qualify parts) = true := by
  refine Text.isTidy_intercalate (by simpa using hne) ?_
  intro t ht
  obtain ⟨s, _, rfl⟩ := List.mem_map.mp ht
  exact Text.isTidy_doubleQuoted

theorem isTidy_qualifiedName {id : Identifier} : Text.isTidy id.qualifiedName = true := by
  cases id with
  | account id => exact (isTidy_qualify (Identifier.account id).parts_ne_nil :)
  | database id => exact (isTidy_qualify (Identifier.database id).parts_ne_nil :)
  | schema id => exact (isTidy_qualify (Identifier.schema id).parts_ne_nil :)
  | function id =>
    have hne : id.object.parts ≠ [] := (Identifier.schema id.object).parts_ne_nil
    have hopen := (Bool.and_eq_true _ _ |>.mp (isTidy_qualify hne)).1
    show Text.isTidy (qualify id.object.parts ++ "(" ++ _ ++ ")") = true
    rw [String.append_assoc, String.append_assoc]
    -- The name of a function ends with the parenthesis after its arguments.
    exact Text.isTidy_append hopen (Text.closesTidy_append (Text.closesTidy_append (by decide)))

/-- Parentheses keep a blank text visible. -/
theorem FieldSpec.isBlankText_wrap {spec : FieldSpec} {s : String} :
    Text.isBlankText (spec.wrap s) = (!spec.wraps && Text.isBlankText s) := by
  cases hw : spec.wraps with
  | true =>
    rw [not_isBlankText_of_isTidy (isTidy_wrap hw)]
    rfl
  | false =>
    rw [wrap, if_neg (by simp [hw])]
    rfl

/-! ## A field adds a token exactly when its value speaks -/

section
variable {spec : FieldSpec}

theorem text_ne_nil {s : String} (h : spec.literal.isSome = true ∨ Text.isBlankText s = false) :
    spec.lead ++ tidyTokens [spec.wrap s] ≠ [] := by
  intro hnil
  obtain ⟨hlead, htidy⟩ := List.append_eq_nil_iff.mp hnil
  rcases h with hl | hs
  · exact FieldSpec.lead_ne_nil hl hlead
  · rw [tidyTokens_singleton, FieldSpec.isBlankText_wrap, hs, Bool.and_false] at htidy
    exact nomatch htidy

theorem tokens_of_text (hs : spec.isRegular = true) (ht : spec.takesText = true) {v : FieldValue}
    {x : Fragment} (hv : v.toFragment = .ok x) (hx : x.isSet = true)
    (hflag : ∀ b, x = .flag b → spec.kind = .parameter) {text : String}
    (htext : spec.valueText x = .ok text) :
    Field.tokens (spec, v) = spec.lead ++ tidyTokens [spec.wrap text] := by
  show (spec.emit v.toFragment).tokens = _
  rw [hv, FieldSpec.emit_text hs ht hx hflag htext]

theorem tokens_of_not_isSet (hs : spec.isRegular = true) (ht : spec.takesText = true)
    {v : FieldValue} {x : Fragment} (hv : v.toFragment = .ok x) (hx : x.isSet = false) :
    Field.tokens (spec, v) = [] := by
  show (spec.emit v.toFragment).tokens = _
  rw [hv, FieldSpec.emit_of_not_isSet hs ht hx]
  rfl

theorem tokens_flag (hs : spec.isRegular = true) (hk : spec.kind = .keyword)
    (hl : spec.literal.isSome = true) {b : Bool} :
    Field.tokens (spec, .flag b) = if b then spec.lead else [] :=
  congrArg Emission.tokens (FieldSpec.emit_flag hs hk hl)

theorem tokens_identifier (hs : spec.isRegular = true) (hk : spec.kind = .identifier)
    {id : Identifier} (hid : id.isValid = true) :
    Field.tokens (spec, .identifier id) = spec.lead ++ tidyTokens [id.qualifiedName] := by
  show (spec.emit (toFragment (.identifier id))).tokens = _
  rw [toFragment_identifier hid, FieldSpec.emit_identifier hs hk]

theorem tokens_absent (hs : spec.isRegular = true) (hk : spec.kind ≠ .static)
    (hv : FieldValue.absent.isRegular spec = true) : Field.tokens (spec, .absent) = [] :=
  congrArg Emission.tokens
    (FieldSpec.emit_unset hs hk (by simpa [FieldValue.isRegular] using hv))

theorem tokens_static (hs : spec.isRegular = true) (hk : spec.kind = .static) {v : FieldValue} :
    Field.tokens (spec, v) ≠ [] := by
  obtain ⟨l, _, hemit⟩ := FieldSpec.emit_static hs hk
  have htok : Field.tokens (spec, v) = [l] := congrArg Emission.tokens (hemit v.toFragment)
  rw [htok]
  exact List.cons_ne_nil _ _

/-- A text shows itself unless it is blank, and then it still shows its literal or its quotes. -/
theorem text_shows {s : String} (hshow : spec.showsBlank = true ∨ Text.isBlankText s = false) :
    ∃ text, spec.valueText (.text s) = .ok text ∧
      (spec.literal.isSome = true ∨ Text.isBlankText text = false) := by
  cases hq : spec.modifiers.quotes with
  | none =>
    refine ⟨s, by simp [FieldSpec.valueText, FieldSpec.scalarText, Fragment.scalar?, hq], ?_⟩
    simpa [FieldSpec.showsBlank, hq] using hshow
  | single =>
    refine ⟨Text.singleQuoted s, ?_, Or.inr (not_isBlankText_of_isTidy Text.isTidy_singleQuoted)⟩
    simp [FieldSpec.valueText, FieldSpec.scalarText, Fragment.scalar?, hq]
  | double =>
    refine ⟨Text.doubleQuoted s, ?_, Or.inr (not_isBlankText_of_isTidy Text.isTidy_doubleQuoted)⟩
    simp [FieldSpec.valueText, FieldSpec.scalarText, Fragment.scalar?, hq]

theorem tokens_text (hs : spec.isRegular = true) (ht : spec.takesText = true) {v : FieldValue}
    {s : String} (hshow : spec.showsBlank = true ∨ Text.isBlankText s = false)
    (hv : v.toFragment = .ok (.text s)) : Field.tokens (spec, v) ≠ [] ↔ s ≠ "" := by
  by_cases hempty : s = ""
  · rw [tokens_of_not_isSet hs ht hv (by simp [Fragment.isSet, hempty])]
    simp [hempty]
  · obtain ⟨text, htext, hshows⟩ := text_shows hshow
    rw [tokens_of_text hs ht hv (by simp [Fragment.isSet, hempty]) (by simp) htext]
    exact ⟨fun _ => hempty, fun _ => text_ne_nil hshows⟩

theorem toFragments_eq_nil {vs : List FieldValue} {items : List Fragment}
    (h : toFragments vs = .ok items) : items = [] ↔ vs = [] := by
  cases vs with
  | nil => simp_all [toFragments]
  | cons v rest =>
    obtain ⟨x, others, -, -, rfl⟩ := exists_of_toFragments_cons h
    simp

/-- The tokens of a clause, joined, are not blank if there are any. -/
theorem not_isBlankText_join {fields : List Field} (h : fields.flatMap Field.tokens ≠ []) :
    Text.isBlankText (String.intercalate " " (fields.flatMap Field.tokens)) = false :=
  not_isBlankText_of_isTidy (Text.isTidy_intercalate h flatMap_tokens_tidy)

end

mutual

/-- **A field adds a token exactly when its value speaks.** The induction is over the tree of the
value, and goes down through options and through the fields of a clause. -/
theorem tokens_ne_nil_iff {spec : FieldSpec} (hs : spec.isRegular = true) : (v : FieldValue) →
    v.isRegular spec = true → spec.kind ≠ .static → AllValid v.identifiers →
    (Field.tokens (spec, v) ≠ [] ↔ v.speaks spec = true)
  | .flag b => by
    intro h _ _
    rw [FieldValue.isRegular, Bool.and_eq_true] at h
    rcases FieldSpec.takesText_iff.mp h.1 with hk | hk
    · have hlead := FieldSpec.lead_ne_nil h.2
      rw [tokens_flag hs hk h.2]
      cases b <;> simp [FieldValue.speaks, hk, hlead]
    · rw [tokens_of_text hs h.1 (x := .flag b) rfl rfl (fun _ _ => hk) FieldSpec.valueText_flag]
      simp [FieldValue.speaks, hk, FieldSpec.lead_ne_nil h.2]
  | .int n => by
    intro h _ _
    rw [tokens_of_text hs h (x := .int n) rfl rfl (by simp) rfl]
    have hplain := not_isBlankText_of_isTidy (Text.isTidy_of_isPlain (Text.isPlain_int (n := n)))
    exact ⟨fun _ => rfl, fun _ => text_ne_nil (Or.inr hplain)⟩
  | .text s => by
    intro h _ _
    rw [FieldValue.isRegular, Bool.and_eq_true] at h
    by_cases hempty : s = ""
    · rw [tokens_of_not_isSet hs h.1 (x := .unset) (by rw [toFragment, if_pos hempty]) rfl]
      simp [FieldValue.speaks, hempty]
    · rw [tokens_text hs h.1 (Or.inl h.2) (toFragment_text hempty)]
      simp [FieldValue.speaks]
  | .constant sql => by
    intro h _ _
    rw [FieldValue.isRegular, Bool.and_eq_true, Bool.or_eq_true] at h
    rw [tokens_text hs h.1 (by simpa using h.2) rfl]
    simp [FieldValue.speaks]
  | .identifier id => by
    intro h _ hids
    have hk : spec.kind = .identifier := by simpa [FieldValue.isRegular] using h
    have hid := isValid_of_allValid hids
    rw [tokens_identifier hs hk hid, tidyTokens_eq_self (by simpa using isTidy_qualifiedName)]
    simp [FieldValue.speaks, hid]
  | .absent => by
    intro h hk _
    rw [tokens_absent hs hk h]
    simp [FieldValue.speaks]
  | .present v => fun h hk hids => tokens_ne_nil_iff hs v h hk hids
  | .many vs => by
    intro h _ hids
    simp only [FieldValue.isRegular, Bool.and_eq_true, beq_iff_eq] at h
    obtain ⟨⟨hk, hl⟩, hvs⟩ := h
    have ht : spec.takesText = true := FieldSpec.takesText_iff.mpr (Or.inl hk)
    obtain ⟨items, hitems, hall⟩ := elements_of_isRegular vs hvs hids
    have hv := toFragment_many hitems
    have hempty := toFragments_eq_nil hitems
    by_cases hnil : vs = []
    · rw [tokens_of_not_isSet hs ht hv (by simp [Fragment.isSet, hempty.mpr hnil])]
      simp [FieldValue.speaks, hnil]
    · obtain ⟨text, htext⟩ := (FieldSpec.listText_isOk spec).mpr hall
      rw [tokens_of_text hs ht hv (by simp [Fragment.isSet, hempty, hnil]) (by simp) htext]
      simp [FieldValue.speaks, hnil, FieldSpec.lead_ne_nil hl]
  | .clause fields => by
    intro h _ hids
    rw [FieldValue.isRegular, Bool.and_eq_true] at h
    have hv := toFragment_clause (succeed_of_isRegular fields h.2 hids)
    have hany := flatMap_tokens_ne_nil_iff fields h.2 hids
    by_cases hset : isSet (.clause fields) = true
    · rw [if_pos hset] at hv
      by_cases hnil : fields.flatMap Field.tokens = []
      · rw [tokens_of_not_isSet hs h.1 hv (by simp [Fragment.isSet, hnil])]
        simp [FieldValue.speaks, ← hany, hnil]
      · rw [tokens_of_text hs h.1 hv (by simpa [Fragment.isSet] using hnil) (by simp) rfl]
        simp only [FieldValue.speaks, hset, ← hany, Bool.true_and]
        exact ⟨fun _ => hnil, fun _ => text_ne_nil (Or.inr (not_isBlankText_join hnil))⟩
    · rw [if_neg hset] at hv
      rw [tokens_of_not_isSet hs h.1 hv rfl]
      simp [FieldValue.speaks, hset]
  | .unit | .float _ | .fragment _ => by
    intro h _ _
    exact absurd h (by simp [FieldValue.isRegular])

theorem flatMap_tokens_ne_nil_iff : (fields : List Field) → fieldsRegular fields = true →
    AllValid (fieldIdentifiers fields) →
    (fields.flatMap Field.tokens ≠ [] ↔ anySpeaks fields = true)
  | [] => by
    intro _ _
    simp [anySpeaks]
  | (spec, v) :: rest => by
    intro h hids
    simp only [fieldsRegular, Bool.and_eq_true, Bool.or_eq_true, beq_iff_eq] at h
    obtain ⟨⟨hs, hv⟩, hrest⟩ := h
    rw [fieldIdentifiers, allValid_append] at hids
    have ih := flatMap_tokens_ne_nil_iff rest hrest hids.2
    rw [List.flatMap_cons, anySpeaks, Bool.or_eq_true, ← ih, Ne, List.append_eq_nil_iff]
    by_cases hk : spec.kind = .static
    · simp [hk, tokens_static hs hk]
    · have hone := tokens_ne_nil_iff hs v (hv.resolve_left hk) hk hids.1
      simp only [beq_eq_false_iff_ne.mpr hk, Bool.false_or, ← hone]
      exact Decidable.not_and_iff_or_not

end

end WarehouseAdmin
