import WarehouseAdmin.Proofs.Clause.Emission
import WarehouseAdmin.Proofs.Ident.Parts

/-!
# The form of what a field adds

Each kind of field has a ladder of its own that asks what the value has come to. All of them lead to
one of two ends. Either the field passes over the value (`passesOver`) and adds nothing; or it adds
its lead, which is the literal with its sign, and behind it one token, the text of the value
(`bodyText`). A flag as a keyword is the only exception, for it has no text.

The two ends are told apart by the value and by whether parentheses are a must, and not by the kind,
with one difference: where they are a must, a list field writes them around an unset value as well,
and a parameter does not.
-/

set_option autoImplicit false

namespace WarehouseAdmin

open FieldValue

namespace FieldSpec

variable {spec : FieldSpec} {f : Fragment}

/-! ## Sound specs -/

/-- What a spec without a fault has been checked for. -/
theorem fault?_eq_none_iff :
    spec.fault? = none ↔
      (spec.kind = .static ∨ spec.kind = .parameter → spec.literal ≠ none) ∧
      ¬ (spec.modifiers.equals = true ∧ spec.modifiers.noEquals = true) ∧
      ¬ (spec.modifiers.noParentheses = true ∧
        (spec.modifiers.parentheses = true ∨ spec.modifiers.mustParentheses = true)) ∧
      (spec.modifiers.equals = true → spec.kind = .identifier ∧ spec.literal ≠ none) ∧
      (spec.modifiers.mustParentheses = true → spec.kind = .parameter ∨ spec.kind = .list) ∧
      (spec.modifiers.required = true → spec.kind = .identifier) := by
  unfold fault?
  grind

theorem check_eq_ok_iff : spec.check = .ok () ↔ spec.fault? = none := by
  unfold check
  cases spec.fault? <;> simp

theorem kind_of_mustParentheses (hs : spec.fault? = none)
    (hm : spec.modifiers.mustParentheses = true) : spec.kind = .parameter ∨ spec.kind = .list :=
  (fault?_eq_none_iff.mp hs).2.2.2.2.1 hm

theorem wraps_of_mustParentheses (hs : spec.fault? = none)
    (hm : spec.modifiers.mustParentheses = true) : spec.wraps = true := by
  have hnone := (fault?_eq_none_iff.mp hs).2.2.1
  simp_all [wraps]

end FieldSpec

/-! ## What a list shows -/

/-- The text that an element of a list shows; an empty clause shows none. -/
def Fragment.shown? (quotes : Quotes) : Fragment → Option String
  | .clause [] => none
  | .clause tokens => some (statement tokens)
  | f => f.scalar? quotes

namespace FieldSpec

variable {spec : FieldSpec} {f : Fragment}

/-- The texts that the elements of a list show. -/
def shownTexts (spec : FieldSpec) (items : List Fragment) : List String :=
  items.filterMap (Fragment.shown? spec.modifiers.quotes)

theorem shownTexts_cons {items : List Fragment} :
    spec.shownTexts (f :: items) =
      (f.shown? spec.modifiers.quotes).toList ++ spec.shownTexts items := by
  rw [shownTexts, List.filterMap_cons]
  cases f.shown? spec.modifiers.quotes <;> rfl

theorem elementText_eq_shown? (h : f.isElement = true) :
    spec.elementText f = .ok (f.shown? spec.modifiers.quotes) := by
  by_cases hleaf : f.isLeaf = true
  · have hset : f ≠ .unset := by
      rintro rfl
      exact absurd h (by simp [Fragment.isElement])
    obtain ⟨text, ht⟩ := Option.isSome_iff_exists.mp
      (Fragment.scalar?_isSome hset hleaf spec.modifiers.quotes)
    have hshown : f.shown? spec.modifiers.quotes = f.scalar? spec.modifiers.quotes := by
      cases f with
      | clause tokens => exact absurd hleaf (by simp [Fragment.isLeaf])
      | _ => rfl
    rw [elementText_leaf hset hleaf, scalarText, hshown, ht]
    rfl
  · cases f with
    | clause tokens => cases tokens <;> rfl
    | list items => exact absurd h (by simp [Fragment.isElement])
    | _ => exact absurd rfl hleaf

theorem listText_eq {items : List Fragment} (h : items.all Fragment.isElement = true) :
    spec.listText items = .ok (String.intercalate spec.separator (spec.shownTexts items)) := by
  have htexts : spec.elementTexts items = .ok (spec.shownTexts items) := by
    induction items with
    | nil => rfl
    | cons f rest ih =>
      rw [List.all_cons, Bool.and_eq_true] at h
      rw [elementTexts, elementText_eq_shown? h.1, ih h.2, shownTexts_cons]
      rfl
  rw [listText, htexts]
  rfl

/-! ## The two ends -/

/-- The equals sign that a field puts between its literal and its value, if it puts any. -/
def sign (spec : FieldSpec) : List String :=
  match spec.kind with
  | .parameter => if spec.modifiers.noEquals then [] else ["="]
  | .identifier => if spec.modifiers.equals then ["="] else []
  | _ => []

/-- What the field writes before the text of its value. -/
def lead (spec : FieldSpec) : List String :=
  match spec.literal with
  | none => []
  | some l =>
    match spec.kind with
    | .parameter => spec.parameterLead l
    | .identifier => spec.identifierLead
    | _ => [l]

/-- Says whether the field adds nothing for a fragment that it accepts. Where parentheses are a must,
a list field writes them whatever it is given, and any other field around an empty clause or list. -/
def passesOver (spec : FieldSpec) (f : Fragment) : Bool :=
  !f.isSet && !(spec.modifiers.mustParentheses && (spec.kind == .list || !f.isLeaf))

/-- The text of the value as it stands in the field. A name that is not in a list has no parentheses,
and an unset value is the empty list to a list field. -/
def bodyText (spec : FieldSpec) (f : Fragment) : Except EmissionError String :=
  match spec.kind, f with
  | .identifier, .identifier name => .ok name
  | .list, .unset => .ok (spec.wrap "")
  | _, f => (spec.valueText f).map spec.wrap

theorem passesOver_of_isSet (h : f.isSet = true) : spec.passesOver f = false := by
  rw [passesOver, h]
  rfl

theorem passesOver_eq_not_isSet (hm : spec.modifiers.mustParentheses = false) :
    spec.passesOver f = !f.isSet := by
  simp [passesOver, hm]

theorem passesOver_items {items : List Fragment} :
    spec.passesOver (.list items) = (items.isEmpty && !spec.modifiers.mustParentheses) := by
  simp [passesOver, Fragment.isSet, Fragment.isLeaf]

theorem passesOver_eq_parameterSkips (hk : spec.kind = .parameter) :
    spec.passesOver f = spec.parameterSkips f := by
  cases f <;> simp [passesOver, parameterSkips, Fragment.isLeaf, hk]

theorem identifierLead_eq_lead (hk : spec.kind = .identifier) : spec.identifierLead = spec.lead := by
  cases hl : spec.literal <;> simp [lead, identifierLead, hl, hk]

theorem lead_eq_literal (hk : spec.kind ≠ .identifier) (hk' : spec.kind ≠ .parameter) :
    spec.lead = spec.literal.toList := by
  unfold lead
  cases spec.literal with
  | none => rfl
  | some l => cases h : spec.kind <;> simp_all

theorem bodyText_valueText (hk : spec.kind ≠ .identifier) (hk' : spec.kind ≠ .list) :
    spec.bodyText f = (spec.valueText f).map spec.wrap := by
  unfold bodyText
  cases h : spec.kind <;> simp_all

theorem bodyText_items {items : List Fragment} :
    spec.bodyText (.list items) = (spec.listText items).map spec.wrap := by
  unfold bodyText
  cases spec.kind <;> rfl

/-- A value with a text ends up behind the lead. -/
theorem emitValue_eq_of {before : List String} {text : String}
    (h : (spec.valueText f).map spec.wrap = .ok text) :
    spec.emitValue before (spec.valueText f) = .of (before ++ [text]) := by
  obtain ⟨body, hv, rfl⟩ := exists_of_map_eq_ok h
  rw [hv, emitValue]

theorem emitKeyword_of_bodyText {text : String} (hk : spec.kind = .keyword)
    (hflag : ∀ b, f ≠ .flag b) (hset : f.isSet = true) (htext : spec.bodyText f = .ok text) :
    spec.emitKeyword f = .of (spec.lead ++ [text]) := by
  rw [bodyText_valueText (by simp [hk]) (by simp [hk])] at htext
  rw [lead_eq_literal (by simp [hk]) (by simp [hk]), ← emitValue_eq_of htext]
  unfold emitKeyword
  rw [if_pos hset]
  cases f with
  | flag b => exact absurd rfl (hflag b)
  | _ => rfl

theorem emitIdentifier_of_bodyText {text : String} (hk : spec.kind = .identifier)
    (hfits : spec.fits f = true) (hset : f.isSet = true) (htext : spec.bodyText f = .ok text) :
    spec.emitIdentifier f = .of (spec.lead ++ [text]) := by
  rw [← identifierLead_eq_lead hk]
  cases f with
  | identifier name =>
    have hname : text = name := by simpa [bodyText, hk] using htext.symm
    rw [hname]
    rfl
  | list items =>
    have hall : items.all Fragment.isIdentifier = true := by simpa [fits, hk] using hfits
    rw [bodyText_items] at htext
    cases items with
    | nil => exact absurd hset (by simp [Fragment.isSet])
    | cons g rest =>
      rw [emitIdentifier_list, if_pos hall]
      exact emitValue_eq_of (f := .list (g :: rest)) htext
  | unset => exact absurd hset (by simp [Fragment.isSet])
  | _ => exact absurd hfits (by simp [fits, hk])

theorem emitParameter_of_bodyText {text : String} (hs : spec.fault? = none)
    (hk : spec.kind = .parameter) (hp : spec.passesOver f = false)
    (htext : spec.bodyText f = .ok text) : spec.emitParameter f = .of (spec.lead ++ [text]) := by
  obtain ⟨l, hl⟩ := literal_of_fault? hs (Or.inr hk)
  have hlead : spec.lead = spec.parameterLead l := by simp [lead, hl, hk]
  rw [passesOver_eq_parameterSkips hk] at hp
  rw [bodyText_valueText (by simp [hk]) (by simp [hk])] at htext
  rw [hlead, ← emitValue_eq_of htext]
  unfold emitParameter
  simp only [hl, hp, Bool.false_eq_true, if_false]

/-- The elements of a list are looked at with the literal written, but all of them have texts here. -/
theorem emitItems_of_bodyText {items : List Fragment} {text : String} (hk : spec.kind = .list)
    (hp : spec.passesOver (.list items) = false) (htext : spec.bodyText (.list items) = .ok text) :
    spec.emitItems items = .of (spec.lead ++ [text]) := by
  rw [passesOver_items] at hp
  rw [bodyText_items] at htext
  rw [lead_eq_literal (by simp [hk]) (by simp [hk])]
  unfold emitItems
  obtain ⟨body, hv, rfl⟩ := exists_of_map_eq_ok htext
  rw [hp, if_neg Bool.false_ne_true, hv]

/-! ## Every field that does not fail comes to one of them -/

theorem emit_eq (hs : spec.fault? = none) (hk : spec.kind ≠ .static) :
    spec.emit (.ok f) =
      match spec.kind with
      | .keyword => spec.emitKeyword f
      | .identifier => spec.emitIdentifier f
      | .parameter => spec.emitParameter f
      | _ => spec.emitList f := by
  unfold emit
  rw [hs]
  cases h : spec.kind with
  | static => exact absurd h hk
  | _ => rfl

theorem isElement_of_fits {items : List Fragment} (hk : spec.kind ≠ .static)
    (hfits : spec.fits (.list items) = true) : items.all Fragment.isElement = true := by
  cases h : spec.kind with
  | static => exact absurd h hk
  | identifier => exact isElement_of_isIdentifier (by simpa only [fits, h] using hfits)
  | _ => simpa only [fits, h] using hfits

/-- What a field accepts and does not pass over has a text. -/
theorem bodyText_isOk (hk : spec.kind ≠ .static) (hfits : spec.fits f = true)
    (hp : spec.passesOver f = false) : ∃ text, spec.bodyText f = .ok text := by
  by_cases hunset : f = .unset
  · subst hunset
    -- Only a list field does not pass over an unset value.
    have hlist : spec.modifiers.mustParentheses = true ∧ spec.kind = .list := by
      simpa [passesOver, Fragment.isSet, Fragment.isLeaf] using hp
    exact ⟨spec.wrap "", by simp [bodyText, hlist.2]⟩
  · have hvalue : ∃ body, spec.valueText f = .ok body :=
      (valueText_isOk hunset).mpr fun items hitems => isElement_of_fits hk (hitems ▸ hfits)
    obtain ⟨body, hbody⟩ := hvalue
    unfold bodyText
    split
    · exact ⟨_, rfl⟩
    · exact ⟨_, rfl⟩
    · exact ⟨spec.wrap body, by rw [hbody]; rfl⟩

/-- **A field that passes over its value adds nothing.** -/
theorem emit_of_passesOver (hs : spec.fault? = none) (hk : spec.kind ≠ .static)
    (hfits : spec.fits f = true) (hp : spec.passesOver f = true) : spec.emit (.ok f) = .nothing := by
  have hset : f.isSet = false := by simp_all [passesOver]
  rw [emit_eq hs hk]
  cases h : spec.kind with
  | static => exact absurd h hk
  | keyword =>
    show spec.emitKeyword f = .nothing
    unfold emitKeyword
    rw [if_neg (by simp [hset])]
  | identifier =>
    show spec.emitIdentifier f = .nothing
    cases f with
    | unset =>
      have hr : spec.modifiers.required = false := by simpa [fits, h] using hfits
      simp [emitIdentifier, hr]
    | list items =>
      have hnil : items = [] := by simpa [Fragment.isSet] using hset
      rw [hnil]
      rfl
    | identifier name => exact absurd hset (by simp [Fragment.isSet])
    | _ => exact absurd hfits (by simp [fits, h])
  | parameter =>
    show spec.emitParameter f = .nothing
    obtain ⟨l, hl⟩ := literal_of_fault? hs (Or.inr h)
    rw [passesOver_eq_parameterSkips h] at hp
    simp only [emitParameter, hl, hp, if_true]
  | list =>
    show spec.emitList f = .nothing
    have hm : spec.modifiers.mustParentheses = false := by simpa [passesOver, hset, h] using hp
    cases f with
    | unset => simp [emitList, emitItems, hm]
    | list items =>
      have hnil : items = [] := by simpa [Fragment.isSet] using hset
      simp [emitList, emitItems, hnil, hm]
    | _ => exact absurd hfits (by simp [fits, h])

/-- **Any other field adds its lead and the text of its value**, a flag as a keyword apart. -/
theorem emit_of_bodyText (hs : spec.fault? = none) (hk : spec.kind ≠ .static)
    (hflag : ∀ b, f = .flag b → spec.kind ≠ .keyword) (hfits : spec.fits f = true)
    (hp : spec.passesOver f = false) {text : String} (htext : spec.bodyText f = .ok text) :
    spec.emit (.ok f) = .of (spec.lead ++ [text]) := by
  -- Parentheses are no must where the value decides alone.
  have hset : spec.kind ≠ .parameter → spec.kind ≠ .list → f.isSet = true := by
    intro hparameter hlist
    have hm : spec.modifiers.mustParentheses = false := by
      rw [← Bool.not_eq_true]
      exact fun hm => (kind_of_mustParentheses hs hm).elim hparameter hlist
    simpa [passesOver_eq_not_isSet hm] using hp
  rw [emit_eq hs hk]
  cases h : spec.kind with
  | static => exact absurd h hk
  | keyword =>
    have hnoflag : ∀ b, f ≠ .flag b := fun b hb => hflag b hb h
    exact emitKeyword_of_bodyText h hnoflag (hset (by simp [h]) (by simp [h])) htext
  | identifier => exact emitIdentifier_of_bodyText h hfits (hset (by simp [h]) (by simp [h])) htext
  | parameter => exact emitParameter_of_bodyText hs h hp htext
  | list =>
    cases f with
    | unset =>
      have hnil : spec.bodyText (.list []) = .ok text := by
        rw [bodyText_items, ← htext]
        simp [bodyText, h, listText, elementTexts, Except.map]
      have hnone : spec.passesOver (.list []) = false := by
        simpa [passesOver, Fragment.isSet, h] using hp
      exact emitItems_of_bodyText h hnone hnil
    | list items => exact emitItems_of_bodyText h hp htext
    | _ => exact absurd hfits (by simp [fits, h])

end FieldSpec

/-- A field that does not fail accepts what its value has come to. -/
theorem Field.fits_of_succeeds {f : Field} (hs : f.1.fault? = none) (hk : f.1.kind ≠ .static)
    (h : f.Succeeds) : ∃ x, f.2.toFragment = .ok x ∧ f.1.fits x = true := by
  unfold Succeeds emission at h
  cases hv : f.2.toFragment with
  | ok x =>
    rw [hv] at h
    exact ⟨x, rfl, (FieldSpec.emit_failure_eq_none_iff hs).mp h⟩
  | error e =>
    have hfail : (f.1.emit (.error e)).failure = some e := by
      unfold FieldSpec.emit
      rw [hs]
      cases hkind : f.1.kind with
      | static => exact absurd hkind hk
      | _ => rfl
    rw [hv, hfail] at h
    exact nomatch h

end WarehouseAdmin
