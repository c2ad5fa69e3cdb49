import WarehouseAdmin.Proofs.Clause.Unset
import WarehouseAdmin.Proofs.Clause.Silence

/-!
# Identifiers that are required

A required field ought to write a name or to fail. What it makes of a value is decided by the fragment
that the value comes to, and a value that is not set comes to one of two. For the unset fragment the
field fails, as it should; for the empty list it does not, and nothing is written. That is the only
way around it: where a required field succeeds with anything else, each identifier in its value is
valid, there is at least one, and their names are in the token that it adds (`required_slot_exact`).
-/

set_option autoImplicit false

namespace WarehouseAdmin

open FieldValue

/-- A text is found in everything that it is joined into. -/
theorem infix_intercalate {sep t : String} {ts : List String} (h : t ∈ ts) :
    t.toList <:+: (String.intercalate sep ts).toList := by
  induction ts with
  | nil => exact absurd h (by simp)
  | cons u rest ih =>
    cases rest with
    | nil => simp [List.mem_singleton.mp h]
    | cons w rest =>
      rw [String.intercalate_cons_cons, String.toList_append, String.toList_append]
      rcases List.mem_cons.mp h with rfl | hmem
      · exact ⟨[], sep.toList ++ (String.intercalate sep (w :: rest)).toList, by simp⟩
      · exact (ih hmem).trans (List.suffix_append _ _).isInfix

namespace FieldSpec

variable {spec : FieldSpec}

theorem infix_wrap {t text : String} (h : t.toList <:+: text.toList) :
    t.toList <:+: (spec.wrap text).toList := by
  unfold wrap
  split
  · rw [String.toList_append, String.toList_append]
    exact h.trans ⟨"(".toList, ")".toList, rfl⟩
  · exact h

end FieldSpec

namespace FieldValue

mutual

/-- Says whether the value is of one of the types that can hold identifiers, or of another one, but
not a fragment that only looks like one. Options and lists are looked into. -/
def isTyped : FieldValue → Bool
  | .fragment _ => false
  | .present v => v.isTyped
  | .many vs => elementsTyped vs
  | .unit | .flag _ | .int _ | .float _ | .text _ | .identifier _ | .constant _ | .absent
  | .clause _ => true

def elementsTyped : List FieldValue → Bool
  | [] => true
  | v :: rest => v.isTyped && elementsTyped rest

end

/-! ## Where names and lists come from -/

/-- A clause comes to its tokens or to nothing. -/
theorem toFragment_clause_cases {fields : List Field} {f : Fragment}
    (h : toFragment (.clause fields) = .ok f) : f = .unset ∨ ∃ tokens, f = .clause tokens := by
  rw [toFragment] at h
  split at h
  · obtain ⟨tokens, -, htokens⟩ := exists_of_map_eq_ok h
    exact Or.inr ⟨tokens, htokens.symm⟩
  · exact Or.inl (Except.ok.inj h).symm

/-- A name is that of a valid identifier, the only one of the value. The induction goes down through
options. -/
theorem identifiers_of_name {name : String} : (v : FieldValue) → v.isTyped = true →
    v.toFragment = .ok (.identifier name) →
    ∃ id, v.identifiers = [id] ∧ id.isValid = true ∧ name = id.qualifiedName
  | .identifier id => by
    intro _ h
    rw [toFragment] at h
    split at h
    · rename_i hid
      exact ⟨id, rfl, hid, (Fragment.identifier.inj (Except.ok.inj h)).symm⟩
    · exact nomatch h
  | .present v => identifiers_of_name v
  | .clause fields => by
    intro _ h
    rcases toFragment_clause_cases h with h' | ⟨tokens, h'⟩ <;> exact nomatch h'
  | .many vs => by
    intro _ h
    rw [toFragment] at h
    obtain ⟨items, -, hitems⟩ := exists_of_map_eq_ok h
    exact nomatch hitems
  | .text s => by
    intro _ h
    rw [toFragment] at h
    split at h <;> exact nomatch h
  | .fragment f => fun htyped _ => nomatch htyped
  | .unit | .flag _ | .int _ | .float _ | .constant _ | .absent => fun _ h => nomatch h

/-- A list is that of a sequence, under however many options. -/
theorem content_of_list {items : List Fragment} : (v : FieldValue) → v.isTyped = true →
    v.toFragment = .ok (.list items) →
    ∃ vs, v.content = .many vs ∧ toFragments vs = .ok items ∧ elementsTyped vs = true ∧
      v.identifiers = elementIdentifiers vs
  | .many vs => by
    intro htyped h
    rw [toFragment] at h
    obtain ⟨items', hvs, hitems⟩ := exists_of_map_eq_ok h
    rw [Fragment.list.inj hitems] at hvs
    exact ⟨vs, rfl, hvs, htyped, rfl⟩
  | .present v => content_of_list v
  | .identifier id => by
    intro _ h
    rw [toFragment] at h
    split at h <;> exact nomatch h
  | .clause fields => by
    intro _ h
    rcases toFragment_clause_cases h with h' | ⟨tokens, h'⟩ <;> exact nomatch h'
  | .text s => by
    intro _ h
    rw [toFragment] at h
    split at h <;> exact nomatch h
  | .fragment f => fun htyped _ => nomatch htyped
  | .unit | .flag _ | .int _ | .float _ | .constant _ | .absent => fun _ h => nomatch h

/-- A list of names is that of the identifiers in the elements, one for each, and all of them valid. -/
theorem identifiers_of_names {vs : List FieldValue} {items : List Fragment}
    (htyped : elementsTyped vs = true) (h : toFragments vs = .ok items)
    (hall : items.all Fragment.isIdentifier = true) :
    AllValid (elementIdentifiers vs) ∧
      items = (elementIdentifiers vs).map fun id => .identifier id.qualifiedName := by
  induction vs generalizing items with
  | nil => exact ⟨allValid_nil, (Except.ok.inj h).symm⟩
  | cons v rest ih =>
    rw [elementsTyped, Bool.and_eq_true] at htyped
    obtain ⟨x, others, hv, hrest, rfl⟩ := exists_of_toFragments_cons h
    rw [List.all_cons, Bool.and_eq_true] at hall
    obtain ⟨name, rfl⟩ : ∃ name, x = .identifier name := by
      cases x with
      | identifier name => exact ⟨name, rfl⟩
      | _ => exact absurd hall.1 (by simp [Fragment.isIdentifier])
    obtain ⟨id, hid, hvalid, rfl⟩ := identifiers_of_name v htyped.1 hv
    obtain ⟨hvalids, hothers⟩ := ih htyped.2 hrest hall.2
    rw [elementIdentifiers, hid, hothers]
    exact ⟨allValid_cons.mpr ⟨hvalid, hvalids⟩, rfl⟩

end FieldValue

namespace FieldSpec

variable {spec : FieldSpec} {b c : Builder}

theorem shownTexts_names {ids : List Identifier} :
    spec.shownTexts (ids.map fun id => .identifier id.qualifiedName) =
      ids.map Identifier.qualifiedName := by
  rw [shownTexts, List.filterMap_map]
  show ids.filterMap (some ∘ Identifier.qualifiedName) = _
  rw [List.filterMap_eq_map]

theorem field_of_identifiers {v : FieldValue} {f : Fragment} {text : String}
    (hs : spec.fault? = none) (hk : spec.kind = .identifier) (hv : v.toFragment = .ok f)
    (hfits : spec.fits f = true) (hset : f.isSet = true) (htext : spec.bodyText f = .ok text)
    (htidy : Text.isTidy text = true) :
    (Writing.field (spec, v)).on b = (.ok (), b.add spec text) := by
  refine Writing.field_of_lead hs ?_ htidy
  rw [Field.emission, hv, emit_eq hs (by simp [hk]), hk]
  exact emitIdentifier_of_bodyText hk hfits hset htext

theorem field_of_name {v : FieldValue} {id : Identifier} (hs : spec.fault? = none)
    (hk : spec.kind = .identifier) (hv : v.toFragment = .ok (.identifier id.qualifiedName)) :
    (Writing.field (spec, v)).on b = (.ok (), b.add spec id.qualifiedName) :=
  field_of_identifiers hs hk hv (by simp [fits, hk]) rfl (by simp [bodyText, hk])
    isTidy_qualifiedName

/-- The token of a list of names, with parentheses or without. -/
theorem field_of_names {v : FieldValue} {ids : List Identifier} (hs : spec.fault? = none)
    (hk : spec.kind = .identifier) (hne : ids ≠ [])
    (hv : v.toFragment = .ok (.list (ids.map fun id => .identifier id.qualifiedName))) :
    (Writing.field (spec, v)).on b = (.ok (), b.add spec
      (spec.wrap (String.intercalate spec.separator (ids.map Identifier.qualifiedName)))) := by
  have hall : (ids.map fun id => Fragment.identifier id.qualifiedName).all Fragment.isIdentifier =
      true := by
    simp [Fragment.isIdentifier]
  have htext : spec.bodyText (.list (ids.map fun id => .identifier id.qualifiedName)) =
      .ok (spec.wrap (String.intercalate spec.separator (ids.map Identifier.qualifiedName))) := by
    rw [bodyText_items, listText_eq (isElement_of_isIdentifier hall), shownTexts_names]
    rfl
  have htidy : Text.isTidy
      (String.intercalate spec.separator (ids.map Identifier.qualifiedName)) = true := by
    refine Text.isTidy_intercalate (by simpa using hne) ?_
    intro t ht
    obtain ⟨id, -, rfl⟩ := List.mem_map.mp ht
    exact isTidy_qualifiedName
  refine field_of_identifiers hs hk hv (by simpa only [fits, hk] using hall)
    (by simpa [Fragment.isSet] using hne) htext ?_
  by_cases hw : spec.wraps = true
  · exact isTidy_wrap hw
  · rw [wrap, if_neg hw]
    exact htidy

end FieldSpec

/-- **What a required field makes of its value**, whatever the builder:

* a value that is not set fails the field and leaves the builder as it was, unless it is an empty
  sequence or a bare flag;
* an empty sequence, under however many options, is passed over in silence, required or not;
* a flag is refused as something that is no identifier;
* whenever the field succeeds with anything else, there are identifiers in its value, all of them are
  valid, and one token is added behind the literal, which holds the names of all of them. -/
theorem required_slot_exact {spec : FieldSpec} (hs : spec.check = .ok ())
    (hr : spec.modifiers.required = true) (b : Builder) :
    (∀ v : FieldValue, v.isSet = false → (∀ x, v ≠ .flag x) → (∀ f, v ≠ .fragment f) →
      v ≠ .many [] →
      (Writing.field (spec, v)).on b = (.error (.missingIdentifier spec.name), b)) ∧
    (∀ v : FieldValue, v.content = .many [] → (Writing.field (spec, v)).on b = (.ok (), b)) ∧
    (∀ (v : FieldValue) (x : Bool), v.content = .flag x →
      (Writing.field (spec, v)).on b = (.error (spec.misfit .notIdentifier), b)) ∧
    (∀ (v : FieldValue) (c : Builder), v.isTyped = true →
      (Writing.field (spec, v)).on b = (.ok (), c) → v.content ≠ .many [] →
      v.identifiers ≠ [] ∧ AllValid v.identifiers ∧ ∃ token, c = b.add spec token ∧
        ∀ id ∈ v.identifiers, id.qualifiedName.toList <:+: token.toList) := by
  have hsound := FieldSpec.check_eq_ok_iff.mp hs
  have hk := FieldSpec.kind_of_required hsound hr
  have hemit : ∀ f, spec.emit (.ok f) = spec.emitIdentifier f := fun f => by
    rw [FieldSpec.emit_eq hsound (by simp [hk]), hk]
  refine ⟨?_, ?_, ?_, ?_⟩
  · intro v hset hflag hraw hmany
    rcases toFragment_of_not_isSet hset hflag hraw with hv | ⟨hnil, -⟩
    · apply Writing.field_of_fail
      rw [Field.emission, hv, hemit, FieldSpec.emitIdentifier, hr]
      rfl
    · exact absurd hnil hmany
  · intro v hcontent
    apply Writing.field_of_nothing
    have hv : v.toFragment = .ok (.list []) := by
      rw [← toFragment_content, hcontent]
      rfl
    rw [Field.emission, hv, hemit]
    rfl
  · intro v x hcontent
    apply Writing.field_of_fail
    have hv : v.toFragment = .ok (.flag x) := by
      rw [← toFragment_content, hcontent]
      rfl
    rw [Field.emission, hv, hemit]
    rfl
  · intro v c htyped hok hcontent
    obtain ⟨f, hv, hfits⟩ :=
      Field.fits_of_succeeds hsound (by simp [hk]) (Writing.field_eq_ok_iff.mp hok).1
    cases f with
    | identifier name =>
      obtain ⟨id, hid, hvalid, rfl⟩ := identifiers_of_name v htyped hv
      have hc := (Prod.mk.inj (hok.symm.trans (FieldSpec.field_of_name hsound hk hv))).2
      refine ⟨by simp [hid], by simp [hid, hvalid], _, hc, fun id' hid' => ?_⟩
      rw [hid, List.mem_singleton] at hid'
      exact hid' ▸ List.infix_refl _
    | list items =>
      have hall : items.all Fragment.isIdentifier = true := by
        simpa only [FieldSpec.fits, hk] using hfits
      obtain ⟨vs, hvs, hitems, htypes, hids⟩ := content_of_list v htyped hv
      obtain ⟨hvalid, hnames⟩ := identifiers_of_names htypes hitems hall
      have hne : elementIdentifiers vs ≠ [] := by
        intro hnil
        rw [hnil] at hnames
        rw [(toFragments_eq_nil hitems).mp hnames] at hvs
        exact hcontent hvs
      rw [hnames] at hv
      have hc := (Prod.mk.inj (hok.symm.trans (FieldSpec.field_of_names hsound hk hne hv))).2
      rw [hids]
      refine ⟨hne, hvalid, _, hc, fun id hid => FieldSpec.infix_wrap ?_⟩
      exact infix_intercalate (List.mem_map_of_mem hid)
    | unset => exact absurd hfits (by simp [FieldSpec.fits, hk, hr])
    | _ => exact absurd hfits (by simp [FieldSpec.fits, hk])

/-- A required list of databases: with one that has no name, with none, and with two. -/
theorem required_slot_exact_databases :
    let spec : FieldSpec :=
      { name := "databases", kind := .identifier, literal := some "OVER",
        modifiers := { required := true, parentheses := true } }
    let unnamed : FieldValue := .identifier (.account { name := "" })
    let two : FieldValue :=
      .many [.identifier (.account { name := "lab" }), .identifier (.account { name := "raw" })]
    let started : Builder := { tokens := ["SHOW"] }
    (Writing.field (spec, unnamed)).on started = (.error (.missingIdentifier "databases"), started) ∧
      (Writing.field (spec, .many [])).on started = (.ok (), started) ∧
      (Writing.field (spec, .flag false)).on started =
        (.error (.notEmittable "databases" .identifier .notIdentifier), started) ∧
      ∃ token, (Writing.field (spec, two)).on started = (.ok (), started.add spec token) ∧
        "\"lab\"".toList <:+: token.toList ∧ "\"raw\"".toList <:+: token.toList := by
  intro spec unnamed two started
  obtain ⟨hmissing, hempty, hflag, hnames⟩ := @required_slot_exact spec rfl rfl started
  have hok : ∃ c, (Writing.field (spec, two)).on started = (.ok (), c) := ⟨_, rfl⟩
  obtain ⟨c, hc⟩ := hok
  obtain ⟨-, -, token, rfl, htoken⟩ := hnames two c rfl hc nofun
  refine ⟨hmissing unnamed rfl nofun nofun nofun, hempty _ rfl, hflag _ _ rfl, token, hc, ?_, ?_⟩
  · exact htoken (.account { name := "lab" }) List.mem_cons_self
  · exact htoken (.account { name := "raw" }) (List.mem_cons_of_mem _ List.mem_cons_self)

end WarehouseAdmin
