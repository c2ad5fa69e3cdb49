import WarehouseAdmin.Proofs.Clause.Shape

/-!
# The tokens of a regular field

Tokens are tidy (`tokens_tidy`), and the plain lead of a regular spec passes the tidying unchanged. So
what a regular field adds is its lead and then the text of the value in its parentheses (`emit_text`),
with the two exceptions of a keyword that is a flag, which has no text, and an identifier, which is
never put in parentheses; and whether it adds anything is decided by its value alone.
-/

set_option autoImplicit false

namespace WarehouseAdmin

open FieldValue

/-! ## Tidying -/

theorem mem_tidyTokens {ts : List String} {t : String} (h : t ∈ tidyTokens ts) :
    Text.isTidy t = true := by
  obtain ⟨hmem, hne⟩ := List.mem_filter.mp h
  obtain ⟨s, _, rfl⟩ := List.mem_map.mp hmem
  exact Text.isTidy_trim (by simpa using hne)

theorem tidyTokens_append {ts us : List String} :
    tidyTokens (ts ++ us) = tidyTokens ts ++ tidyTokens us := by
  rw [tidyTokens, List.map_append, List.filter_append]
  rfl

theorem tidyTokens_eq_self {ts : List String} (h : ∀ t ∈ ts, Text.isTidy t = true) :
    tidyTokens ts = ts := by
  induction ts with
  | nil => rfl
  | cons t rest ih =>
    rw [List.forall_mem_cons] at h
    have hne := Text.ne_empty_of_isTidy h.1
    have hcons : tidyTokens (t :: rest) = tidyTokens [t] ++ tidyTokens rest :=
      @tidyTokens_append [t] rest
    rw [hcons, ih h.2, tidyTokens, List.map_singleton, Text.trim_eq_self h.1]
    simp [hne]

theorem tidyTokens_singleton {s : String} :
    tidyTokens [s] = if Text.isBlankText s then [] else [Text.trim s] := by
  by_cases hs : Text.isBlankText s = true
  · rw [if_pos hs, tidyTokens, List.map_singleton, Text.trim_eq_empty_iff.mpr hs]
    rfl
  · have hne : Text.trim s ≠ "" := fun h => hs (Text.trim_eq_empty_iff.mp h)
    rw [if_neg hs, tidyTokens, List.map_singleton]
    simp [hne]

namespace Emission

/-- Holds of an emission whose tokens are tidy. -/
def IsTidy (e : Emission) : Prop := ∀ t ∈ e.tokens, Text.isTidy t = true

@[simp] theorem isTidy_nothing : IsTidy nothing := by
  simp [IsTidy, nothing]

@[simp] theorem isTidy_fail {e : EmissionError} : IsTidy (fail e) := by
  simp [IsTidy, fail]

@[simp] theorem isTidy_of {ts : List String} : IsTidy (of ts) := fun _ ht => mem_tidyTokens ht

@[simp] theorem isTidy_emitValue {spec : FieldSpec} {before : List String}
    {value : Except EmissionError String} : IsTidy (spec.emitValue before value) := by
  cases value with
  | error e => exact isTidy_fail
  | ok text => exact isTidy_of

@[simp] theorem isTidy_emitItems {spec : FieldSpec} {items : List Fragment} :
    IsTidy (spec.emitItems items) := by
  unfold FieldSpec.emitItems
  split
  · exact isTidy_nothing
  · split
    · exact fun _ ht => mem_tidyTokens ht
    · exact isTidy_of

/-- Whatever the spec and the value, a field adds tidy tokens only. -/
theorem isTidy_emit {spec : FieldSpec} {value : Except EmissionError Fragment} :
    IsTidy (spec.emit value) := by
  unfold FieldSpec.emit
  split
  · exact isTidy_fail
  · split
    · exact isTidy_of
    · exact isTidy_fail
    · unfold FieldSpec.emitKeyword
      repeat' split
      all_goals simp
    · unfold FieldSpec.emitIdentifier
      repeat' split
      all_goals simp
    · unfold FieldSpec.emitParameter
      repeat' split
      all_goals simp
    · unfold FieldSpec.emitList
      split <;> simp

end Emission

theorem tokens_tidy {f : Field} : ∀ t ∈ f.tokens, Text.isTidy t = true := Emission.isTidy_emit

theorem flatMap_tokens_tidy {fields : List Field} :
    ∀ t ∈ fields.flatMap Field.tokens, Text.isTidy t = true := by
  intro t ht
  obtain ⟨f, _, hft⟩ := List.mem_flatMap.mp ht
  exact tokens_tidy t hft

/-! ## What stands before a value -/

namespace FieldSpec

theorem wrap_eq {spec : FieldSpec} (h : spec.wraps = true) (text : String) :
    spec.wrap text = "(" ++ text ++ ")" := if_pos h

theorem isTidy_wrap {spec : FieldSpec} (h : spec.wraps = true) {text : String} :
    Text.isTidy (spec.wrap text) = true := by
  rw [wrap_eq h, String.append_assoc]
  exact Text.isTidy_append (by decide) (Text.closesTidy_append (by decide))

/-- The literal enters a statement trimmed, and not at all if it is blank; the sign stays either way. -/
theorem tidyTokens_lead_eq {spec : FieldSpec} (hs : spec.fault? = none) :
    tidyTokens spec.lead = tidyTokens spec.literal.toList ++ spec.sign := by
  have hequals : tidyTokens ["="] = ["="] := by decide
  have hfault := fault?_eq_none_iff.mp hs
  unfold lead sign
  cases hl : spec.literal with
  | none =>
    cases h : spec.kind with
    | parameter => exact absurd hl (hfault.1 (Or.inr h))
    | identifier =>
      have hno : spec.modifiers.equals = false := by
        rw [← Bool.not_eq_true]
        exact fun he => (hfault.2.2.2.1 he).2 hl
      simp [hno, tidyTokens]
    | _ => rfl
  | some l =>
    have hcons : tidyTokens [l, "="] = tidyTokens [l] ++ ["="] := by
      rw [← hequals, ← tidyTokens_append, hequals]
      rfl
    cases h : spec.kind with
    | parameter => cases hno : spec.modifiers.noEquals <;> simp [parameterLead, hno, hcons]
    | identifier => cases he : spec.modifiers.equals <;> simp [identifierLead, hl, he, hcons]
    | _ => simp

theorem lead_plain {spec : FieldSpec} (hs : spec.isRegular = true) :
    ∀ t ∈ spec.lead, Text.isPlain t = true := by
  have hlit := (isRegular_iff.mp hs).2.2.2
  have heq : Text.isPlain "=" = true := by decide
  intro t ht
  unfold lead at ht
  cases hl : spec.literal with
  | none => exact absurd ht (by simp [hl])
  | some l =>
    have hplain := hlit l hl
    simp only [hl, parameterLead, identifierLead] at ht
    repeat' split at ht
    all_goals
      simp only [List.mem_cons, List.not_mem_nil, or_false] at ht
      rcases ht with rfl | rfl <;> assumption

theorem lead_ne_nil {spec : FieldSpec} (h : spec.literal.isSome = true) : spec.lead ≠ [] := by
  obtain ⟨l, hl⟩ := Option.isSome_iff_exists.mp h
  simp only [lead, hl, parameterLead, identifierLead]
  repeat' split
  all_goals simp

theorem tidyTokens_lead {spec : FieldSpec} (hs : spec.isRegular = true) :
    tidyTokens spec.lead = spec.lead :=
  tidyTokens_eq_self fun t ht => Text.isTidy_of_isPlain (lead_plain hs t ht)

theorem valueText_flag {spec : FieldSpec} {b : Bool} :
    spec.valueText (.flag b) = .ok (if b then "TRUE" else "FALSE") := by
  cases b <;> rfl

/-! ## What is emitted -/

section
variable {spec : FieldSpec}

/-- A static field is its literal, whatever its value. -/
theorem emit_static (hs : spec.isRegular = true) (hk : spec.kind = .static) :
    ∃ l, Text.isPlain l = true ∧ ∀ value, spec.emit value = ⟨[l], none⟩ := by
  have hreg := isRegular_iff.mp hs
  obtain ⟨l, hl⟩ := literal_of_fault? hreg.1 (Or.inl hk)
  have hplain := hreg.2.2.2 l hl
  have htidy : tidyTokens [l] = [l] :=
    tidyTokens_eq_self (by simpa using Text.isTidy_of_isPlain hplain)
  refine ⟨l, hplain, fun value => ?_⟩
  simp [emit, hreg.1, hk, hl, Emission.of, htidy]

/-- What is not set adds nothing. -/
theorem emit_of_not_isSet (hs : spec.isRegular = true) (ht : spec.takesText = true) {x : Fragment}
    (hx : x.isSet = false) : spec.emit (.ok x) = .nothing := by
  obtain ⟨hsound, -, hm, -⟩ := isRegular_iff.mp hs
  have hk : spec.kind ≠ .static := by rcases takesText_iff.mp ht with hk | hk <;> simp [hk]
  have hfits : spec.fits x = true := by
    refine fits_of_takesText ht ?_ ?_
    · rintro b rfl
      exact nomatch hx
    · rintro items rfl
      have hnil : items = [] := by simpa [Fragment.isSet] using hx
      rw [hnil]
      rfl
  exact emit_of_passesOver hsound hk hfits (by rw [passesOver_eq_not_isSet hm, hx]; rfl)

theorem emit_unset (hs : spec.isRegular = true) (hk : spec.kind ≠ .static)
    (hr : spec.modifiers.required = false) : spec.emit (.ok .unset) = .nothing := by
  obtain ⟨hsound, -, hm, -⟩ := isRegular_iff.mp hs
  exact emit_of_passesOver hsound hk (fits_unset hr) (by rw [passesOver_eq_not_isSet hm]; rfl)

/-- A keyword that is a flag is its literal or nothing. -/
theorem emit_flag (hs : spec.isRegular = true) (hk : spec.kind = .keyword)
    (hl : spec.literal.isSome = true) {b : Bool} :
    spec.emit (.ok (.flag b)) = ⟨if b then spec.lead else [], none⟩ := by
  obtain ⟨l, hlit⟩ := Option.isSome_iff_exists.mp hl
  have hlead : spec.lead = [l] := by simp [lead, hlit, hk]
  rw [emit_eq (isRegular_iff.mp hs).1 (by simp [hk]), hk]
  cases b with
  | false => simp [emitKeyword, Fragment.isSet, hlit, Emission.nothing]
  | true =>
    have htidy := tidyTokens_lead hs
    rw [hlead] at htidy
    simp [emitKeyword, Fragment.isSet, hlit, hlead, Emission.of, htidy]

/-- The lead of a regular spec passes the tidying. -/
theorem emit_of_bodyText_regular (hs : spec.isRegular = true) (hk : spec.kind ≠ .static) {x : Fragment}
    (hflag : ∀ b, x = .flag b → spec.kind ≠ .keyword) (hfits : spec.fits x = true)
    (hx : x.isSet = true) {text : String} (htext : spec.bodyText x = .ok text) :
    spec.emit (.ok x) = ⟨spec.lead ++ tidyTokens [text], none⟩ := by
  rw [emit_of_bodyText (isRegular_iff.mp hs).1 hk hflag hfits (passesOver_of_isSet hx) htext,
    Emission.of, tidyTokens_append, tidyTokens_lead hs]

/-- A name is written as it stands. -/
theorem emit_identifier (hs : spec.isRegular = true) (hk : spec.kind = .identifier)
    {name : String} :
    spec.emit (.ok (.identifier name)) = ⟨spec.lead ++ tidyTokens [name], none⟩ :=
  emit_of_bodyText_regular hs (by simp [hk]) (by simp) (by simp [fits, hk]) rfl
    (by simp [bodyText, hk])

/-- **The form of everything else**: the lead, and the text of the value in its parentheses. -/
theorem emit_text (hs : spec.isRegular = true) (ht : spec.takesText = true) {x : Fragment}
    (hx : x.isSet = true) (hflag : ∀ b, x = .flag b → spec.kind = .parameter) {text : String}
    (htext : spec.valueText x = .ok text) :
    spec.emit (.ok x) = ⟨spec.lead ++ tidyTokens [spec.wrap text], none⟩ := by
  have hk := takesText_iff.mp ht
  have hunset : x ≠ .unset := by
    rintro rfl
    exact nomatch hx
  have hfits : spec.fits x = true := by
    refine fits_of_takesText ht (fun b hb => ?_) fun items hitems => ?_
    · obtain ⟨l, hl⟩ := literal_of_fault? (isRegular_iff.mp hs).1 (Or.inr (hflag b hb))
      simp [hl]
    · exact (valueText_isOk hunset).mp ⟨text, htext⟩ items hitems
  refine emit_of_bodyText_regular hs ?_ (fun b hb => by simp [hflag b hb]) hfits hx ?_
  · rcases hk with hk | hk <;> simp [hk]
  · rw [bodyText_valueText (by rcases hk with hk | hk <;> simp [hk])
      (by rcases hk with hk | hk <;> simp [hk]), htext]
    rfl

end

end FieldSpec

end WarehouseAdmin
