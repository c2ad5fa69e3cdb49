import WarehouseAdmin.Proofs.Clause.Builder

/-!
# What a field refuses

A field fails for one of two reasons: its spec contradicts itself, which is asked before the value
is looked at, or the value does not fit the kind. `Refuses` lists the values that a sound spec
refuses, each with the error that it is refused with. The list is complete
(`emit_failure_eq_some_iff`): no other step on the way to the tokens can fail once the spec has been
checked. In particular a literal that is missing is reported for a flag as a keyword and nowhere
else, although three kinds ask for it.
-/

set_option autoImplicit false

namespace WarehouseAdmin

namespace Fragment

/-- Why the fragment cannot be an element of a list. -/
def elementFault? : Fragment → Option Misfit
  | .unset => some .unsetElement
  | .list _ => some .nestedList
  | _ => none

theorem elementFault?_eq_none {f : Fragment} : f.elementFault? = none ↔ f.isElement = true := by
  cases f <;> simp [elementFault?, isElement]

theorem elementFault?_ne_none {f : Fragment} :
    f.elementFault? ≠ none ↔ f = .unset ∨ ∃ inner, f = .list inner := by
  cases f <;> simp [elementFault?]

theorem isIdentifier_eq_false {f : Fragment} :
    f.isIdentifier = false ↔ ∀ name, f ≠ .identifier name := by
  cases f <;> simp [isIdentifier]

end Fragment

namespace FieldSpec

variable {spec : FieldSpec} {f : Fragment} {items : List Fragment} {e : EmissionError}

/-- The values that a sound spec refuses, and the error that says so. -/
inductive Refuses (spec : FieldSpec) : Fragment → EmissionError → Prop where
  /-- A flag has no text, so a keyword needs a literal to stand for it. -/
  | flag (b : Bool) (hk : spec.kind = .keyword) (hl : spec.literal = none) :
      Refuses spec (.flag b) spec.lackingLiteral
  | missing (hk : spec.kind = .identifier) (hr : spec.modifiers.required = true) :
      Refuses spec .unset (.missingIdentifier spec.name)
  | notName {f : Fragment} (hk : spec.kind = .identifier) (hunset : f ≠ .unset)
      (hname : ∀ name, f ≠ .identifier name) (hlist : ∀ items, f ≠ .list items) :
      Refuses spec f (spec.misfit .notIdentifier)
  | notNames {items : List Fragment} {g : Fragment} (hk : spec.kind = .identifier) (hg : g ∈ items)
      (hname : ∀ name, g ≠ .identifier name) :
      Refuses spec (.list items) (spec.misfit .notIdentifiers)
  | notSequence {f : Fragment} (hk : spec.kind = .list) (hunset : f ≠ .unset)
      (hlist : ∀ items, f ≠ .list items) : Refuses spec f (spec.misfit .notSequence)
  /-- The first element that cannot be one is reported. -/
  | element {items : List Fragment} {cause : Misfit}
      (hk : spec.kind = .keyword ∨ spec.kind = .parameter ∨ spec.kind = .list)
      (h : items.findSome? Fragment.elementFault? = some cause) :
      Refuses spec (.list items) (spec.misfit cause)

/-! ## The texts that there are not -/

theorem elementText_of_fault {cause : Misfit} (h : f.elementFault? = some cause) :
    spec.elementText f = .error (spec.misfit cause) := by
  cases f with
  | unset =>
    rw [← Option.some.inj h]
    rfl
  | list items =>
    rw [← Option.some.inj h]
    rfl
  | _ => exact nomatch h

/-- The elements before the first faulty one have their texts. -/
theorem elementTexts_of_fault {cause : Misfit}
    (h : items.findSome? Fragment.elementFault? = some cause) :
    spec.elementTexts items = .error (spec.misfit cause) := by
  induction items with
  | nil => exact nomatch h
  | cons f rest ih =>
    rw [List.findSome?_cons] at h
    rw [elementTexts]
    cases hf : f.elementFault? with
    | some found =>
      rw [hf] at h
      rw [elementText_of_fault hf, Option.some.inj h]
    | none =>
      rw [hf] at h
      obtain ⟨text, htext⟩ := (elementText_isOk spec).mpr (Fragment.elementFault?_eq_none.mp hf)
      rw [htext, ih h]
      rfl

theorem listText_of_fault {cause : Misfit}
    (h : items.findSome? Fragment.elementFault? = some cause) :
    spec.listText items = .error (spec.misfit cause) := by
  rw [listText, elementTexts_of_fault h]
  rfl

theorem items_ne_nil_of_fault {cause : Misfit}
    (h : items.findSome? Fragment.elementFault? = some cause) : items.isEmpty = false := by
  cases items with
  | nil => exact nomatch h
  | cons f rest => rfl

/-! ## Every refusal is an error of the field, and there is no other -/

/-- A faulty element fails all three kinds of field that take sequences of anything. -/
theorem emit_items_of_fault {cause : Misfit} (hs : spec.fault? = none)
    (hk : spec.kind = .keyword ∨ spec.kind = .parameter ∨ spec.kind = .list)
    (h : items.findSome? Fragment.elementFault? = some cause) :
    (spec.emit (.ok (.list items))).failure = some (spec.misfit cause) := by
  have hne := items_ne_nil_of_fault h
  have hset : (Fragment.list items).isSet = true := by
    rw [Fragment.isSet, hne]
    rfl
  have hvalue (before : List String) :
      (spec.emitValue before (spec.valueText (.list items))).failure =
        some (spec.misfit cause) := by
    rw [valueText, listText_of_fault h]
    rfl
  unfold emit
  rw [hs]
  rcases hk with hk | hk | hk
  · rw [hk]
    show (spec.emitKeyword (.list items)).failure = _
    unfold emitKeyword
    rw [if_pos hset]
    exact hvalue _
  · obtain ⟨l, hl⟩ := literal_of_fault? hs (Or.inr hk)
    have hskip : spec.parameterSkips (.list items) = false := by simp [parameterSkips, hset]
    rw [hk]
    show (spec.emitParameter (.list items)).failure = _
    unfold emitParameter
    rw [hl]
    simp only [hskip]
    exact hvalue _
  · rw [hk]
    show (spec.emitItems items).failure = _
    unfold emitItems
    rw [hne, listText_of_fault h]
    rfl

/-- A value that is refused fails its field, with the error of the refusal. One case per refusal. -/
theorem emit_of_refuses (hs : spec.fault? = none) (h : spec.Refuses f e) :
    (spec.emit (.ok f)).failure = some e := by
  unfold emit
  rw [hs]
  cases h with
  | flag b hk hl =>
    rw [hk]
    show (spec.emitKeyword (.flag b)).failure = _
    simp only [emitKeyword, Fragment.isSet, hl]
    rfl
  | missing hk hr =>
    rw [hk]
    show (spec.emitIdentifier .unset).failure = _
    rw [emitIdentifier, if_pos hr]
    rfl
  | notName hk hunset hname hlist =>
    rw [hk]
    show (spec.emitIdentifier f).failure = _
    cases f with
    | unset => exact absurd rfl hunset
    | identifier name => exact absurd rfl (hname name)
    | list items => exact absurd rfl (hlist items)
    | _ => rfl
  | @notNames items g hk hg hname =>
    rw [hk]
    show (spec.emitIdentifier (.list items)).failure = _
    have hall : ¬ items.all Fragment.isIdentifier = true := by
      rw [List.all_eq_true]
      intro hall
      exact absurd (hall g hg) (by simp [Fragment.isIdentifier_eq_false.mpr hname])
    cases items with
    | nil => exact absurd hg List.not_mem_nil
    | cons first rest =>
      rw [emitIdentifier_list, if_neg hall]
      rfl
  | notSequence hk hunset hlist =>
    rw [hk]
    show (spec.emitList f).failure = _
    cases f with
    | unset => exact absurd rfl hunset
    | list items => exact absurd rfl (hlist items)
    | _ => rfl
  | element hk hcause =>
    have hfailure := emit_items_of_fault hs hk hcause
    unfold emit at hfailure
    rwa [hs] at hfailure

theorem exists_fault (h : items.all Fragment.isElement = false) :
    ∃ cause, items.findSome? Fragment.elementFault? = some cause := by
  obtain ⟨g, hg, hfault⟩ := List.all_eq_false.mp h
  refine Option.ne_none_iff_exists'.mp fun hnone => ?_
  exact hfault (Fragment.elementFault?_eq_none.mp (List.findSome?_eq_none_iff.mp hnone g hg))

/-- What does not fit is refused. One case per kind. -/
theorem exists_refuses (h : spec.fits f = false) : ∃ e, spec.Refuses f e := by
  cases hk : spec.kind with
  | static => exact absurd h (by simp [fits, hk])
  | keyword =>
    cases f with
    | flag b => exact ⟨_, .flag b hk (by simpa [fits, hk] using h)⟩
    | list items =>
      obtain ⟨cause, hcause⟩ := exists_fault (by simpa only [fits, hk] using h)
      exact ⟨_, .element (Or.inl hk) hcause⟩
    | _ => exact absurd h (by simp [fits, hk])
  | identifier =>
    cases f with
    | unset => exact ⟨_, .missing hk (by simpa [fits, hk] using h)⟩
    | identifier name => exact absurd h (by simp [fits, hk])
    | list items =>
      have hall : items.all Fragment.isIdentifier = false := by simpa only [fits, hk] using h
      obtain ⟨g, hg, hname⟩ := List.all_eq_false.mp hall
      exact ⟨_, .notNames hk hg (Fragment.isIdentifier_eq_false.mp (by simpa using hname))⟩
    | _ => exact ⟨_, .notName hk nofun nofun nofun⟩
  | parameter =>
    cases f with
    | list items =>
      obtain ⟨cause, hcause⟩ := exists_fault (by simpa only [fits, hk] using h)
      exact ⟨_, .element (Or.inr (Or.inl hk)) hcause⟩
    | _ => exact absurd h (by simp [fits, hk])
  | list =>
    cases f with
    | unset => exact absurd h (by simp [fits, hk])
    | list items =>
      obtain ⟨cause, hcause⟩ := exists_fault (by simpa only [fits, hk] using h)
      exact ⟨_, .element (Or.inr (Or.inr hk)) hcause⟩
    | _ => exact ⟨_, .notSequence hk nofun nofun⟩

/-- **A sound field fails with an error exactly if it refuses the value with it.** -/
theorem emit_failure_eq_some_iff (hs : spec.fault? = none) :
    (spec.emit (.ok f)).failure = some e ↔ spec.Refuses f e := by
  constructor
  · intro hfailure
    have hfits : spec.fits f = false := by
      rw [← Bool.not_eq_true, ← emit_failure_eq_none_iff hs, hfailure]
      exact nofun
    obtain ⟨e', hrefuses⟩ := exists_refuses hfits
    have he := hfailure.symm.trans (emit_of_refuses hs hrefuses)
    rw [Option.some.inj he]
    exact hrefuses
  · exact emit_of_refuses hs

/-- The refused values by themselves, kind by kind. -/
theorem exists_refuses_iff :
    (∃ e, spec.Refuses f e) ↔
      (spec.kind = .keyword ∧ spec.literal = none ∧ ∃ x, f = .flag x) ∨
      (spec.kind = .identifier ∧
        ((f = .unset ∧ spec.modifiers.required = true) ∨
          (f ≠ .unset ∧ (∀ name, f ≠ .identifier name) ∧ ∀ items, f ≠ .list items) ∨
          ∃ items, f = .list items ∧ ∃ g ∈ items, ∀ name, g ≠ .identifier name)) ∨
      (spec.kind = .list ∧ f ≠ .unset ∧ ∀ items, f ≠ .list items) ∨
      ((spec.kind = .keyword ∨ spec.kind = .parameter ∨ spec.kind = .list) ∧
        ∃ items, f = .list items ∧ ∃ g ∈ items, g = .unset ∨ ∃ inner, g = .list inner) := by
  constructor
  · rintro ⟨e, h⟩
    cases h with
    | flag b hk hl => exact Or.inl ⟨hk, hl, b, rfl⟩
    | missing hk hr => exact Or.inr (Or.inl ⟨hk, Or.inl ⟨rfl, hr⟩⟩)
    | notName hk hunset hname hlist =>
      exact Or.inr (Or.inl ⟨hk, Or.inr (Or.inl ⟨hunset, hname, hlist⟩)⟩)
    | notNames hk hg hname =>
      exact Or.inr (Or.inl ⟨hk, Or.inr (Or.inr ⟨_, rfl, _, hg, hname⟩)⟩)
    | notSequence hk hunset hlist => exact Or.inr (Or.inr (Or.inl ⟨hk, hunset, hlist⟩))
    | element hk hcause =>
      obtain ⟨g, hg, hfault⟩ := List.exists_of_findSome?_eq_some hcause
      have hne : g.elementFault? ≠ none := by simp [hfault]
      exact Or.inr (Or.inr (Or.inr ⟨hk, _, rfl, g, hg, Fragment.elementFault?_ne_none.mp hne⟩))
  · rintro (⟨hk, hl, b, rfl⟩ |
      ⟨hk, ⟨rfl, hr⟩ | ⟨hunset, hname, hlist⟩ | ⟨items, rfl, g, hg, hname⟩⟩ |
      ⟨hk, hunset, hlist⟩ | ⟨hk, items, rfl, g, hg, hfault⟩)
    · exact ⟨_, .flag b hk hl⟩
    · exact ⟨_, .missing hk hr⟩
    · exact ⟨_, .notName hk hunset hname hlist⟩
    · exact ⟨_, .notNames hk hg hname⟩
    · exact ⟨_, .notSequence hk hunset hlist⟩
    · have hall : items.all Fragment.isElement = false := by
        refine List.all_eq_false.mpr ⟨g, hg, fun helement => ?_⟩
        have hnone := Fragment.elementFault?_eq_none.mpr helement
        exact Fragment.elementFault?_ne_none.mpr hfault hnone
      obtain ⟨cause, hcause⟩ := exists_fault hall
      exact ⟨_, .element hk hcause⟩

theorem check_eq_error_iff : spec.check = .error e ↔ spec.fault? = some e := by
  unfold check
  cases spec.fault? <;> simp

/-- The outcome of writing a field is the failure of its emission. -/
theorem write_fails_iff {value : Except EmissionError Fragment} {b : Builder} :
    (∃ c, (spec.write value).on b = (.error e, c)) ↔ (spec.emit value).failure = some e := by
  rw [writes_emit value b, ← Emission.outcome_eq_error]
  constructor
  · rintro ⟨c, hc⟩
    exact (Prod.mk.inj hc).1
  · intro he
    exact ⟨_, by rw [he]⟩

end FieldSpec

/-- **Which values a field fails with**, whatever the builder.

* A spec that fails its check fails with the error of the check, and nothing is written. The value
  is not looked at, nor does it matter whether there is one.
* A static field with a sound spec never fails, whatever becomes of its value.
* Any other field with a sound spec fails exactly with: a flag, where a keyword has no literal; what
  is missing, where an identifier is required, and what is neither a name nor a list of names, where
  there ought to be one; what is no sequence, where a list is written; and a sequence with an
  element that is unset or a sequence itself, as a keyword, a parameter or a list. It is `Refuses`
  that says with which error.
* With a sound spec, only a flag as a keyword can lack its literal. -/
theorem field_refuses_exactly (spec : FieldSpec) (b : Builder) :
    (∀ e, spec.check = .error e → ∀ value, (spec.write value).on b = (.error e, b)) ∧
    (spec.check = .ok () → spec.kind = .static →
      ∀ value, ∃ c, (spec.write value).on b = (.ok (), c)) ∧
    (spec.check = .ok () → spec.kind ≠ .static → ∀ f,
      ((∃ e c, (spec.write (.ok f)).on b = (.error e, c)) ↔
        (spec.kind = .keyword ∧ spec.literal = none ∧ ∃ x, f = .flag x) ∨
        (spec.kind = .identifier ∧
          ((f = .unset ∧ spec.modifiers.required = true) ∨
            (f ≠ .unset ∧ (∀ name, f ≠ .identifier name) ∧ ∀ items, f ≠ .list items) ∨
            ∃ items, f = .list items ∧ ∃ g ∈ items, ∀ name, g ≠ .identifier name)) ∨
        (spec.kind = .list ∧ f ≠ .unset ∧ ∀ items, f ≠ .list items) ∨
        ((spec.kind = .keyword ∨ spec.kind = .parameter ∨ spec.kind = .list) ∧
          ∃ items, f = .list items ∧ ∃ g ∈ items, g = .unset ∨ ∃ inner, g = .list inner)) ∧
      ∀ e, (∃ c, (spec.write (.ok f)).on b = (.error e, c)) ↔ spec.Refuses f e) ∧
    (spec.check = .ok () → ∀ f field kind c,
      (spec.write (.ok f)).on b = (.error (.missingLiteral field kind), c) →
      field = spec.name ∧ kind = .keyword ∧ spec.kind = .keyword ∧ spec.literal = none ∧
        ∃ x, f = .flag x) := by
  refine ⟨?_, ?_, ?_, ?_⟩
  · intro e he value
    have hfault : spec.fault? = some e := FieldSpec.check_eq_error_iff.mp he
    have hfail : spec.emit value = .fail e := by
      unfold FieldSpec.emit
      rw [hfault]
    rw [FieldSpec.writes_emit value b, hfail]
    show (Except.error e, (⟨b.tokens ++ []⟩ : Builder)) = _
    rw [List.append_nil]
  · intro hs hk value
    have hof : spec.emit value = .of spec.literal.toList := by
      unfold FieldSpec.emit
      rw [FieldSpec.check_eq_ok_iff.mp hs, hk]
    rw [FieldSpec.writes_emit value b, hof]
    exact ⟨_, rfl⟩
  · intro hs hk f
    have hrefuses (e : EmissionError) :
        (∃ c, (spec.write (.ok f)).on b = (.error e, c)) ↔ spec.Refuses f e :=
      FieldSpec.write_fails_iff.trans
        (FieldSpec.emit_failure_eq_some_iff (FieldSpec.check_eq_ok_iff.mp hs))
    refine ⟨?_, hrefuses⟩
    rw [← FieldSpec.exists_refuses_iff]
    exact exists_congr hrefuses
  · intro hs f field kind c hc
    have hfailure := FieldSpec.write_fails_iff.mp ⟨c, hc⟩
    rw [FieldSpec.emit_failure_eq_some_iff (FieldSpec.check_eq_ok_iff.mp hs)] at hfailure
    generalize he : EmissionError.missingLiteral field kind = e at hfailure
    cases hfailure with
    | flag x hk hl =>
      obtain ⟨rfl, rfl⟩ := EmissionError.missingLiteral.inj he
      exact ⟨rfl, hk, hk, hl, x, rfl⟩
    | _ => exact nomatch he

/-- A sequence within a sequence, for a parameter without a literal, for a static field and for a
list; and a flag that does not hold, for a keyword without a literal. -/
theorem field_refuses_exactly_nested :
    let nested : Except EmissionError Fragment := .ok (.list [.int 1, .list []])
    let faulty : FieldSpec := { name := "limit", kind := .parameter }
    let fixed : FieldSpec := { name := "word", kind := .static, literal := some "SHOW" }
    let list : FieldSpec := { name := "sizes", kind := .list, literal := some "SIZES" }
    let bare : FieldSpec := { name := "terse", kind := .keyword }
    let started : Builder := { tokens := ["SHOW"] }
    (faulty.write nested).on started = (.error (.missingLiteral "limit" .parameter), started) ∧
      (∃ c, (fixed.write nested).on started = (.ok (), c)) ∧
      (∃ c, (list.write nested).on started =
        (.error (.notEmittable "sizes" .list .nestedList), c)) ∧
      (bare.write (.ok (.flag false))).on started =
        (.error (.missingLiteral "terse" .keyword), started) ∧
      bare.kind = .keyword ∧ bare.literal = none := by
  intro nested faulty fixed list bare started
  have hfaulty := (field_refuses_exactly faulty started).1 _ rfl nested
  have hfixed := (field_refuses_exactly fixed started).2.1 rfl rfl nested
  have hlist := (field_refuses_exactly list started).2.2.1 rfl nofun (.list [.int 1, .list []])
  have hnested := (hlist.2 (list.misfit .nestedList)).mpr (.element (Or.inr (Or.inr rfl)) rfl)
  have hbare : (bare.write (.ok (.flag false))).on started =
      (.error (.missingLiteral "terse" .keyword), started) := rfl
  obtain ⟨-, -, hk, hl, -⟩ := (field_refuses_exactly bare started).2.2.2 rfl _ _ _ _ hbare
  exact ⟨hfaulty, hfixed, hnested, hbare, hk, hl⟩

end WarehouseAdmin
