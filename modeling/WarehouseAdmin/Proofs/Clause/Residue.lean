import WarehouseAdmin.Proofs.Clause.Builder

/-!
# What a failed field leaves behind

A field that fails ought to leave the builder as it was, so that nothing of it shows in what is
written afterwards. Most fields do: a spec is checked, a value is converted and its text is put
together before the first token is added, and each of these steps can fail only by itself
(`Emission.FailsClean`). A list adds its literal first and then looks at its elements. So a literal
is left behind when an element has no text, being unset or a list itself, and in no other case
(`failed_field_exact`).
-/

set_option autoImplicit false

namespace WarehouseAdmin

namespace Emission

/-- Nothing is added before the field fails, if it fails at all. -/
def FailsClean (e : Emission) : Prop := e.failure ≠ none → e.tokens = []

@[simp] theorem failsClean_nothing : FailsClean nothing := fun _ => rfl

@[simp] theorem failsClean_fail {e : EmissionError} : FailsClean (fail e) := fun _ => rfl

@[simp] theorem failsClean_of {ts : List String} : FailsClean (of ts) := fun h => absurd rfl h

/-- The text of a value is known before anything is added. -/
@[simp] theorem failsClean_emitValue {spec : FieldSpec} {before : List String}
    {value : Except EmissionError String} : FailsClean (spec.emitValue before value) := by
  cases value with
  | error e => exact failsClean_fail
  | ok text => exact failsClean_of

end Emission

namespace FieldSpec

open Emission

variable {spec : FieldSpec} {value : Except EmissionError Fragment}

/-- The spec is that of a list, and one of the elements has no text. -/
def FailsLate (spec : FieldSpec) (value : Except EmissionError Fragment) : Prop :=
  spec.fault? = none ∧ spec.kind = .list ∧
    ∃ items, value = .ok (.list items) ∧ items.all Fragment.isElement = false

theorem failsClean_emitItems {items : List Fragment} (h : items.all Fragment.isElement = true) :
    FailsClean (spec.emitItems items) :=
  fun hfailure => absurd (emitItems_failure.mpr h) hfailure

/-- An element without a text is met behind the literal. -/
theorem emitItems_of_not_isElement {items : List Fragment}
    (h : items.all Fragment.isElement = false) :
    ∃ e, spec.emitItems items = ⟨tidyTokens spec.literal.toList, some e⟩ := by
  have hitems : items.isEmpty = false := by
    cases items with
    | nil => exact nomatch h
    | cons _ _ => rfl
  have htext : ∃ e, spec.listText items = .error e := by
    cases hok : spec.listText items with
    | error e => exact ⟨e, rfl⟩
    | ok text =>
      have hall := (listText_isOk spec).mp ⟨text, hok⟩
      exact absurd (h.symm.trans hall) (by simp)
  obtain ⟨e, he⟩ := htext
  refine ⟨e, ?_⟩
  unfold emitItems
  rw [hitems, he]
  rfl

/-- One case for each kind of field; only that of lists asks for more than the texts being known
beforehand. -/
theorem failsClean_emit (h : ¬ spec.FailsLate value) : FailsClean (spec.emit value) := by
  unfold emit
  cases hs : spec.fault? with
  | some e => exact failsClean_fail
  | none =>
    cases value with
    | error e => cases spec.kind <;> simp
    | ok f =>
      cases hk : spec.kind with
      | static => exact failsClean_of
      | keyword =>
        show FailsClean (spec.emitKeyword f)
        unfold emitKeyword
        repeat' split
        all_goals simp
      | identifier =>
        show FailsClean (spec.emitIdentifier f)
        unfold emitIdentifier
        repeat' split
        all_goals simp
      | parameter =>
        show FailsClean (spec.emitParameter f)
        unfold emitParameter
        repeat' split
        all_goals simp
      | list =>
        cases f with
        | unset => exact failsClean_emitItems rfl
        | list items =>
          cases hall : items.all Fragment.isElement with
          | true => exact failsClean_emitItems hall
          | false => exact absurd ⟨hs, hk, items, rfl, hall⟩ h
        | _ => exact failsClean_fail

/-- The literal of a field, as it stands on a builder. -/
theorem tokens_literal (b : Builder) :
    (⟨b.tokens ++ tidyTokens spec.literal.toList⟩ : Builder) = spec.literal.elim b b.push := by
  have hliteral := congrArg Prod.snd (@writes_literal spec b)
  refine hliteral.symm.trans ?_
  unfold writeLiteral
  cases spec.literal <;> rfl

theorem emit_of_failsLate (h : spec.FailsLate value) :
    ∃ e, spec.emit value = ⟨tidyTokens spec.literal.toList, some e⟩ := by
  obtain ⟨hs, hk, items, rfl, hitems⟩ := h
  unfold emit
  rw [hs, hk]
  exact emitItems_of_not_isElement hitems

end FieldSpec

/-- **A field that fails leaves the builder as it was, lists apart.** Whatever the builder, the spec
and the outcome of the value's conversion:

* if the field fails, and it is not a list with an element that has no text, then the builder is the
  one before the call, and whatever is written afterwards is written as if the field had not been
  there;
* a list with such an element fails, and its literal is on the builder. -/
theorem failed_field_exact (spec : FieldSpec) (value : Except EmissionError Fragment) (b : Builder) :
    (∀ e c, (spec.write value).on b = (.error e, c) → ¬ spec.FailsLate value → c = b) ∧
      (spec.FailsLate value →
        ∃ e, (spec.write value).on b = (.error e, spec.literal.elim b b.push)) := by
  refine ⟨fun e c h hclean => ?_, fun hlate => ?_⟩
  · rw [FieldSpec.writes_emit value b] at h
    obtain ⟨houtcome, rfl⟩ := Prod.mk.inj h
    have hfailure := Emission.outcome_eq_error.mp houtcome
    rw [FieldSpec.failsClean_emit hclean (by rw [hfailure]; exact nofun), List.append_nil]
  · obtain ⟨e, he⟩ := FieldSpec.emit_of_failsLate hlate
    refine ⟨e, ?_⟩
    rw [FieldSpec.writes_emit value b, he, ← FieldSpec.tokens_literal]
    rfl

/-- The second of two numbers is missing: a list leaves its literal behind, and a keyword with the
same value does not. -/
theorem failed_field_exact_missingNumber :
    let numbers : FieldValue := .many [.present (.int 1), .absent]
    let list : FieldSpec := { name := "numbers", kind := .list, literal := some "NUMBERS" }
    let keyword : FieldSpec := { list with kind := .keyword }
    let started : Builder := { tokens := ["SHOW"] }
    list.FailsLate (Writing.value numbers) ∧ ¬ keyword.FailsLate (Writing.value numbers) ∧
      (∃ e c, (Writing.field (list, numbers)).on started = (.error e, c) ∧
        c.finish = "SHOW NUMBERS") ∧
      ∃ e c, (Writing.field (keyword, numbers)).on started = (.error e, c) ∧ c.finish = "SHOW" := by
  intro numbers list keyword started
  have hlate : list.FailsLate (Writing.value numbers) := ⟨rfl, rfl, _, rfl, rfl⟩
  have hearly : ¬ keyword.FailsLate (Writing.value numbers) := fun h => nomatch h.2.1
  obtain ⟨e, he⟩ := (failed_field_exact list (Writing.value numbers) started).2 hlate
  have hkeyword : ∃ e c, (Writing.field (keyword, numbers)).on started = (.error e, c) := ⟨_, _, rfl⟩
  obtain ⟨e', c, hc⟩ := hkeyword
  obtain rfl := (failed_field_exact keyword (Writing.value numbers) started).1 e' c hc hearly
  exact ⟨hlate, hearly, ⟨e, _, he, by decide +kernel⟩, e', _, hc, by decide +kernel⟩

end WarehouseAdmin
