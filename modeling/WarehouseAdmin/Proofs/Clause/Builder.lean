import WarehouseAdmin.Clause.Builder
import WarehouseAdmin.Clause.Sample
import WarehouseAdmin.Proofs.Clause.Tokens

/-!
# What is written to a builder

A builder is changed step by step, and the tokens of one field stand behind those of the fields
before it. `Writes w e` says that a step does not depend on what is there: onto any builder it puts
the tokens of the emission `e`, and its outcome is the failure of `e`. Every step of the writing is
shown to write the emission of the same name, and `Writes` is closed under one step after another.
So the writing of a clause comes down to its emission (`writes_fields`), by induction over the tree
of the clause, in which the builders of the clauses within it are taken care of as well.
-/

set_option autoImplicit false

namespace WarehouseAdmin

open FieldValue

namespace Emission

/-- How the one who writes it comes off. -/
def outcome (e : Emission) : Except EmissionError Unit :=
  match e.failure with
  | some failure => .error failure
  | none => .ok ()

/-- The second emission is reached if the first does not fail. -/
def andThen (e e' : Emission) : Emission :=
  match e.failure with
  | some _ => e
  | none => ⟨e.tokens ++ e'.tokens, e'.failure⟩

theorem andThen_of_failure {e : Emission} {f : EmissionError} (h : e.failure = some f)
    (e' : Emission) : e.andThen e' = e := by
  rw [andThen, h]

theorem andThen_of_none {e : Emission} (h : e.failure = none) (e' : Emission) :
    e.andThen e' = ⟨e.tokens ++ e'.tokens, e'.failure⟩ := by
  rw [andThen, h]

theorem of_tokens (ts : List String) : (of ts).tokens = tidyTokens ts := rfl

theorem of_andThen_of (ts us : List String) : (of ts).andThen (of us) = of (ts ++ us) := by
  show (⟨tidyTokens ts ++ tidyTokens us, none⟩ : Emission) = ⟨tidyTokens (ts ++ us), none⟩
  rw [tidyTokens_append]

theorem outcome_eq_ok {e : Emission} : e.outcome = .ok () ↔ e.failure = none := by
  unfold outcome
  cases e.failure <;> simp

theorem outcome_eq_error {e : Emission} {f : EmissionError} :
    e.outcome = .error f ↔ e.failure = some f := by
  unfold outcome
  cases e.failure <;> simp

end Emission

/-- The builder with the field's literal, its sign and one more token added. -/
def Builder.add (b : Builder) (spec : FieldSpec) (token : String) : Builder :=
  ⟨b.tokens ++ (tidyTokens spec.literal.toList ++ spec.sign ++ [token])⟩

namespace Writing

/-- Onto any builder, `w` puts the tokens of `e`, and ends as `e` does. -/
def Writes (w : Writing Unit) (e : Emission) : Prop :=
  ∀ b : Builder, w.on b = (e.outcome, ⟨b.tokens ++ e.tokens⟩)

section
variable {w w' : Writing Unit} {e e' : Emission}

theorem writes_return : Writes (pure ()) .nothing := by
  intro b
  show (Except.ok (), b) = (Except.ok (), (⟨b.tokens ++ []⟩ : Builder))
  rw [List.append_nil]

theorem writes_throw (f : EmissionError) : Writes (throw f) (.fail f) := by
  intro b
  show (Except.error f, b) = (Except.error f, (⟨b.tokens ++ []⟩ : Builder))
  rw [List.append_nil]

/-- A token is trimmed and, if blank, dropped, as it enters the builder. -/
theorem writes_push (t : String) : Writes (push t) (.of [t]) := by
  intro b
  show (Except.ok (), b.push t) = (Except.ok (), (⟨b.tokens ++ (Emission.of [t]).tokens⟩ : Builder))
  rw [Emission.of_tokens, Builder.push]
  by_cases ht : Text.trim t = ""
  · simp [tidyTokens, ht]
  · simp [tidyTokens, ht]

theorem on_seq_of_ok {b c : Builder} (h : w.on b = (.ok (), c)) :
    (do w; w' : Writing Unit).on b = w'.on c := by
  simp only [on, ExceptT.run_bind, StateT.run_bind] at h ⊢
  rw [h]
  rfl

theorem on_seq_of_error {b c : Builder} {f : EmissionError} (h : w.on b = (.error f, c)) :
    (do w; w' : Writing Unit).on b = (.error f, c) := by
  simp only [on, ExceptT.run_bind, StateT.run_bind] at h ⊢
  rw [h]
  rfl

/-- One step after the other writes one emission after the other. -/
theorem Writes.andThen (hw : Writes w e) (hw' : Writes w' e') :
    Writes (do w; w') (e.andThen e') := by
  intro b
  have hfirst := hw b
  cases hf : e.failure with
  | some f =>
    rw [Emission.outcome_eq_error.mpr hf] at hfirst
    rw [on_seq_of_error hfirst, Emission.andThen_of_failure hf, Emission.outcome_eq_error.mpr hf]
  | none =>
    rw [Emission.outcome_eq_ok.mpr hf] at hfirst
    rw [on_seq_of_ok hfirst, Emission.andThen_of_none hf, hw', List.append_assoc]
    rfl

theorem Writes.append {ts us : List String} (hw : Writes w (.of ts)) (hw' : Writes w' (.of us)) :
    Writes (do w; w') (.of (ts ++ us)) := by
  rw [← Emission.of_andThen_of]
  exact hw.andThen hw'

/-- What a step needs is there, or it fails before it adds anything. -/
theorem writes_from {α : Type} {x : Except EmissionError α} {k : α → Writing Unit}
    (hok : ∀ a, x = .ok a → Writes (k a) e) (herr : ∀ f, x = .error f → e = .fail f) :
    Writes (do let a ← x; k a) e := by
  cases hx : x with
  | ok a => exact hok a hx
  | error f =>
    rw [herr f hx]
    exact writes_throw f

end

end Writing

namespace FieldSpec

open Writing

variable {spec : FieldSpec}

theorem writes_literal : Writes spec.writeLiteral (.of spec.literal.toList) := by
  unfold writeLiteral
  cases spec.literal with
  | none => exact writes_return
  | some l => exact writes_push l

theorem requireLiteral_eq {l : String} (hl : spec.literal = some l) :
    spec.requireLiteral = .ok l := by
  rw [requireLiteral, hl]

/-- What stands before a value is written once the text of the value is known. -/
theorem writes_value {before : Writing Unit} {ts : List String} (hb : Writes before (.of ts))
    (value : Except EmissionError String) :
    Writes (do let text ← value; before; push (spec.wrap text)) (spec.emitValue ts value) := by
  apply writes_from
  · intro text htext
    rw [htext, emitValue]
    exact hb.append (writes_push _)
  · intro f hf
    rw [hf, emitValue]

theorem writes_keyword (f : Fragment) : Writes (spec.writeKeyword f) (spec.emitKeyword f) := by
  unfold writeKeyword emitKeyword
  by_cases hset : f.isSet = true
  · rw [if_pos hset, if_pos hset]
    cases f with
    | flag b =>
      cases hl : spec.literal with
      | none =>
        simp only [requireLiteral, hl]
        exact writes_throw _
      | some l =>
        simp only [requireLiteral, hl]
        cases b with
        | false => exact writes_return
        | true => exact writes_push l
    | _ => exact writes_value writes_literal _
  · rw [if_neg hset, if_neg hset]
    exact writes_return

theorem writes_name (name : String) :
    Writes (spec.writeName name) (.of (spec.identifierLead ++ [name])) := by
  unfold writeName writeLiteral identifierLead
  cases spec.literal with
  | none =>
    have hnone : Writes (pure ()) (.of []) := writes_return
    exact hnone.append (writes_push name)
  | some l =>
    cases spec.modifiers.equals with
    | false => exact (writes_push l).append (writes_push name)
    | true => exact (writes_push l).append ((writes_push "=").append (writes_push name))

theorem writes_identifier (f : Fragment) :
    Writes (spec.writeIdentifier f) (spec.emitIdentifier f) := by
  cases f with
  | unset =>
    unfold writeIdentifier emitIdentifier
    cases spec.modifiers.required with
    | false => exact writes_return
    | true => exact writes_throw _
  | identifier name => exact writes_name name
  | list items =>
    cases items with
    | nil => exact writes_return
    | cons f rest =>
      rw [emitIdentifier_list]
      show Writes (if (f :: rest).all Fragment.isIdentifier then _ else _) _
      by_cases hall : (f :: rest).all Fragment.isIdentifier = true
      · rw [if_pos hall, if_pos hall]
        apply writes_from
        · intro text htext
          rw [htext, emitValue]
          exact writes_name _
        · intro e he
          rw [he, emitValue]
      · rw [if_neg hall, if_neg hall]
        exact writes_throw _
  | _ => exact writes_throw _

theorem writes_parameter (f : Fragment) : Writes (spec.writeParameter f) (spec.emitParameter f) := by
  unfold writeParameter emitParameter parameterLead
  cases hl : spec.literal with
  | none =>
    simp only [requireLiteral, hl]
    exact writes_throw _
  | some l =>
    simp only [requireLiteral, hl]
    show Writes (if spec.parameterSkips f then _ else _) _
    by_cases hskip : spec.parameterSkips f = true
    · rw [if_pos hskip, if_pos hskip]
      exact writes_return
    · rw [if_neg hskip, if_neg hskip]
      apply writes_from
      · intro text htext
        rw [htext, emitValue]
        cases spec.modifiers.noEquals with
        | true => exact (writes_push l).append (writes_push _)
        | false => exact (writes_push l).append ((writes_push "=").append (writes_push _))
      · intro e he
        rw [he, emitValue]

/-- The only step that fails with something added: the literal stays. -/
theorem writes_items (items : List Fragment) :
    Writes (spec.writeItems items) (spec.emitItems items) := by
  unfold writeItems emitItems
  split
  · exact writes_return
  · cases htext : spec.listText items with
    | ok text => exact writes_literal.append (writes_push _)
    | error e =>
      have h := (@writes_literal spec).andThen (writes_throw e)
      rw [Emission.andThen_of_none rfl, Emission.fail, List.append_nil] at h
      exact h

theorem writes_list (f : Fragment) : Writes (spec.writeList f) (spec.emitList f) := by
  cases f with
  | unset => exact writes_items []
  | list items => exact writes_items items
  | _ => exact writes_throw _

/-- **Writing a field puts its emission on the builder**, whatever the kind and the modifiers. A value
that cannot be had fails its field before anything is added, unless the field is static. -/
theorem writes_emit (value : Except EmissionError Fragment) :
    Writes (spec.write value) (spec.emit value) := by
  unfold write emit check
  cases hs : spec.fault? with
  | some e => exact writes_throw e
  | none =>
    by_cases hk : spec.kind = .static
    · obtain ⟨l, hl⟩ := literal_of_fault? hs (Or.inl hk)
      rw [hk, hl, requireLiteral_eq hl]
      exact writes_push l
    · cases value with
      | error e =>
        cases hk' : spec.kind with
        | static => exact absurd hk' hk
        | _ => exact writes_throw e
      | ok f =>
        cases hk' : spec.kind with
        | static => exact absurd hk' hk
        | keyword => exact writes_keyword f
        | identifier => exact writes_identifier f
        | parameter => exact writes_parameter f
        | list => exact writes_list f

end FieldSpec

namespace Writing

theorem collect_eq {w : Writing Unit} {e : Emission} (h : Writes w e) :
    w.collect = e.result.map Builder.mk := by
  unfold collect
  rw [h {}]
  unfold Emission.outcome Emission.result
  cases e.failure with
  | none => rfl
  | some f => rfl

theorem writeFields_cons_eq {f : Field} {rest : List Field} :
    writeFields (f :: rest) = f.emission.andThen (writeFields rest) := by
  cases hf : f.emission.failure with
  | none =>
    rw [writeFields_cons hf, Emission.andThen_of_none hf]
    rfl
  | some e => rw [writeFields_cons_of_failure hf, Emission.andThen_of_failure hf]

mutual

/-- A value comes to the same form, be it collected by builders or not. The induction is over the tree
of the value. -/
theorem value_eq : (v : FieldValue) → value v = v.toFragment
  | .present v => by
    rw [value, FieldValue.toFragment]
    exact value_eq v
  | .many vs => by rw [value, FieldValue.toFragment, values_eq vs]
  | .clause fs => by
    rw [value, FieldValue.toFragment, collect_eq (writes_fields fs)]
    cases (writeFields fs).result <;> rfl
  | .unit | .flag _ | .int _ | .float _ | .text _ | .identifier _ | .constant _ | .absent
  | .fragment _ => rfl

theorem values_eq : (vs : List FieldValue) → values vs = toFragments vs
  | [] => rfl
  | v :: rest => by
    rw [values, toFragments, value_eq v, values_eq rest]
    cases v.toFragment with
    | error e => rfl
    | ok f => cases toFragments rest <;> rfl

/-- **Writing the fields of a clause puts the emission of the clause on the builder.** -/
theorem writes_fields : (fs : List Field) → Writes (fields fs) (writeFields fs)
  | [] => writes_return
  | (spec, v) :: rest => by
    rw [fields, writeFields_cons_eq, value_eq v]
    exact (FieldSpec.writes_emit v.toFragment).andThen (writes_fields rest)

end

theorem writes_field (f : Field) : Writes (field f) f.emission := by
  rw [field, value_eq]
  exact FieldSpec.writes_emit f.2.toFragment

/-! Each of the ways in which an emission can end is one way of leaving a builder. -/

section
variable {f : Field} {b c : Builder}

theorem field_of_nothing (h : f.emission = .nothing) : (field f).on b = (.ok (), b) := by
  rw [writes_field f b, h]
  show (Except.ok (), (⟨b.tokens ++ []⟩ : Builder)) = _
  rw [List.append_nil]

theorem field_of_tokens {ts : List String} (h : f.emission = .of ts) :
    (field f).on b = (.ok (), ⟨b.tokens ++ tidyTokens ts⟩) := by
  rw [writes_field f b, h]
  rfl

theorem field_of_lead {text : String} (hs : f.1.fault? = none)
    (h : f.emission = .of (f.1.lead ++ [text])) (htext : Text.isTidy text = true) :
    (field f).on b = (.ok (), b.add f.1 text) := by
  have htidy : tidyTokens [text] = [text] := tidyTokens_eq_self (by simpa using htext)
  rw [field_of_tokens h, tidyTokens_append, FieldSpec.tidyTokens_lead_eq hs, htidy, Builder.add]

theorem field_of_fail {e : EmissionError} (h : f.emission = .fail e) :
    (field f).on b = (.error e, b) := by
  rw [writes_field f b, h]
  show (Except.error e, (⟨b.tokens ++ []⟩ : Builder)) = _
  rw [List.append_nil]

theorem field_eq_ok_iff :
    (field f).on b = (.ok (), c) ↔ f.Succeeds ∧ c = ⟨b.tokens ++ f.tokens⟩ := by
  rw [writes_field f b, Prod.mk.injEq, Emission.outcome_eq_ok]
  exact and_congr_right fun _ => eq_comm

end

/-- A clause is emitted as its own builder ends. -/
theorem collect_clause {α : Type} [Clause α] (a : α) :
    (clause a).collect.map Builder.finish = toSql a := by
  rw [clause, collect_eq (writes_fields _), toSql]
  cases (writeFields (Clause.fields a)).result <;> rfl

end Writing

/-! ## A field alone -/

namespace Field

/-- What the field does to an empty builder. -/
def alone (f : Field) : Except EmissionError Unit × Builder := (Writing.field f).on {}

theorem alone_eq (f : Field) : f.alone = (f.emission.outcome, ⟨f.tokens⟩) :=
  Writing.writes_field f {}

theorem alone_eq_ok {f : Field} : f.alone.1 = .ok () ↔ f.Succeeds := by
  rw [alone_eq]
  exact Emission.outcome_eq_ok

theorem alone_eq_error {f : Field} {e : EmissionError} :
    f.alone.1 = .error e ↔ f.emission.failure = some e := by
  rw [alone_eq]
  exact Emission.outcome_eq_error

theorem alone_tokens (f : Field) : f.alone.2.tokens = f.tokens := by
  rw [alone_eq]

/-- A clause within a statement stands there as it stands alone: it is one token, which is neither
trimmed nor put in parentheses. -/
theorem emission_nested {f : Field} (hs : f.1.fault? = none) (hk : f.1.kind = .keyword)
    (hw : f.1.wraps = false) {fs : List Field}
    (hv : f.2.toFragment = toFragment (.clause fs)) (hset : isSet (.clause fs) = true)
    (hfs : ∀ g ∈ fs, g.Succeeds) (hne : fs.flatMap Field.tokens ≠ []) :
    f.emission =
      ⟨tidyTokens f.1.literal.toList ++ [statement (fs.flatMap Field.tokens)], none⟩ := by
  have htidy : Text.isTidy (statement (fs.flatMap Field.tokens)) = true :=
    Text.isTidy_intercalate hne flatMap_tokens_tidy
  have hx : (Fragment.clause (fs.flatMap Field.tokens)).isSet = true := by
    simpa [Fragment.isSet] using hne
  rw [emission, hv, toFragment_clause hfs, if_pos hset]
  unfold FieldSpec.emit
  rw [hs, hk]
  show f.1.emitKeyword _ = _
  unfold FieldSpec.emitKeyword
  rw [if_pos hx]
  show Emission.of (f.1.literal.toList ++ [f.1.wrap (statement _)]) = _
  rw [FieldSpec.wrap, if_neg (by simp [hw]), Emission.of, tidyTokens_append,
    tidyTokens_eq_self fun t ht => List.mem_singleton.mp ht ▸ htidy]

end Field

/-! ## The first field that fails -/

section
variable {before after : List Field} {f : Field} {e : EmissionError}

theorem writeFields_of_first (hbefore : ∀ g ∈ before, g.Succeeds) (hf : f.emission.failure = some e) :
    writeFields (before ++ f :: after) = ⟨before.flatMap Field.tokens ++ f.tokens, some e⟩ := by
  induction before with
  | nil =>
    rw [List.nil_append, writeFields_cons_of_failure hf, ← hf]
    rfl
  | cons g rest ih =>
    rw [List.forall_mem_cons] at hbefore
    rw [List.cons_append, writeFields_cons hbefore.1, ih hbefore.2, List.flatMap_cons,
      List.append_assoc]

theorem exists_first {fields : List Field} (h : (writeFields fields).failure = some e) :
    ∃ before f after, fields = before ++ f :: after ∧ (∀ g ∈ before, g.Succeeds) ∧
      f.emission.failure = some e := by
  induction fields with
  | nil => exact absurd h (by simp [writeFields, Emission.nothing])
  | cons f rest ih =>
    cases hf : f.emission.failure with
    | some e' =>
      rw [writeFields_cons_of_failure hf, hf] at h
      exact ⟨[], f, rest, rfl, by simp, hf.trans h⟩
    | none =>
      rw [writeFields_cons hf] at h
      obtain ⟨before, g, after, rfl, hbefore, hg⟩ := ih h
      exact ⟨f :: before, g, after, rfl, List.forall_mem_cons.mpr ⟨hf, hbefore⟩, hg⟩

end

/-! ## A clause, field by field -/

section
variable {α : Type} [Clause α] {a : α} {b c : Builder}

theorem writes_clause (a : α) : Writing.Writes (Writing.clause a) (writeFields (Clause.fields a)) :=
  Writing.writes_fields _

theorem tokens_of_written (h : (Writing.clause a).on b = (.ok (), c)) :
    (∀ f ∈ Clause.fields a, f.Succeeds) ∧
      c.tokens = b.tokens ++ (Clause.fields a).flatMap Field.tokens := by
  rw [writes_clause a b] at h
  obtain ⟨hok, rfl⟩ := Prod.mk.inj h
  have hall := writeFields_failure_eq_none.mp (Emission.outcome_eq_ok.mp hok)
  rw [writeFields_eq hall]
  exact ⟨hall, rfl⟩

theorem flatMap_alone (fs : List Field) :
    (fs.flatMap fun f => f.alone.2.tokens) = fs.flatMap Field.tokens := by
  simp only [Field.alone_tokens]

end

/-- **The writing of a clause is the writing of its fields, each for itself**, in their order and
whatever is on the builder.

* If it succeeds, then so does every field alone, and behind what was there come the tokens of each.
* So what is written for two values that differ in one field differs in the segment of that field.
* A keyword without parentheses that holds a clause writes its literal, trimmed as any token, and then
  the statement that the clause is on its own.
* If it fails, then for the first field that fails alone, with the tokens up to there. -/
theorem clause_written_by_fields {α : Type} [Clause α] (a : α) (b : Builder) :
    (∀ c, (Writing.clause a).on b = (.ok (), c) →
      (∀ f ∈ Clause.fields a, f.alone.1 = .ok ()) ∧
      c.tokens = b.tokens ++ (Clause.fields a).flatMap fun f => f.alone.2.tokens) ∧
    (∀ (a' : α) (before after : List Field) (f f' : Field) (c c' : Builder),
      Clause.fields a = before ++ f :: after → Clause.fields a' = before ++ f' :: after →
      (Writing.clause a).on b = (.ok (), c) → (Writing.clause a').on b = (.ok (), c') →
      ∃ left right, c.tokens = left ++ f.alone.2.tokens ++ right ∧
        c'.tokens = left ++ f'.alone.2.tokens ++ right) ∧
    (∀ f ∈ Clause.fields a, f.1.fault? = none → f.1.kind = .keyword → f.1.wraps = false →
      ∀ {β : Type} [Clause β] (x : β) (d : String),
        f.2 = toFieldValue x ∨ f.2 = toFieldValue (some x) → isGiven x = true →
        (Writing.clause x).collect.map Builder.finish = .ok d → d ≠ "" →
        f.alone = (.ok (), ⟨tidyTokens f.1.literal.toList ++ [d]⟩)) ∧
    (∀ (before after : List Field) (f : Field) (e : EmissionError),
      Clause.fields a = before ++ f :: after → (∀ g ∈ before, g.alone.1 = .ok ()) →
      f.alone.1 = .error e →
      (Writing.clause a).on b = (.error e,
        ⟨b.tokens ++ (before.flatMap fun g => g.alone.2.tokens) ++ f.alone.2.tokens⟩)) ∧
    (∀ e, ((Writing.clause a).on b).1 = .error e →
      ∃ before f after, Clause.fields a = before ++ f :: after ∧
        (∀ g ∈ before, g.alone.1 = .ok ()) ∧ f.alone.1 = .error e) := by
  refine ⟨?_, ?_, ?_, ?_, ?_⟩
  · intro c hc
    obtain ⟨hall, htokens⟩ := tokens_of_written hc
    refine ⟨fun f hf => Field.alone_eq_ok.mpr (hall f hf), ?_⟩
    rw [htokens, flatMap_alone]
  · intro a' before after f f' c c' ha ha' hc hc'
    have htokens := (tokens_of_written hc).2
    have htokens' := (tokens_of_written hc').2
    rw [ha] at htokens
    rw [ha'] at htokens'
    refine ⟨b.tokens ++ before.flatMap Field.tokens, after.flatMap Field.tokens, ?_, ?_⟩
    · simp [htokens, Field.alone_tokens]
    · simp [htokens', Field.alone_tokens]
  · intro f _ hs hk hw β _ x d hf hset hd hne
    rw [Writing.collect_clause] at hd
    obtain ⟨hx, rfl⟩ := toSql_eq_ok_iff.mp hd
    have hv : f.2.toFragment = toFragment (.clause (Clause.fields x)) := by
      rcases hf with hf | hf
      · rw [hf]
        rfl
      · rw [hf]
        show toFragment (.present (.clause (Clause.fields x))) = _
        rw [toFragment]
    have hnil : (Clause.fields x).flatMap Field.tokens ≠ [] := by
      intro h
      rw [h] at hne
      exact hne rfl
    have hem := Field.emission_nested hs hk hw hv hset hx hnil
    rw [Field.alone_eq, Field.tokens, hem]
    rfl
  · intro before after f e ha hbefore hf
    have hfirst : ∀ g ∈ before, g.Succeeds := fun g hg => Field.alone_eq_ok.mp (hbefore g hg)
    rw [writes_clause a b, ha, writeFields_of_first hfirst (Field.alone_eq_error.mp hf),
      flatMap_alone, Field.alone_tokens, ← List.append_assoc]
    rfl
  · intro e he
    rw [writes_clause a b] at he
    obtain ⟨before, f, after, ha, hbefore, hf⟩ := exists_first (Emission.outcome_eq_error.mp he)
    exact ⟨before, f, after, ha, fun g hg => Field.alone_eq_ok.mpr (hbefore g hg),
      Field.alone_eq_error.mpr hf⟩

/-- A clause among other fields: what it is on its own stands behind its literal. -/
theorem set_clause_written :
    let set : Sample.ThingSet := { autoSuspend := some 5 }
    let thing : Sample.AlterThing := { name := ⟨"t"⟩, set := some set }
    let field : Field := .keyword "set" "SET" thing.set
    field ∈ Clause.fields thing ∧
      (Writing.clause set).collect.map Builder.finish = .ok "AUTO_SUSPEND = 5" ∧
      field.alone = (.ok (), ⟨["SET", "AUTO_SUSPEND = 5"]⟩) := by
  intro set thing field
  have hmem : field ∈ Clause.fields thing := by simp [Clause.fields, field]
  have hset : (Writing.clause set).collect.map Builder.finish = .ok "AUTO_SUSPEND = 5" := rfl
  exact ⟨hmem, hset, (clause_written_by_fields thing {}).2.2.1 field hmem rfl rfl rfl set
    "AUTO_SUSPEND = 5" (Or.inr rfl) rfl hset (by decide)⟩

end WarehouseAdmin
