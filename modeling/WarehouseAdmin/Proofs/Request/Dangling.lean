import WarehouseAdmin.Proofs.Clause.Blankness
import WarehouseAdmin.Proofs.Clause.Builder
import WarehouseAdmin.Proofs.Request.Idle
import WarehouseAdmin.Proofs.Request.Lookup

/-!
# Literals with nothing behind them

A field that adds anything for its value adds its literal, and behind it the value; and the value is
missing there exactly when nothing is left of it (`FieldSpec.losesText`). A text in quotes or in
parentheses is never lost, and the creation of an alert refuses an action that is blank. The change of
an alert does not: an action counts as given if it is there, it has neither quotes nor parentheses, and
a blank one leaves the literal to itself. `literal_followed_exact` is about both, the field and the
request.
-/

set_option autoImplicit false

namespace WarehouseAdmin

open FieldValue

/-- A keyword that adds anything begins with its literal. -/
theorem Field.literal_first {f : Field} {l : String} (hs : f.1.fault? = none)
    (hk : f.1.kind = .keyword) (hl : f.1.literal = some l) (htidy : Text.isTidy l = true)
    (hok : f.Succeeds) : f.tokens = [] ∨ ∃ rest, f.tokens = l :: rest := by
  have hstatic : f.1.kind ≠ .static := by simp [hk]
  have hliteral : tidyTokens f.1.literal.toList = [l] := by
    rw [hl]
    exact tidyTokens_eq_self (by simpa using htidy)
  obtain ⟨x, hv, hfits⟩ := Field.fits_of_succeeds hs hstatic hok
  by_cases hp : f.1.passesOver x = true
  · exact Or.inl (Field.tokens_of_passesOver hs hstatic hv hfits hp)
  by_cases hflag : ∃ b, x = .flag b
  · obtain ⟨b, rfl⟩ := hflag
    rw [Field.tokens, Field.emission, hv, FieldSpec.emit_eq hs hstatic, hk]
    rw [hl] at hliteral
    cases b with
    | true =>
      refine Or.inr ⟨[], ?_⟩
      rw [← hliteral]
      simp [FieldSpec.emitKeyword, Fragment.isSet, hl, Emission.of]
    | false => exact Or.inl (by simp [FieldSpec.emitKeyword, Fragment.isSet, hl, Emission.nothing])
  · obtain ⟨text, htext⟩ := FieldSpec.bodyText_isOk hstatic hfits (by simpa using hp)
    have htokens := Field.tokens_of_bodyText hs hstatic (fun b hb => absurd ⟨b, hb⟩ hflag) hv hfits
      (by simpa using hp) htext
    rw [hliteral] at htokens
    exact Or.inr ⟨_, htokens⟩

/-! ## The one alternative that is given -/

theorem flatMap_of_countP {α β : Type} {p : α → Bool} {g : α → List β} {l : List α}
    (h : l.countP p = 1) (hnone : ∀ a ∈ l, p a = false → g a = []) {a : α} (ha : a ∈ l)
    (hp : p a = true) : l.flatMap g = g a := by
  induction l with
  | nil => exact absurd ha (by simp)
  | cons x rest ih =>
    rw [List.forall_mem_cons] at hnone
    rw [List.flatMap_cons]
    by_cases hx : p x = true
    · have hrest : ∀ b ∈ rest, ¬ p b = true := List.countP_eq_zero.mp (by simpa [hx] using h)
      have hnil : rest.flatMap g = [] := List.flatMap_eq_nil_iff.mpr fun b hb =>
        hnone.2 b hb (by simpa using hrest b hb)
      rcases List.mem_cons.mp ha with rfl | hmem
      · rw [hnil, List.append_nil]
      · exact absurd hp (hrest a hmem)
    · rcases List.mem_cons.mp ha with rfl | hmem
      · exact absurd hp hx
      · rw [hnone.1 (by simpa using hx), List.nil_append]
        exact ih (by simpa [hx] using h) hnone.2 hmem

/-- Of the alternatives of an accepted request, only the one that is given adds tokens. -/
theorem Request.tokens_of_given {q : Request} (hq : validate q = .ok ()) (hc : q.choices ≠ [])
    {f : Field} (hf : f ∈ q.alternatives) (hset : f.2.isSet = true) :
    q.alternatives.flatMap Field.tokens = f.tokens := by
  refine flatMap_of_countP (count_alternatives hq hc) (fun g hg hunset => ?_) hf hset
  rw [← Field.contributes_eq_false, contributes_eq_of_validate hq (mem_of_mem_alternatives hg),
    ← Bool.not_eq_true]
  intro hspeaks
  exact absurd (given_of_speaks hg hspeaks) (by simp [hunset])

/-! ## Statements that go on in different ways -/

theorem prefix_statement {t : String} {rest : List String} :
    t.toList <+: (statement (t :: rest)).toList := by
  cases rest with
  | nil => simp [statement]
  | cons v rest =>
    rw [statement, String.intercalate_cons_cons, String.append_assoc, String.toList_append]
    exact List.prefix_append _ _

theorem statement_append_inj {ts us vs : List String} (hts : ts ≠ []) (hus : us ≠ [])
    (hvs : vs ≠ []) (h : statement (ts ++ us) = statement (ts ++ vs)) :
    statement us = statement vs := by
  have htexts := congrArg String.toList h
  simp only [statement, String.intercalate_append_of_ne_nil hts hus,
    String.intercalate_append_of_ne_nil hts hvs, String.toList_append] at htexts
  exact String.toList_inj.mp (List.append_cancel_left htexts)

/-- Holds of tokens that cannot be taken for `t`: there are none, or the first is not how `t` begins. -/
def OpensOtherwise (t : String) (us : List String) : Prop :=
  us = [] ∨ ∃ u rest, us = u :: rest ∧ ¬ u.toList <+: t.toList

theorem statement_ne_of_opensOtherwise {t : String} {ts us : List String} (hts : ts ≠ [])
    (ht : Text.isTidy t = true) (h : OpensOtherwise t us) :
    statement (ts ++ us) ≠ statement (ts ++ [t]) := by
  rcases h with rfl | ⟨u, rest, rfl, hu⟩
  · rw [List.append_nil]
    exact (Request.statement_append_ne (List.cons_ne_nil _ _) (List.forall_mem_singleton.mpr ht)).symm
  · intro heq
    have hbehind := statement_append_inj hts (List.cons_ne_nil _ _) (List.cons_ne_nil _ _) heq
    rw [statement, statement, String.intercalate_singleton] at hbehind
    exact hu (hbehind ▸ prefix_statement)

theorem Field.opensOtherwise {f : Field} {l t : String} (hs : f.1.fault? = none)
    (hk : f.1.kind = .keyword) (hl : f.1.literal = some l) (htidy : Text.isTidy l = true)
    (hother : ¬ l.toList <+: t.toList) (hok : f.Succeeds) : OpensOtherwise t f.tokens :=
  (Field.literal_first hs hk hl htidy hok).imp_right fun ⟨rest, hrest⟩ => ⟨l, rest, hrest, hother⟩

/-! ## Changing an alert -/

namespace AlterAlert

/-- What stands before the change. -/
def front (r : AlterAlert) : List String :=
  "ALTER ALERT" :: (if r.ifExists == some true then ["IF EXISTS"] else []) ++ [r.name.qualifiedName]

def acting (r : AlterAlert) : Field := .keyword "modify_action" "MODIFY ACTION" r.modifyAction

/-- The changes to choose from. -/
def changes (r : AlterAlert) : List Field := (Request.alterAlert r).alternatives

theorem fields_eq (r : AlterAlert) :
    Clause.fields r =
      [.fixed "alter" "ALTER ALERT", .keyword "if_exists" "IF EXISTS" r.ifExists,
        .required "name" none r.name] ++ r.changes := by
  rfl

theorem changes_eq (r : AlterAlert) :
    r.changes =
      [.keyword "operation" none r.operation, .keyword "set" "SET" r.set,
        .keyword "unset" "UNSET" r.unset,
        .keyword "modify_condition" "MODIFY CONDITION EXISTS" r.modifyCondition .inParentheses,
        r.acting] := by
  rfl

theorem tokens_front {r : AlterAlert} (hname : r.name.isValid = true) :
    [.fixed "alter" "ALTER ALERT", .keyword "if_exists" "IF EXISTS" r.ifExists,
      Field.required "name" none r.name].flatMap Field.tokens = r.front := by
  have hexists : (Field.keyword "if_exists" "IF EXISTS" r.ifExists).tokens =
      if r.ifExists == some true then ["IF EXISTS"] else [] := by
    cases r.ifExists with
    | none => exact tokens_keyword_none
    | some b => cases b <;> rfl
  have hid : (Field.required "name" none r.name).tokens = [r.name.qualifiedName] := by
    show Field.tokens (⟨"name", .identifier, none, { required := true }⟩,
      .present (.identifier (.schema r.name))) = _
    exact tokens_name (by decide) rfl hname
  rw [List.flatMap_cons, List.flatMap_cons, List.flatMap_cons, List.flatMap_nil, hexists, hid,
    tokens_fixed (by decide), List.append_nil]
  rfl

/-- The statement is what stands before the change and the one change that is given. -/
theorem render_eq {r : AlterAlert} {sql : String} (h : render r = .ok sql) {f : Field}
    (hf : f ∈ r.changes) (hset : f.2.isSet = true) : sql = statement (r.front ++ f.tokens) := by
  obtain ⟨hvalid, hsql⟩ := render_eq_ok_iff.mp h
  have hq : validate (Request.alterAlert r) = .ok () := hvalid
  have hname : r.name.isValid = true := by
    rw [validate_eq_ok_iff] at hq
    simp [Validate.failures, Request.on] at hq
    exact hq.1
  have hgiven : r.changes.flatMap Field.tokens = f.tokens :=
    Request.tokens_of_given hq (List.cons_ne_nil _ _) hf hset
  rw [(toSql_eq_ok_iff.mp hsql).2, fields_eq, List.flatMap_append, tokens_front hname, hgiven]

theorem tokens_acting {r : AlterAlert} {s : String} (hs : r.modifyAction = some s) (hne : s ≠ "") :
    r.acting.tokens = "MODIFY ACTION" :: if Text.isBlankText s then [] else [Text.trim s] := by
  have hv : r.acting.2.toFragment = .ok (.text s) := by
    rw [acting, hs]
    exact toFragment_text hne
  have hp : r.acting.1.passesOver (.text s) = false :=
    FieldSpec.passesOver_of_isSet (by simpa [Fragment.isSet] using hne)
  rw [Field.tokens_of_bodyText rfl (by simp [acting, Field.keyword]) (by simp) hv rfl hp rfl]
  rfl

/-- None of the other changes begins as a changed action does. -/
theorem opensOtherwise_of_change {r : AlterAlert} {f : Field} (hf : f ∈ r.changes)
    (hne : f ≠ r.acting) (hok : f.Succeeds) : OpensOtherwise "MODIFY ACTION" f.tokens := by
  rw [changes_eq] at hf
  simp only [List.mem_cons, List.not_mem_nil, or_false] at hf
  rcases hf with rfl | rfl | rfl | rfl | rfl
  · cases r.operation with
    | none => exact Or.inl tokens_keyword_none
    | some o =>
      cases o with
      | resume => exact Or.inr ⟨"RESUME", [], rfl, by decide⟩
      | suspend => exact Or.inr ⟨"SUSPEND", [], rfl, by decide⟩
  · exact Field.opensOtherwise rfl rfl (Eq.refl (some "SET")) (by decide) (by decide) hok
  · exact Field.opensOtherwise rfl rfl (Eq.refl (some "UNSET")) (by decide) (by decide) hok
  · exact Field.opensOtherwise rfl rfl (Eq.refl (some "MODIFY CONDITION EXISTS")) (by decide)
      (by decide) hok
  · exact absurd rfl hne

theorem acting_mem (r : AlterAlert) : r.acting ∈ r.changes := by
  simp [changes_eq]

theorem isSet_acting (r : AlterAlert) : r.acting.2.isSet = r.modifyAction.isSome := isSet_option

/-- With an action that is given, the literal is left to itself when the action is blank; an empty one
leaves not even the literal. -/
theorem bare_iff_of_action {r : AlterAlert} {sql s : String} (h : render r = .ok sql)
    (hs : r.modifyAction = some s) :
    sql = statement (r.front ++ ["MODIFY ACTION"]) ↔ s ≠ "" ∧ Text.isBlankText s = true := by
  rw [render_eq h r.acting_mem (by simp [isSet_acting, hs])]
  by_cases hempty : s = ""
  · subst hempty
    have hnil : r.acting.tokens = [] := by
      rw [acting, hs]
      rfl
    have hother : statement (r.front ++ r.acting.tokens) ≠
        statement (r.front ++ ["MODIFY ACTION"]) :=
      statement_ne_of_opensOtherwise (List.cons_ne_nil _ _) (by decide) (Or.inl hnil)
    simp [hother]
  · rw [tokens_acting hs hempty]
    by_cases hb : Text.isBlankText s = true
    · simp [hb, hempty]
    · have htrim : Text.trim s ≠ "" := fun htrim => hb (Text.trim_eq_empty_iff.mp htrim)
      have hmore : statement (r.front ++ ["MODIFY ACTION"] ++ [Text.trim s]) ≠
          statement (r.front ++ ["MODIFY ACTION"]) :=
        Request.statement_append_ne (List.cons_ne_nil _ _)
          (List.forall_mem_singleton.mpr (Text.isTidy_trim htrim))
      rw [List.append_assoc] at hmore
      simpa [hb] using hmore

theorem ne_bare_of_no_action {r : AlterAlert} {sql : String} (h : render r = .ok sql)
    (hs : r.modifyAction = none) : sql ≠ statement (r.front ++ ["MODIFY ACTION"]) := by
  obtain ⟨hvalid, hsql⟩ := render_eq_ok_iff.mp h
  have hq : validate (Request.alterAlert r) = .ok () := hvalid
  obtain ⟨f, hf, hset, -⟩ :=
    Request.exists_unique_of_countP (Request.count_alternatives hq (List.cons_ne_nil _ _))
  have hne : f ≠ r.acting := by
    rintro rfl
    rw [isSet_acting, hs] at hset
    exact nomatch hset
  have hok : f.Succeeds :=
    (toSql_eq_ok_iff.mp hsql).1 f (by rw [fields_eq]; exact List.mem_append_right _ hf)
  rw [render_eq h hf hset]
  exact statement_ne_of_opensOtherwise (List.cons_ne_nil _ _) (by decide)
    (opensOtherwise_of_change hf hne hok)

end AlterAlert

/-- **What stands behind a literal that is not blank.** A field that succeeds and adds anything, not for
a flag, adds its literal and its sign and then the text of its value, which is not blank; but the text
is missing if nothing is left of the value. An alert is accepted with such a value, and its statement
then ends with the literal, exactly when the action it is changed to is blank without being empty. -/
theorem literal_followed_exact {spec : FieldSpec} {l : String} (hs : spec.check = .ok ())
    (hk : spec.kind ≠ .static) (hl : spec.literal = some l) (hblank : Text.isBlankText l = false) :
    (∀ (v : FieldValue) (x : Fragment) (b c : Builder), Writing.value v = .ok x →
      (∀ y, x ≠ .flag y) → (Writing.field (spec, v)).on b = (.ok (), c) → c ≠ b →
      ∃ text, spec.bodyText x = .ok text ∧ (Text.trim text = "" ↔ spec.losesText x = true) ∧
        c.tokens = b.tokens ++ (Text.trim l :: spec.sign ++
          if spec.losesText x then [] else [Text.trim text])) ∧
    ∀ (r : AlterAlert) (sql : String), render r = .ok sql →
      (sql = statement (r.front ++ ["MODIFY ACTION"]) ↔
        ∃ s, r.modifyAction = some s ∧ s ≠ "" ∧ Text.isBlankText s = true) := by
  constructor
  · intro v x b c hv hflag hok hadded
    rw [Writing.value_eq] at hv
    rw [FieldSpec.check_eq_ok_iff] at hs
    obtain ⟨hsucceeds, rfl⟩ := Writing.field_eq_ok_iff.mp hok
    obtain ⟨x', hx', hfits⟩ := Field.fits_of_succeeds hs hk hsucceeds
    obtain rfl := Except.ok.inj (hx'.symm.trans hv)
    have hp : spec.passesOver x' = false := by
      rw [← Bool.not_eq_true]
      intro hp
      rw [Field.tokens_of_passesOver hs hk hv hfits hp, List.append_nil] at hadded
      exact hadded rfl
    obtain ⟨text, htext⟩ := FieldSpec.bodyText_isOk hk hfits hp
    have hliteral : tidyTokens spec.literal.toList = [Text.trim l] := by
      rw [hl, Option.toList_some, tidyTokens_singleton, hblank]
      rfl
    refine ⟨text, htext, ?_, ?_⟩
    · rw [Text.trim_eq_empty_iff, FieldSpec.isBlankText_bodyText htext]
    · show b.tokens ++ Field.tokens (spec, v) = _
      rw [Field.tokens_of_bodyText hs hk (fun y hy => absurd hy (hflag y)) hv hfits hp htext, hliteral]
      rfl
  · intro r sql h
    cases hm : r.modifyAction with
    | some s => simpa using AlterAlert.bare_iff_of_action h hm
    | none => simpa using AlterAlert.ne_bare_of_no_action h hm

/-- An action of blanks, as a field and in the change of an alert; and an action with something to do. -/
theorem literal_followed_exact_blankAction :
    let spec : FieldSpec := { name := "action", kind := .keyword, literal := some "MODIFY ACTION" }
    let alert : AlterAlert := { name := ⟨"d", "s", "a"⟩, modifyAction := some " " }
    (∃ c, (Writing.field (spec, .text " ")).on {} = (.ok (), c) ∧ c.tokens = ["MODIFY ACTION"]) ∧
      (∃ c, (Writing.field (spec, .text " CALL p() ")).on {} = (.ok (), c) ∧
        c.tokens = ["MODIFY ACTION", "CALL p()"]) ∧
      ∃ sql, render alert = .ok sql ∧ sql = statement (alert.front ++ ["MODIFY ACTION"]) := by
  intro spec alert
  obtain ⟨hfield, halert⟩ := @literal_followed_exact spec "MODIFY ACTION" rfl nofun rfl (by decide)
  have htokens : ∀ (s : String) (c : Builder), s ≠ "" →
      (Writing.field (spec, .text s)).on {} = (.ok (), c) → c ≠ {} →
      c.tokens = "MODIFY ACTION" :: if Text.isBlankText s then [] else [Text.trim s] := by
    intro s c hs hok hadded
    have hv : Writing.value (.text s) = .ok (.text s) := (Writing.value_eq _).trans (toFragment_text hs)
    obtain ⟨text, htext, -, hc⟩ := hfield (.text s) (.text s) {} c hv nofun hok hadded
    rw [hc, ← Except.ok.inj htext]
    rfl
  refine ⟨⟨_, rfl, htokens " " _ (by decide) rfl (by decide)⟩,
    ⟨_, rfl, htokens " CALL p() " _ (by decide) rfl (by decide)⟩, ?_⟩
  obtain ⟨sql, hsql⟩ : ∃ sql, render alert = .ok sql := ⟨_, rfl⟩
  exact ⟨sql, hsql, (halert alert sql hsql).mpr ⟨" ", rfl, by decide, by decide⟩⟩

end WarehouseAdmin
