import WarehouseAdmin.Proofs.Request.Choice

/-!
# Accepted requests that do nothing

Of the fields of which a rule asks for exactly one, an accepted request has exactly one that is given
(`count_alternatives`). That this one also speaks is not part of the rule. The requests for which it
stays silent are called *idle* here, and `isIdle` lists them, by what they hold: a flag that is there
and does not hold, an empty text, a group of properties that are all silent.

An idle request passes its check and is sent as its header, that is, as what stands before the first
alternative: `ALTER WAREHOUSE` and a name, and no word about what is to be altered. No other accepted
request is. So the condition is exact, in both directions.
-/

set_option autoImplicit false

namespace WarehouseAdmin
namespace Request

/-- Says whether the alternative that is given has nothing to write: a flag that does not hold, an
empty text, or a group of properties that are all silent. -/
def isIdle : Request → Bool
  | .alterWarehouse r =>
    r.suspend == some false || r.resume == some false || r.abortAllQueries == some false ||
      r.set.any isSilent || r.unset.any isSilent
  | .alterDatabase r => r.set.any isSilent || r.unset.any isSilent
  | .alterSchema r =>
    r.set.any isSilent || r.unset.any isSilent || r.enableManagedAccess == some false ||
      r.disableManagedAccess == some false
  | .alterAlert r =>
    r.set.any isSilent || r.unset.any isSilent || r.modifyCondition == some "" ||
      r.modifyAction == some ""
  | .within r => r.account == some false
  | .timeTravel r => r.timestamp == some "" || r.statement == some ""
  | _ => false

section
variable {α : Type}

/-- An optional value that is there without speaking. -/
theorem given_silent {o : Option α} {p : α → Bool} :
    (o.isSome = true ∧ o.any p = false) ↔ o.any (fun a => !p a) = true := by
  cases o <;> simp

theorem any_not {o : Option Bool} : (o.any fun b => !b) = (o == some false) := by
  cases o with
  | none => rfl
  | some b => cases b <;> rfl

theorem any_empty {o : Option String} : (o.any fun s => !(s != "")) = (o == some "") := by
  cases o <;> simp [bne]

end

section

attribute [local simp] alternatives choices fieldsNamed Clause.fields Request.on Field.fixed
  Field.keyword Field.parameter Field.identifier Field.required AlterWarehouse.actions
  AlterDatabase.actions AlterSchema.actions AlterAlert.actions

theorem isIdle_iff {q : Request} (hq : validate q = .ok ()) :
    q.isIdle = true ↔ ∃ f ∈ q.alternatives, f.2.isSet = true ∧ f.speaks = false := by
  rw [validate_eq_ok_iff] at hq
  -- Both sides become disjunctions over the alternatives. The right one also speaks of names that are
  -- given and not valid, which the rules in `hq` exclude.
  cases q <;> simp [Validate.failures] at hq <;>
    simp [isIdle, Field.speaks, given_silent, any_not, any_empty, Option.any_eq_true]
  all_goals grind

/-! ## The statement before and after its first alternative -/

/-- The fields before the first alternative. -/
def header (q : Request) : List Field :=
  (Clause.fields q).takeWhile fun f => !q.choices.contains f.1.name

/-- The fields from the first alternative on. -/
def body (q : Request) : List Field :=
  (Clause.fields q).dropWhile fun f => !q.choices.contains f.1.name

theorem header_append_body {q : Request} : q.header ++ q.body = Clause.fields q :=
  List.takeWhile_append_dropWhile

theorem mem_body {q : Request} {f : Field} (hf : f ∈ q.body) :
    f ∈ q.alternatives ∨ ∃ r, q = .alterWarehouse r ∧ f = r.onlyIfSuspended := by
  revert f
  cases q <;> simp [body, AlterWarehouse.onlyIfSuspended]

end

theorem mem_body_of_mem_alternatives {q : Request} {f : Field} (hf : f ∈ q.alternatives) :
    f ∈ q.body := by
  obtain ⟨hmem, hname⟩ := List.mem_filter.mp hf
  rw [← header_append_body, List.mem_append] at hmem
  refine hmem.resolve_left fun hhead => ?_
  have := List.all_eq_true.mp List.all_takeWhile f hhead
  rw [hname] at this
  exact absurd this (by simp)

/-! ## The one alternative that is given -/

theorem exists_unique_of_countP {α : Type} {p : α → Bool} {l : List α} (h : l.countP p = 1) :
    ∃ a ∈ l, p a = true ∧ ∀ b ∈ l, p b = true → b = a := by
  induction l with
  | nil => exact absurd h (by simp)
  | cons x rest ih =>
    by_cases hx : p x = true
    · have hrest : rest.countP p = 0 := by simpa [hx] using h
      refine ⟨x, List.mem_cons_self, hx, fun b hb hpb => ?_⟩
      rcases List.mem_cons.mp hb with rfl | hb
      · rfl
      · exact absurd hpb (List.countP_eq_zero.mp hrest b hb)
    · obtain ⟨a, ha, hpa, honly⟩ := ih (by simpa [hx] using h)
      refine ⟨a, List.mem_cons_of_mem x ha, hpa, fun b hb hpb => ?_⟩
      rcases List.mem_cons.mp hb with rfl | hb
      · exact absurd hpb hx
      · exact honly b hb hpb

/-- An accepted request with alternatives is idle exactly when none of them adds a token. Only the one
that is given can add any, and it does unless it is silent. -/
theorem isIdle_eq_false_iff {q : Request} (hq : validate q = .ok ()) (hc : q.choices ≠ []) :
    q.isIdle = false ↔ ∃ f ∈ q.alternatives, f.contributes = true := by
  obtain ⟨f, hf, hset, honly⟩ := exists_unique_of_countP (count_alternatives hq hc)
  have hidle : q.isIdle = true ↔ f.speaks = false := by
    rw [isIdle_iff hq]
    constructor
    · rintro ⟨g, hg, hgset, hsilent⟩
      rwa [← honly g hg hgset]
    · exact fun hsilent => ⟨f, hf, hset, hsilent⟩
  have hspeaks : ∀ g ∈ q.alternatives, g.contributes = g.speaks := fun g hg =>
    contributes_eq_of_validate hq (mem_of_mem_alternatives hg)
  rw [← Bool.not_eq_true, hidle, Bool.not_eq_false]
  constructor
  · exact fun h => ⟨f, hf, (hspeaks f hf).trans h⟩
  · rintro ⟨g, hg, hcon⟩
    have hgs : g.speaks = true := (hspeaks g hg).symm.trans hcon
    rwa [← honly g hg (given_of_speaks hg hgs)]

/-! ## What an idle request is sent as -/

theorem choices_ne_nil_of_isIdle {q : Request} (h : q.isIdle = true) : q.choices ≠ [] := by
  cases q with
  | alterWarehouse r => exact List.cons_ne_nil _ _
  | alterDatabase r => exact List.cons_ne_nil _ _
  | alterSchema r => exact List.cons_ne_nil _ _
  | alterAlert r => exact List.cons_ne_nil _ _
  | within r => exact List.cons_ne_nil _ _
  | timeTravel r => exact List.cons_ne_nil _ _
  | _ => exact absurd h (by simp [isIdle])

/-- Of an accepted request that is idle, nothing is written from the first alternative on. The
condition of resuming is no alternative, but it is not written without one. -/
theorem body_tokens_of_isIdle {q : Request} (hq : validate q = .ok ()) (hidle : q.isIdle = true) :
    q.body.flatMap Field.tokens = [] := by
  have hnone : ∀ f ∈ q.alternatives, f.contributes = false := by
    intro f hf
    rw [← Bool.not_eq_true]
    intro hcon
    have := (isIdle_eq_false_iff hq (choices_ne_nil_of_isIdle hidle)).mpr ⟨f, hf, hcon⟩
    exact absurd (hidle.symm.trans this) (by simp)
  refine List.flatMap_eq_nil_iff.mpr fun f hf => Field.contributes_eq_false.mp ?_
  rcases mem_body hf with halt | ⟨r, rfl, rfl⟩
  · exact hnone f halt
  · rw [← Bool.not_eq_true]
    intro hcon
    have hres := (AlterWarehouse.resuming_of_onlyIfSuspended hq hcon).2
    have hmem : r.resuming ∈ (alterWarehouse r).alternatives :=
      List.mem_filter.mpr ⟨r.resuming_mem, rfl⟩
    exact absurd (hnone _ hmem) (by simp [Field.contributes, hres])

/-- More tokens make another statement. -/
theorem statement_append_ne {ts us : List String} (hne : us ≠ [])
    (htidy : ∀ t ∈ us, Text.isTidy t = true) : statement (ts ++ us) ≠ statement ts := by
  have hus : statement us ≠ "" := Text.ne_empty_of_isTidy (Text.isTidy_intercalate hne htidy)
  by_cases hts : ts = []
  · rw [hts, List.nil_append]
    exact hus
  · intro h
    have hlen := congrArg String.length h
    rw [statement, statement, String.intercalate_append_of_ne_nil hts hne, String.length_append,
      String.length_append] at hlen
    have hsep : " ".length = 1 := rfl
    omega

end Request

/-- **Exactly the idle requests lose what they were to do.** An accepted request of which a rule asks
for exactly one of some fields is always sent, and one of these fields adds a token to it unless the
request is idle; an idle one is sent as what stands before these fields and as nothing more. -/
theorem action_lost_iff {q : Request} (hq : validate q = .ok ()) (hc : q.choices ≠ []) :
    ∃ sql, render q = .ok sql ∧
      ((∃ f ∈ q.alternatives, f.contributes = true) ↔ q.isIdle = false) ∧
      (sql = statement (q.header.flatMap Field.tokens) ↔ q.isIdle = true) := by
  obtain ⟨sql, hsql⟩ := toSql_isOk_of_isRegular (RegularClause.isRegular q) (allValid_of_validate hq)
  refine ⟨sql, render_eq_ok_iff.mpr ⟨hq, hsql⟩, (Request.isIdle_eq_false_iff hq hc).symm, ?_⟩
  have htokens : sql = statement (q.header.flatMap Field.tokens ++ q.body.flatMap Field.tokens) := by
    rw [(toSql_eq_ok_iff.mp hsql).2, ← Request.header_append_body, List.flatMap_append]
  constructor
  · intro h
    by_cases hidle : q.isIdle = true
    · exact hidle
    · obtain ⟨f, hf, hcon⟩ := (Request.isIdle_eq_false_iff hq hc).mp (by simpa using hidle)
      have hbody : q.body.flatMap Field.tokens ≠ [] := fun hnil =>
        Field.contributes_eq_true.mp hcon (List.flatMap_eq_nil_iff.mp hnil f
          (Request.mem_body_of_mem_alternatives hf))
      rw [htokens] at h
      exact absurd h (Request.statement_append_ne hbody flatMap_tokens_tidy)
  · intro hidle
    rw [htokens, Request.body_tokens_of_isIdle hq hidle, List.append_nil]

/-- A warehouse that is not to be suspended. -/
def notSuspended : Request := .alterWarehouse { name := ⟨"w"⟩, suspend := some false }

/-- The request passes its check, for a flag that is there counts as given; and all that is sent is the
warehouse's name. -/
theorem action_lost_notSuspended :
    ∃ sql, render notSuspended = .ok sql ∧ sql = statement (notSuspended.header.flatMap Field.tokens) ∧
      ¬ ∃ f ∈ notSuspended.alternatives, f.contributes = true := by
  have hc : notSuspended.choices ≠ [] := List.cons_ne_nil _ _
  obtain ⟨sql, hsql, haction, hstop⟩ := action_lost_iff (q := notSuspended) rfl hc
  refine ⟨sql, hsql, hstop.mpr rfl, fun h => ?_⟩
  exact absurd (haction.mp h) (by decide)

end WarehouseAdmin
