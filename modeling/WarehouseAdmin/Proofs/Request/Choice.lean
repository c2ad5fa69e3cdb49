import WarehouseAdmin.Proofs.Clause.Silence
import WarehouseAdmin.Proofs.Request.Shape

/-!
# Fields that exclude each other

Three kinds of rules keep contradicting clauses apart, and no two of them count in the same way. The
rule that exactly one field must be given counts by `isSet`, for which an optional value is given
when it is there. The rules about `OR REPLACE` and about `CASCADE` compare flags with `some true`.
The rule about `AT` and `BEFORE` asks whether the options hold anything. What reaches the statement
is a fourth thing, and `speaks` is what all of them are compared with: of two fields of which a rule
admits one, at most one speaks, and a field of an accepted request adds tokens exactly when it speaks
(`contributes_eq_of_validate`).

The parts of a request are requests themselves, so what is shown for one request here is shown for
whatever it holds.
-/

set_option autoImplicit false

namespace WarehouseAdmin

open FieldValue

/-! ## When values of Lean types are given, and when they speak -/

section
variable {α : Type} {spec : FieldSpec}

@[simp] theorem isSet_option [ToFieldValue α] {o : Option α} :
    (toFieldValue o).isSet = o.isSome := by
  cases o <;> rfl

@[simp] theorem isSet_list [ToFieldValue α] {as : List α} :
    (toFieldValue as).isSet = !as.isEmpty := by
  cases as <;> rfl

@[simp] theorem option_ne_flag [ToFieldValue α] {o : Option α} {b : Bool} :
    toFieldValue o ≠ .flag b := by
  cases o <;> exact FieldValue.noConfusion

@[simp] theorem list_ne_flag [ToFieldValue α] {as : List α} {b : Bool} :
    toFieldValue as ≠ .flag b := FieldValue.noConfusion

@[simp] theorem speaks_option [ToFieldValue α] {o : Option α} :
    (toFieldValue o).speaks spec = o.any fun a => (toFieldValue a).speaks spec := by
  cases o <;> rfl

/-- A keyword that may be left out speaks when it is there and holds. -/
theorem any_holds {o : Option Bool} : (o.any fun b => b) = (o == some true) := by
  cases o with
  | none => rfl
  | some b => cases b <;> rfl

@[simp] theorem speaks_list [ToFieldValue α] {as : List α} :
    (toFieldValue as).speaks spec = !as.isEmpty := by
  cases as <;> rfl

@[simp] theorem speaks_bool {b : Bool} :
    (toFieldValue b).speaks spec = (b || spec.kind != .keyword) := rfl

@[simp] theorem speaks_int {n : Int} : (toFieldValue n).speaks spec = true := rfl

@[simp] theorem speaks_string {s : String} : (toFieldValue s).speaks spec = (s != "") := rfl

@[simp] theorem speaks_account {id : AccountObjectId} :
    (toFieldValue id).speaks spec = id.isValid := rfl

@[simp] theorem speaks_database {id : DatabaseObjectId} :
    (toFieldValue id).speaks spec = id.isValid := rfl

@[simp] theorem speaks_operation {a : AlertOperation} : (toFieldValue a).speaks spec = true := by
  cases a <;> rfl

/-- A group of properties that are all silent, or that does not even count as given. -/
def isSilent [Clause α] (a : α) : Bool := !(isGiven a && (Clause.fields a).any Field.speaks)

@[simp] theorem speaks_clause [Clause α] {a : α} : (toFieldValue a).speaks spec = !isSilent a := by
  show (isSet _ && anySpeaks _) = _
  rw [anySpeaks_eq, isSilent, Bool.not_not]
  rfl

theorem countP_pair_le_one {f g : Field} (h : f.speaks = true → g.speaks = false) :
    [f, g].countP Field.speaks ≤ 1 := by
  by_cases hf : f.speaks = true
  · simp [hf, h hf]
  · simp only [List.countP_cons, List.countP_nil, if_neg hf]
    split <;> decide

end

/-! ## What an accepted request contributes -/

theorem contributes_eq_speaks {f : Field} (hf : f.isRegular = true)
    (hids : AllValid f.2.identifiers) : f.contributes = f.speaks := by
  obtain ⟨hs, hv⟩ := Bool.and_eq_true _ _ |>.mp hf
  rw [Bool.eq_iff_iff, Field.contributes_eq_true, Field.speaks, Bool.or_eq_true, beq_iff_eq]
  by_cases hk : f.1.kind = .static
  · exact ⟨fun _ => Or.inl hk, fun _ => tokens_static hs hk⟩
  · have hreg : f.2.isRegular f.1 = true := by simpa [hk] using hv
    rw [show f.tokens ≠ [] ↔ _ from tokens_ne_nil_iff hs f.2 hreg hk hids]
    exact ⟨Or.inr, fun h => h.resolve_left hk⟩

namespace Request

theorem contributes_eq_of_validate {q : Request} (hq : validate q = .ok ()) {f : Field}
    (hf : f ∈ Clause.fields q) : f.contributes = f.speaks :=
  contributes_eq_speaks (fieldsRegular_iff.mp (RegularClause.isRegular q) f hf)
    (allValid_of_mem (allValid_of_validate hq) hf)

/-- The names of the fields of which a rule of the request asks for exactly one. -/
def choices : Request → List String
  | .alterWarehouse _ => AlterWarehouse.actions
  | .alterDatabase _ => AlterDatabase.actions
  | .alterSchema _ => AlterSchema.actions
  | .alterAlert _ => AlterAlert.actions
  | .within _ => ["account", "database", "schema"]
  | .timeTravel _ => ["timestamp", "offset", "statement"]
  | _ => []

/-- The fields of which a rule of the request asks for exactly one. -/
def alternatives (q : Request) : List Field := fieldsNamed q.choices (Clause.fields q)

theorem mem_of_mem_alternatives {q : Request} {f : Field} (hf : f ∈ q.alternatives) :
    f ∈ Clause.fields q := (List.mem_filter.mp hf).1

/-- The rule itself: of the alternatives of an accepted request, exactly one is given. -/
theorem count_alternatives {q : Request} (hq : validate q = .ok ()) (hc : q.choices ≠ []) :
    q.alternatives.countP (·.2.isSet) = 1 := by
  rw [validate_eq_ok_iff] at hq
  -- The requests without such a rule are gone after this. The rule comes first in the check of a
  -- place, alone in that of a point in time, and after the rule about the name everywhere else.
  cases q <;> simp [choices, Request.on, Validate.failures] at hc hq
  case within => exact hq.1
  case timeTravel => exact hq
  all_goals exact hq.2.1

section

attribute [local simp] alternatives choices fieldsNamed Clause.fields Request.on Field.fixed
  Field.keyword Field.parameter Field.identifier Field.required AlterWarehouse.actions
  AlterDatabase.actions AlterSchema.actions AlterAlert.actions

/-- The alternatives are options and lists. -/
theorem shape_of_mem_alternatives {q : Request} {f : Field} (hf : f ∈ q.alternatives) :
    f.1.kind ≠ .static ∧ ∀ b, f.2 ≠ .flag b := by
  revert f
  cases q <;> simp

/-- So an alternative that speaks counts as given. -/
theorem given_of_speaks {q : Request} {f : Field} (hf : f ∈ q.alternatives)
    (h : f.speaks = true) : f.2.isSet = true := by
  obtain ⟨hk, hflag⟩ := shape_of_mem_alternatives hf
  have hspeaks : f.2.speaks f.1 = true := by simpa [Field.speaks, hk] using h
  exact isSet_of_speaks hspeaks hflag

/-- A request names three pairs of fields that contradict each other. -/
def rivals : List (List String) :=
  [["or_replace", "if_not_exists"], ["cascade", "restrict"], ["at", "before"]]

/-- Two rivals of an accepted request do not both speak. -/
theorem count_rivals {q : Request} (hq : validate q = .ok ()) {names : List String}
    (hn : names ∈ rivals) : (fieldsNamed names (Clause.fields q)).countP Field.speaks ≤ 1 := by
  rw [validate_eq_ok_iff] at hq
  simp only [rivals, List.mem_cons, List.not_mem_nil, or_false] at hn
  -- Only the requests that have such a pair are left after `simp`, each with its own rule in `hq`.
  rcases hn with rfl | rfl | rfl
  · cases q <;> simp
    all_goals
      refine countP_pair_le_one ?_
      simp_all [Field.speaks, any_holds, Validate.failures]
  · cases q <;> simp
    all_goals
      refine countP_pair_le_one ?_
      simp_all [Field.speaks, any_holds, Validate.failures]
  · cases q <;> simp
    case clonePoint r =>
      refine countP_pair_le_one fun hat => ?_
      have hsome : r.atPoint.isSome = true := by
        simp only [Field.speaks] at hat
        exact Option.isSome_of_any (by simpa using hat)
      have hnone : r.beforePoint = none := by simp_all [Validate.failures]
      simp [Field.speaks, hnone]

end

/-- Of the alternatives, and of every two rivals, at most one adds tokens. -/
structure IsExclusive (q : Request) : Prop where
  alternatives : q.alternatives.countP Field.contributes ≤ 1
  rivals : ∀ names ∈ rivals, (fieldsNamed names (Clause.fields q)).countP Field.contributes ≤ 1

theorem alternatives_eq_nil {q : Request} (hc : q.choices = []) : q.alternatives = [] := by
  simp [alternatives, fieldsNamed, hc]

theorem isExclusive_of_validate {q : Request} (hq : validate q = .ok ()) : q.IsExclusive where
  alternatives := by
    by_cases hc : q.choices = []
    · simp [alternatives_eq_nil hc]
    · rw [← count_alternatives hq hc]
      refine List.countP_mono_left fun f hf h => given_of_speaks hf ?_
      rwa [← contributes_eq_of_validate hq (mem_of_mem_alternatives hf)]
  rivals := by
    intro names hn
    refine Nat.le_trans (List.countP_mono_left fun f hf h => ?_) (count_rivals hq hn)
    rwa [← contributes_eq_of_validate hq (List.mem_filter.mp hf).1]

end Request

/-! ## The condition of resuming a warehouse -/

namespace AlterWarehouse

def resuming (r : AlterWarehouse) : Field := .keyword "resume" "RESUME" r.resume

def onlyIfSuspended (r : AlterWarehouse) : Field :=
  .keyword "if_suspended" "IF SUSPENDED" r.ifSuspended

theorem fields_eq (r : AlterWarehouse) : ∃ front back,
    Clause.fields r = front ++ r.resuming :: r.onlyIfSuspended :: back :=
  ⟨(Clause.fields r).take 4, (Clause.fields r).drop 6, rfl⟩

theorem resuming_mem (r : AlterWarehouse) :
    r.resuming ∈ Clause.fields (Request.alterWarehouse r) := by
  obtain ⟨front, back, hfields⟩ := r.fields_eq
  show _ ∈ Clause.fields r
  simp [hfields]

theorem onlyIfSuspended_mem (r : AlterWarehouse) :
    r.onlyIfSuspended ∈ Clause.fields (Request.alterWarehouse r) := by
  obtain ⟨front, back, hfields⟩ := r.fields_eq
  show _ ∈ Clause.fields r
  simp [hfields]

/-- The condition is written only when the warehouse is resumed. -/
theorem resuming_of_onlyIfSuspended {r : AlterWarehouse}
    (hq : validate (Request.alterWarehouse r) = .ok ()) (h : r.onlyIfSuspended.contributes = true) :
    r.onlyIfSuspended.tokens = ["IF SUSPENDED"] ∧ r.resuming.tokens = ["RESUME"] := by
  rw [Request.contributes_eq_of_validate hq r.onlyIfSuspended_mem] at h
  have hsusp : r.ifSuspended = some true := by
    simpa [onlyIfSuspended, Field.keyword, Field.speaks, any_holds] using h
  have hres : r.resume = some true := by
    rw [validate_eq_ok_iff] at hq
    simp [Validate.failures, Request.on] at hq
    exact hq.2.2.1 hsusp
  rw [onlyIfSuspended, resuming, hsusp, hres]
  exact ⟨by decide, by decide⟩

end AlterWarehouse

/-- **No accepted statement holds two clauses that exclude each other**, at whatever depth they
stand, and `IF SUSPENDED` is written only right after `RESUME`. -/
theorem render_exclusive {q : Request} {sql : String} (h : render q = .ok sql) :
    (∀ p, q.Holds p → p.IsExclusive) ∧
    ∀ r, q = .alterWarehouse r → r.onlyIfSuspended.contributes = true → ∃ front back,
      Clause.fields r = front ++ r.resuming :: r.onlyIfSuspended :: back ∧
      r.resuming.contributes = true ∧
      sql = statement (front.flatMap Field.tokens ++
        "RESUME" :: "IF SUSPENDED" :: back.flatMap Field.tokens) := by
  obtain ⟨hq, hsql⟩ := render_eq_ok_iff.mp h
  refine ⟨fun p hp => Request.isExclusive_of_validate (Request.validate_of_holds hq hp), ?_⟩
  rintro r rfl hsusp
  obtain ⟨front, back, hfields⟩ := r.fields_eq
  obtain ⟨hs, hr⟩ := AlterWarehouse.resuming_of_onlyIfSuspended hq hsusp
  refine ⟨front, back, hfields, by simp [Field.contributes, hr], ?_⟩
  rw [(toSql_eq_ok_iff.mp hsql).2]
  show statement ((Clause.fields r).flatMap Field.tokens) = _
  simp only [hfields, List.flatMap_append, List.flatMap_cons, hr, hs, List.singleton_append]

/-- A warehouse that is resumed if it is suspended. -/
def resumedWarehouse : AlterWarehouse :=
  { name := ⟨"w"⟩, resume := some true, ifSuspended := some true }

theorem render_exclusive_resumedWarehouse :
    render (Request.alterWarehouse resumedWarehouse) = .ok "ALTER WAREHOUSE \"w\" RESUME IF SUSPENDED" ∧
    (Request.alterWarehouse resumedWarehouse).IsExclusive ∧
    resumedWarehouse.resuming.contributes = true := by
  have h : render (Request.alterWarehouse resumedWarehouse) =
      .ok "ALTER WAREHOUSE \"w\" RESUME IF SUSPENDED" := rfl
  obtain ⟨hexclusive, hsuspended⟩ := render_exclusive h
  obtain ⟨front, back, _, hresuming, _⟩ := hsuspended resumedWarehouse rfl (by decide)
  exact ⟨h, hexclusive _ (.self _), hresuming⟩

end WarehouseAdmin
