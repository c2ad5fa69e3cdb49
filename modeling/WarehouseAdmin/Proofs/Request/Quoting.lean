import WarehouseAdmin.Proofs.Clause.Quoting
import WarehouseAdmin.Proofs.Request.Shape

/-!
# Texts of a request stay inside quotes

The definition of an alert and the changes of one hold queries, which are written as they stand, and
the types of a function's arguments are written after its name. Every other request quotes all that
it holds. For these it is shown here that a reader of the statement finds exactly the texts of the
request, in order, and that everything outside of the quotes is settled by the rest of the request.
-/

set_option autoImplicit false

namespace WarehouseAdmin

open FieldValue

/-! ## Which values of Lean types are quoted -/

section
variable {α : Type} {spec : FieldSpec}

@[simp] theorem isQuoted_bool {b : Bool} : (toFieldValue b).isQuoted spec = true := rfl

@[simp] theorem isQuoted_int {n : Int} : (toFieldValue n).isQuoted spec = true := rfl

@[simp] theorem isQuoted_string {s : String} :
    (toFieldValue s).isQuoted spec = (spec.modifiers.quotes == .single) := rfl

@[simp] theorem isQuoted_constant [Constant α] {a : α} :
    (toFieldValue a).isQuoted spec = (spec.modifiers.quotes == .single) := rfl

@[simp] theorem isQuoted_account {id : AccountObjectId} :
    (toFieldValue id).isQuoted spec = true := rfl

@[simp] theorem isQuoted_database {id : DatabaseObjectId} :
    (toFieldValue id).isQuoted spec = true := rfl

@[simp] theorem isQuoted_schema {id : SchemaObjectId} :
    (toFieldValue id).isQuoted spec = true := rfl

@[simp] theorem isQuoted_option [ToFieldValue α] {o : Option α} :
    (toFieldValue o).isQuoted spec = true ↔
      ∀ a, o = some a → (toFieldValue a).isQuoted spec = true := by
  cases o with
  | none => simp [toFieldValue, FieldValue.isQuoted]
  | some a => simp [toFieldValue, FieldValue.isQuoted]

theorem elementsQuoted_iff {vs : List FieldValue} :
    elementsQuoted spec vs = true ↔ ∀ v ∈ vs, v.isQuoted spec = true := by
  induction vs with
  | nil => simp [elementsQuoted]
  | cons v rest ih => rw [elementsQuoted, Bool.and_eq_true, ih, List.forall_mem_cons]

@[simp] theorem isQuoted_list [ToFieldValue α] {as : List α} :
    (toFieldValue as).isQuoted spec = true ↔
      ∀ a ∈ as, (toFieldValue a).isQuoted spec = true := by
  show elementsQuoted spec (as.map toFieldValue) = true ↔ _
  rw [elementsQuoted_iff, List.forall_mem_map]

@[simp] theorem isQuoted_clause [Clause α] {a : α} :
    (toFieldValue a).isQuoted spec = fieldsQuoted (Clause.fields a) := rfl

end

namespace Request

/-- Says whether the request quotes everything that it holds. -/
def quotesTexts : Request → Bool
  | .createAlert _ | .alterAlert _ | .dropFunction _ | .describeFunction _ => false
  | _ => true

theorem fieldsQuoted_of_quotesTexts {q : Request} (h : q.quotesTexts = true) :
    fieldsQuoted (Clause.fields q) = true := by
  cases q <;> simp [quotesTexts] at h <;>
    simp [Request.on, Clause.fields, Field.fixed, Field.keyword, Field.parameter, Field.identifier,
      Field.required, fieldsQuoted, Modifiers.singleQuotes]

end Request

/-- **The texts of an accepted request are what its statement quotes, and nothing else depends on
them.** A reader of the statement never ends inside a literal; the literals quote the texts of the
fields that are set, in order; and any other accepted request with the same mask, that is, one that
differs in the contents of its texts only, has a statement with the same outline. -/
theorem render_quotes {q : Request} (hq : q.quotesTexts = true) {sql : String}
    (h : render q = .ok sql) :
    ∃ ps, Text.pieces sql = some ps ∧ Text.contents ps = textsOfFields (Clause.fields q) ∧
      ∀ (q' : Request) (sql' : String), q'.quotesTexts = true →
        maskedFields (Clause.fields q') = maskedFields (Clause.fields q) → render q' = .ok sql' →
        ∃ ps', Text.pieces sql' = some ps' ∧ Text.outline ps' = Text.outline ps := by
  have hsame : ∀ (q : Request) (sql : String), q.quotesTexts = true → render q = .ok sql →
      Text.SameOutline sql (statement ((maskedFields (Clause.fields q)).flatMap Field.tokens))
        (textsOfFields (Clause.fields q)) := by
    intro q sql hq h
    obtain ⟨hvalid, hsql⟩ := render_eq_ok_iff.mp h
    rw [(toSql_eq_ok_iff.mp hsql).2]
    exact statement_sameOutline (RegularClause.isRegular q) (Request.fieldsQuoted_of_quotesTexts hq)
      (allValid_of_validate hvalid)
  obtain ⟨ps, ms, hps, hms, hout, hcon⟩ := hsame q sql hq h
  refine ⟨ps, Text.pieces_of_reads hps, hcon, ?_⟩
  intro q' sql' hq' hmask h'
  obtain ⟨ps', ms', hps', hms', hout', _⟩ := hsame q' sql' hq' h'
  -- The statement of the common mask is read in one way only.
  rw [hmask] at hms'
  have hms_eq : ms' = ms := Option.some.inj
    ((Text.pieces_of_reads hms').symm.trans (Text.pieces_of_reads hms))
  exact ⟨ps', Text.pieces_of_reads hps', by rw [hout', hout, hms_eq]⟩

/-- A quote inside a text is doubled, and what follows it stays inside the literal. -/
theorem render_quotes_clonedSchema :
    ∃ sql ps, render (clonedSchema "it's \"mine\" ) --" "a', b") = .ok sql ∧
      Text.pieces sql = some ps ∧
      Text.contents ps =
        ["lab", "copy", "lab", "main", "it's \"mine\" ) --", "lab", "main", "owner", "a', b"] ∧
      ∃ sql' ps', render (clonedSchema "none" "team 1") = .ok sql' ∧
        Text.pieces sql' = some ps' ∧ Text.outline ps' = Text.outline ps := by
  have h : render (clonedSchema "it's \"mine\" ) --" "a', b") = .ok ("CREATE SCHEMA " ++
      "\"lab\".\"copy\" CLONE \"lab\".\"main\" AT (OFFSET => -60) COMMENT = " ++
      "'it''s \"mine\" ) --' WITH TAG (\"lab\".\"main\".\"owner\" = 'a'', b')") := rfl
  have h' : render (clonedSchema "none" "team 1") = .ok ("CREATE SCHEMA " ++
      "\"lab\".\"copy\" CLONE \"lab\".\"main\" AT (OFFSET => -60) COMMENT = " ++
      "'none' WITH TAG (\"lab\".\"main\".\"owner\" = 'team 1')") := rfl
  obtain ⟨ps, hps, hcontents, hother⟩ := render_quotes rfl h
  obtain ⟨ps', hps', houtline⟩ := hother (clonedSchema "none" "team 1") _ rfl rfl h'
  exact ⟨_, ps, h, hps, hcontents, _, ps', h', hps', houtline⟩

end WarehouseAdmin
