import WarehouseAdmin.Proofs.Request.Parts

/-!
# A statement determines the request behind it

A warehouse, a database or a schema is created by one long statement in which nearly everything is
optional. Two requests may well have the same statement, for some values write nothing: a flag that is
there and does not hold, an empty text, a group of fields of which nothing is left. The theorem says
that this is all. What is *kept* of a request is settled by its statement, and settles it
(`render_create_eq_iff`), whatever characters the names and the texts in it are made of.

For each of the three, the fields are gone through once, to say of each how it is read back. That the
leads of their segments do not get in each other's way is computed.
-/

set_option autoImplicit false

namespace WarehouseAdmin

open FieldValue Text

/-! ## What is kept of a request -/

def CreateWarehouse.kept (r : CreateWarehouse) : CreateWarehouse :=
  { r with
    orReplace := keptFlag r.orReplace
    ifNotExists := keptFlag r.ifNotExists
    comment := keptText r.comment }

def CreateDatabase.kept (r : CreateDatabase) : CreateDatabase :=
  { r with
    orReplace := keptFlag r.orReplace
    transient := keptFlag r.transient
    ifNotExists := keptFlag r.ifNotExists
    clone := r.clone.map DatabaseClone.kept
    defaultDdlCollation := keptText r.defaultDdlCollation
    comment := keptText r.comment }

def CreateSchema.kept (r : CreateSchema) : CreateSchema :=
  { r with
    orReplace := keptFlag r.orReplace
    transient := keptFlag r.transient
    ifNotExists := keptFlag r.ifNotExists
    clone := r.clone.map SchemaClone.kept
    withManagedAccess := keptFlag r.withManagedAccess
    defaultDdlCollation := keptText r.defaultDdlCollation
    comment := keptText r.comment }

/-! ## Fields of the types that occur -/

/-- The constants whose spellings are not empty and tell them apart. -/
class FaithfulConstant (α : Type) [Constant α] : Prop where
  sql_ne_empty : ∀ a : α, Constant.sql a ≠ ""
  sql_injective : Function.Injective (Constant.sql : α → String)

instance : FaithfulConstant WarehouseType where
  sql_ne_empty a := by cases a <;> decide
  sql_injective a b h := by cases a <;> cases b <;> first | rfl | exact absurd h (by decide)

instance : FaithfulConstant WarehouseSize where
  sql_ne_empty a := by cases a <;> decide
  sql_injective a b h := by cases a <;> cases b <;> first | rfl | exact absurd h (by decide)

instance : FaithfulConstant ScalingPolicy where
  sql_ne_empty a := by cases a <;> decide
  sql_injective a b h := by cases a <;> cases b <;> first | rfl | exact absurd h (by decide)

section
variable {name l : String}

theorem legible_int (o o' : Option Int)
    (hs : FieldSpec.isRegular ⟨name, .parameter, some l, {}⟩ = true) :
    Legible [⟨l, true⟩] (Field.parameter name l o).segment (Field.parameter name l o').segment
      (o = o') :=
  legible_parameter (writtenAs_int _) delimited_int rfl o o' hs

theorem legible_bool (o o' : Option Bool)
    (hs : FieldSpec.isRegular ⟨name, .parameter, some l, {}⟩ = true) :
    Legible [⟨l, true⟩] (Field.parameter name l o).segment (Field.parameter name l o').segment
      (o = o') :=
  legible_parameter (writtenAs_bool _) delimited_bool rfl o o' hs

theorem legible_constant {α : Type} [Constant α] [FaithfulConstant α] (o o' : Option α)
    (hs : FieldSpec.isRegular ⟨name, .parameter, some l, .singleQuotes⟩ = true) :
    Legible [⟨l, true⟩] (Field.parameter name l o .singleQuotes).segment
      (Field.parameter name l o' .singleQuotes).segment (o = o') :=
  legible_parameter (writtenAs_constant FaithfulConstant.sql_ne_empty)
    (delimited_singleQuoted.comp FaithfulConstant.sql_injective) rfl o o' hs

end

/-! ## The three requests, field by field -/

theorem legible_createWarehouse {r r' : CreateWarehouse}
    (h : Validate.failures r = []) (h' : Validate.failures r' = []) :
    ∃ hs, isPredictive hs = true ∧
      LegibleFields hs (Clause.fields r) (Clause.fields r') (r.kept = r'.kept) := by
  simp only [Validate.failures, List.append_eq_nil_iff, validId_eq_nil, optionalId_eq_nil,
    tagFailures_eq_nil] at h h'
  obtain ⟨⟨⟨⟨hname, -⟩, hmonitor⟩, -⟩, htags⟩ := h
  obtain ⟨⟨⟨⟨hname', -⟩, hmonitor'⟩, -⟩, htags'⟩ := h'
  refine ⟨_, ?_, .congr
    (.cons legible_static <|
    .cons (legible_flag _ _) <|
    .cons legible_static <|
    .cons (legible_flag _ _) <|
    .cons (legible_name r.name r'.name hname hname') <|
    .cons (legible_constant _ _) <|
    .cons (legible_constant _ _) <|
    .cons (legible_int _ _) <|
    .cons (legible_int _ _) <|
    .cons (legible_constant _ _) <|
    .cons (legible_int _ _) <|
    .cons (legible_bool _ _) <|
    .cons (legible_bool _ _) <|
    .cons (legible_property r.resourceMonitor r'.resourceMonitor hmonitor hmonitor') <|
    .cons (legible_text rfl rfl _ _) <|
    .cons (legible_bool _ _) <|
    .cons (legible_int _ _) <|
    .cons (legible_int _ _) <|
    .cons (legible_int _ _) <|
    .cons (legible_int _ _) <|
    .cons (Tag.legible_list htags htags') .nil) ?_⟩
  · decide +kernel
  · simp [CreateWarehouse.kept]

theorem legible_createDatabase {r r' : CreateDatabase}
    (h : Validate.failures r = []) (h' : Validate.failures r' = []) :
    ∃ hs, isPredictive hs = true ∧
      LegibleFields hs (Clause.fields r) (Clause.fields r') (r.kept = r'.kept) := by
  simp only [Validate.failures, List.append_eq_nil_iff, validId_eq_nil, nestedOption_eq_nil,
    tagFailures_eq_nil] at h h'
  obtain ⟨⟨⟨hname, -⟩, hclone⟩, htags⟩ := h
  obtain ⟨⟨⟨hname', -⟩, hclone'⟩, htags'⟩ := h'
  refine ⟨_, ?_, .congr
    (.cons legible_static <|
    .cons (legible_flag _ _) <|
    .cons (legible_flag _ _) <|
    .cons legible_static <|
    .cons (legible_flag _ _) <|
    .cons (legible_name r.name r'.name hname hname') <|
    .cons (legible_clone DatabaseClone.fields_eq DatabaseClone.kept_eq_iff
      DatabaseClone.isValid_of_validate hclone hclone') <|
    .cons (legible_int _ _) <|
    .cons (legible_int _ _) <|
    .cons (legible_text rfl rfl _ _) <|
    .cons (legible_text rfl rfl _ _) <|
    .cons (Tag.legible_list htags htags') .nil) ?_⟩
  · decide +kernel
  · simp [CreateDatabase.kept]

theorem legible_createSchema {r r' : CreateSchema}
    (h : Validate.failures r = []) (h' : Validate.failures r' = []) :
    ∃ hs, isPredictive hs = true ∧
      LegibleFields hs (Clause.fields r) (Clause.fields r') (r.kept = r'.kept) := by
  simp only [Validate.failures, List.append_eq_nil_iff, validId_eq_nil, nestedOption_eq_nil,
    tagFailures_eq_nil] at h h'
  obtain ⟨⟨⟨hname, -⟩, hclone⟩, htags⟩ := h
  obtain ⟨⟨⟨hname', -⟩, hclone'⟩, htags'⟩ := h'
  refine ⟨_, ?_, .congr
    (.cons legible_static <|
    .cons (legible_flag _ _) <|
    .cons (legible_flag _ _) <|
    .cons legible_static <|
    .cons (legible_flag _ _) <|
    .cons (legible_name r.name r'.name hname hname') <|
    .cons (legible_clone SchemaClone.fields_eq SchemaClone.kept_eq_iff
      SchemaClone.isValid_of_validate hclone hclone') <|
    .cons (legible_flag _ _) <|
    .cons (legible_int _ _) <|
    .cons (legible_int _ _) <|
    .cons (legible_text rfl rfl _ _) <|
    .cons (legible_text rfl rfl _ _) <|
    .cons (Tag.legible_list htags htags') .nil) ?_⟩
  · decide +kernel
  · simp [CreateSchema.kept]

/-! ## Statements and requests -/

theorem tokens_create_ne_nil {fields : List Field} :
    (Field.fixed "create" "CREATE" :: fields).flatMap Field.tokens ≠ [] := by
  intro h
  have hfirst : Field.tokens (.fixed "create" "CREATE") = [] := (List.append_eq_nil_iff.mp h).1
  exact absurd hfirst (by decide)

theorem sql_eq_iff {q q' : Request} {sql sql' : String} {P : Prop} (h : render q = .ok sql)
    (h' : render q' = .ok sql')
    (hne : (Clause.fields q).flatMap Field.tokens ≠ [])
    (hne' : (Clause.fields q').flatMap Field.tokens ≠ [])
    (hlegible : Validate.failures q = [] → Validate.failures q' = [] →
      ∃ hs, isPredictive hs = true ∧ LegibleFields hs (Clause.fields q) (Clause.fields q') P) :
    sql = sql' ↔ P := by
  obtain ⟨hvalid, hsql⟩ := render_eq_ok_iff.mp h
  obtain ⟨hvalid', hsql'⟩ := render_eq_ok_iff.mp h'
  obtain ⟨hs, hpredict, hfields⟩ :=
    hlegible (validate_eq_ok_iff.mp hvalid) (validate_eq_ok_iff.mp hvalid')
  rw [(toSql_eq_ok_iff.mp hsql).2, (toSql_eq_ok_iff.mp hsql').2]
  exact hfields.statement_eq_iff (RegularClause.isRegular q) hpredict hne hne'

/-- **A statement that creates an object determines what is kept of its request**, and is determined by
it: two accepted requests for a warehouse, for a database or for a schema have the same statement
exactly if they agree in everything but flags that do not hold, texts that are empty, and points in
time of which nothing is left. -/
theorem render_create_eq_iff :
    (∀ (r r' : CreateWarehouse) (sql sql' : String), render r = .ok sql → render r' = .ok sql' →
      (sql = sql' ↔ r.kept = r'.kept)) ∧
    (∀ (r r' : CreateDatabase) (sql sql' : String), render r = .ok sql → render r' = .ok sql' →
      (sql = sql' ↔ r.kept = r'.kept)) ∧
    (∀ (r r' : CreateSchema) (sql sql' : String), render r = .ok sql → render r' = .ok sql' →
      (sql = sql' ↔ r.kept = r'.kept)) := by
  refine ⟨fun r r' sql sql' h h' => ?_, fun r r' sql sql' h h' => ?_, fun r r' sql sql' h h' => ?_⟩
  · have hrender : render (Request.createWarehouse r) = .ok sql := h
    have hrender' : render (Request.createWarehouse r') = .ok sql' := h'
    exact sql_eq_iff hrender hrender' tokens_create_ne_nil tokens_create_ne_nil
      legible_createWarehouse
  · have hrender : render (Request.createDatabase r) = .ok sql := h
    have hrender' : render (Request.createDatabase r') = .ok sql' := h'
    exact sql_eq_iff hrender hrender' tokens_create_ne_nil tokens_create_ne_nil
      legible_createDatabase
  · have hrender : render (Request.createSchema r) = .ok sql := h
    have hrender' : render (Request.createSchema r') = .ok sql' := h'
    exact sql_eq_iff hrender hrender' tokens_create_ne_nil tokens_create_ne_nil
      legible_createSchema

/-- A database with a comment and tags. -/
def taggedDatabase (comment : String) (tag : List Tag) : CreateDatabase :=
  { name := ⟨"lab"⟩, comment := some comment, tag := tag }

/-- A comment that looks like the end of itself and a list of tags is a comment, and not the tags. A
flag that does not hold is not seen. -/
theorem render_create_imitated :
    ∃ sql sql' sql'',
      render (taggedDatabase "a' WITH TAG (\"x\".\"y\".\"z\" = 'b" []) = .ok sql ∧
      render (taggedDatabase "a" [⟨⟨"x", "y", "z"⟩, "b"⟩]) = .ok sql' ∧
      render { taggedDatabase "a" [⟨⟨"x", "y", "z"⟩, "b"⟩] with transient := some false } =
        .ok sql'' ∧
      sql ≠ sql' ∧ sql'' = sql' := by
  obtain ⟨-, hdatabase, -⟩ := render_create_eq_iff
  have h : render (taggedDatabase "a' WITH TAG (\"x\".\"y\".\"z\" = 'b" []) = .ok
      "CREATE DATABASE \"lab\" COMMENT = 'a'' WITH TAG (\"x\".\"y\".\"z\" = ''b'" := rfl
  have h' : render (taggedDatabase "a" [⟨⟨"x", "y", "z"⟩, "b"⟩]) = .ok
      "CREATE DATABASE \"lab\" COMMENT = 'a' WITH TAG (\"x\".\"y\".\"z\" = 'b')" := rfl
  have h'' : render { taggedDatabase "a" [⟨⟨"x", "y", "z"⟩, "b"⟩] with transient := some false } = .ok
      "CREATE DATABASE \"lab\" COMMENT = 'a' WITH TAG (\"x\".\"y\".\"z\" = 'b')" := rfl
  refine ⟨_, _, _, h, h', h'', fun heq => ?_, (hdatabase _ _ _ _ h'' h').mpr rfl⟩
  have hkept := (hdatabase _ _ _ _ h h').mp heq
  exact nomatch congrArg CreateDatabase.tag hkept

end WarehouseAdmin
