import WarehouseAdmin.Proofs.Clause.Segments
import WarehouseAdmin.Proofs.Request.Shape

/-!
# The parts of a request can be read back

Points in time, sources of clones and lists of tags are written into the statements that create
objects. What is written of a part is what is *kept* of it. Flags that do not hold and empty texts are
dropped, and so is a group of fields of which nothing is left; everything else stays as it is. Two
parts have the same segments exactly if the same is kept of them.
-/

set_option autoImplicit false

namespace WarehouseAdmin

open FieldValue Text

/-! ## What is kept of a group of fields -/

/-- What is kept of a group, unless it is empty. -/
def keptGroup {α : Type} [DecidableEq α] (empty : α) (kept : α → α) (o : Option α) : Option α :=
  (o.map kept).filter (· ≠ empty)

theorem keptGroup_eq_iff {α : Type} [DecidableEq α] {empty : α} {kept : α → α}
    (hempty : kept empty = empty) (o o' : Option α) :
    keptGroup empty kept o = keptGroup empty kept o' ↔
      kept (o.getD empty) = kept (o'.getD empty) := by
  have hgroup : ∀ o : Option α, keptGroup empty kept o =
      if kept (o.getD empty) = empty then none else some (kept (o.getD empty)) := by
    intro o
    cases o with
    | none => simp [keptGroup, hempty]
    | some a => by_cases h : kept a = empty <;> simp [keptGroup, Option.filter, h]
  rw [hgroup, hgroup]
  by_cases h : kept (o.getD empty) = empty <;> by_cases h' : kept (o'.getD empty) = empty <;>
    simp [h, h']
  · exact fun heq => h' heq.symm

section
variable {α : Type} {spec : FieldSpec}

theorem isPlainlySet_option [ToFieldValue α] (hk : spec.kind ≠ .static) (o : Option α) :
    Field.isPlainlySet (spec, toFieldValue o) := by
  refine ⟨hk, fun b => ?_⟩
  cases o <;> exact nofun

end

/-! ## Points in time -/

namespace TimeTravel

def kept (t : TimeTravel) : TimeTravel := ⟨keptText t.timestamp, t.offset, keptText t.statement⟩

def headings : List Heading := [⟨"TIMESTAMP =>", true⟩, ⟨"OFFSET =>", true⟩, ⟨"STATEMENT =>", true⟩]

theorem legible (t t' : TimeTravel) :
    LegibleFields headings (Clause.fields t) (Clause.fields t') (t.kept = t'.kept) := by
  have h : LegibleFields _ (Clause.fields t) (Clause.fields t') _ :=
    .cons (legible_text rfl rfl t.timestamp t'.timestamp) <|
    .cons (legible_parameter (writtenAs_int _) delimited_int rfl t.offset t'.offset) <|
    .cons (legible_text rfl rfl t.statement t'.statement) .nil
  exact h.congr (by simp [kept])

theorem allValid (t : TimeTravel) : AllValid (fieldIdentifiers (Clause.fields t)) := by
  simp [Clause.fields, Field.parameter, fieldIdentifiers]

theorem isPlainlySet (t : TimeTravel) : ∀ f ∈ Clause.fields t, f.isPlainlySet := by
  intro f hf
  simp only [Clause.fields, List.mem_cons, List.not_mem_nil, or_false] at hf
  rcases hf with rfl | rfl | rfl <;> exact isPlainlySet_option (by decide) _

end TimeTravel

namespace ClonePoint

def kept (p : ClonePoint) : ClonePoint :=
  ⟨keptGroup {} TimeTravel.kept p.atPoint, keptGroup {} TimeTravel.kept p.beforePoint⟩

def headings : List Heading := [⟨"AT", true⟩, ⟨"BEFORE", true⟩]

theorem segment_travel {name l : String}
    (hs : FieldSpec.isRegular ⟨name, .keyword, some l, .inParentheses⟩ = true)
    (o : Option TimeTravel) :
    (Field.keyword name (some l) o .inParentheses).segment =
      grouped l ((Clause.fields (o.getD {})).flatMap Field.segment) := by
  cases o with
  | none =>
    show spaced (Field.tokens (_, .absent)) = _
    rw [tokens_absent hs nofun rfl]
    rfl
  | some t =>
    show Field.segment (⟨name, .keyword, some l, .inParentheses⟩, .clause (Clause.fields t)) = _
    exact segment_group hs rfl rfl rfl (RegularClause.isRegular t) t.allValid t.isPlainlySet

theorem legible_travel {name l : String} (o o' : Option TimeTravel)
    (hs : FieldSpec.isRegular ⟨name, .keyword, some l, .inParentheses⟩ = true) :
    Legible [⟨l, true⟩] (Field.keyword name (some l) o .inParentheses).segment
      (Field.keyword name (some l) o' .inParentheses).segment
      (keptGroup {} TimeTravel.kept o = keptGroup {} TimeTravel.kept o') := by
  rw [segment_travel hs, segment_travel hs]
  have htravel := (TimeTravel.legible (o.getD {}) (o'.getD {})).legible (RegularClause.isRegular _)
  refine (legible_grouped htravel (by decide) l).congr ?_
  exact (keptGroup_eq_iff rfl o o').symm

theorem legible (p p' : ClonePoint) :
    LegibleFields headings (Clause.fields p) (Clause.fields p') (p.kept = p'.kept) := by
  have h : LegibleFields _ (Clause.fields p) (Clause.fields p') _ :=
    .cons (legible_travel p.atPoint p'.atPoint) <|
    .cons (legible_travel p.beforePoint p'.beforePoint) .nil
  exact h.congr (by simp [kept])

theorem allValid (p : ClonePoint) : AllValid (fieldIdentifiers (Clause.fields p)) := by
  simp [Clause.fields, Field.keyword, Field.parameter, fieldIdentifiers]

theorem isPlainlySet (p : ClonePoint) : ∀ f ∈ Clause.fields p, f.isPlainlySet := by
  intro f hf
  simp only [Clause.fields, List.mem_cons, List.not_mem_nil, or_false] at hf
  rcases hf with rfl | rfl <;> exact isPlainlySet_option (by decide) _

/-- The point of a clone is written without anything around it. -/
theorem segment_eq {name : String} (o : Option ClonePoint) :
    (Field.keyword name none o).segment =
      (Clause.fields (o.getD {})).flatMap Field.segment := by
  have hs : FieldSpec.isRegular ⟨name, .keyword, none, {}⟩ = true := by
    simp [FieldSpec.isRegular, FieldSpec.isSound, FieldSpec.fault?]
  cases o with
  | none =>
    show spaced (Field.tokens (_, .absent)) = _
    rw [tokens_absent hs nofun rfl]
    rfl
  | some p =>
    show Field.segment (⟨name, .keyword, none, {}⟩, .clause (Clause.fields p)) = _
    exact segment_clause hs rfl rfl (RegularClause.isRegular p) p.allValid p.isPlainlySet (.inr rfl)

end ClonePoint

/-! ## Clones -/

section
open QuotedId

variable {C Id : Type} [Clause C] [RegularClause C] [ToFieldValue Id] [QuotedId Id]
  {source : C → Id} {point : C → Option ClonePoint} {name : String}

/-- A clone is the name of its source and then a point in time. -/
theorem segment_clone
    (hfields : ∀ c : C, Clause.fields c =
      [.required "source" none (source c), .keyword "at_or_before" none (point c)])
    (hs : FieldSpec.isRegular ⟨name, .keyword, some "CLONE", {}⟩ = true) {o : Option C}
    (ho : ∀ c, o = some c → (up (source c)).isValid = true) :
    (Field.keyword name (some "CLONE") o).segment =
      written "CLONE" (fun id => " " ++ (up id).qualifiedName) (o.map source) ++
        (Clause.fields ((o.bind point).getD {})).flatMap Field.segment := by
  cases o with
  | none =>
    show spaced (Field.tokens (_, .absent)) = _
    rw [tokens_absent hs nofun rfl]
    rfl
  | some c =>
    have hids : AllValid (fieldIdentifiers (Clause.fields c)) := by
      simp [hfields, Field.required, Field.identifier, Field.keyword, fieldIdentifiers,
        toFieldValue_eq, identifiers, ho c rfl, ClonePoint.allValid]
    have hplain : ∀ f ∈ Clause.fields c, f.isPlainlySet := by
      intro f hf
      simp only [hfields, List.mem_cons, List.not_mem_nil, or_false] at hf
      rcases hf with rfl | rfl
      · refine ⟨nofun, fun b => ?_⟩
        show toFieldValue (source c) ≠ _
        rw [toFieldValue_eq]
        exact nofun
      · exact isPlainlySet_option (by decide) _
    have hsegments : (Clause.fields c).flatMap Field.segment =
        ' ' :: (up (source c)).qualifiedName.toList ++
          (Clause.fields ((point c).getD {})).flatMap Field.segment := by
      rw [hfields, List.flatMap_cons, List.flatMap_cons, segment_name (by decide) (ho c rfl),
        ClonePoint.segment_eq, List.flatMap_nil, List.append_nil]
    have hne : (Clause.fields c).flatMap Field.tokens ≠ [] := by
      intro hnil
      rw [← spaced_flatMap_tokens, hnil] at hsegments
      exact nomatch hsegments
    show Field.segment (⟨name, .keyword, some "CLONE", {}⟩, .clause (Clause.fields c)) = _
    rw [segment_clause hs rfl rfl (RegularClause.isRegular c) hids hplain (.inl hne), hsegments]
    simp [spaced, FieldSpec.lead, written]

/-- Two clones are written alike if their sources are the same and their points are kept alike. -/
theorem legible_clone [Validate C] {kept : C → C}
    (hfields : ∀ c : C, Clause.fields c =
      [.required "source" none (source c), .keyword "at_or_before" none (point c)])
    (hkept : ∀ c c', kept c = kept c' ↔ source c = source c' ∧
      keptGroup {} ClonePoint.kept (point c) = keptGroup {} ClonePoint.kept (point c'))
    (hvalid : ∀ c : C, validate c = .ok () → (up (source c)).isValid = true) {o o' : Option C}
    (ho : ∀ c, o = some c → validate c = .ok ()) (ho' : ∀ c, o' = some c → validate c = .ok ())
    (hs : FieldSpec.isRegular ⟨name, .keyword, some "CLONE", {}⟩ = true) :
    Legible (⟨"CLONE", true⟩ :: ClonePoint.headings) (Field.keyword name (some "CLONE") o).segment
      (Field.keyword name (some "CLONE") o').segment (o.map kept = o'.map kept) := by
  rw [segment_clone hfields hs fun c hc => hvalid c (ho c hc),
    segment_clone hfields hs fun c hc => hvalid c (ho' c hc)]
  refine ((legible_written (delimited.after " ") _ _).append
    ((ClonePoint.legible _ _).legible (RegularClause.isRegular _))).congr ?_
  rw [← keptGroup_eq_iff rfl]
  cases o <;> cases o' <;> simp [hkept, keptGroup]

end

namespace DatabaseClone

def kept (c : DatabaseClone) : DatabaseClone :=
  { c with point := keptGroup {} ClonePoint.kept c.point }

theorem fields_eq (c : DatabaseClone) : Clause.fields c =
    [.required "source" none c.source, .keyword "at_or_before" none c.point] := rfl

theorem isValid_of_validate (c : DatabaseClone) (h : validate c = .ok ()) :
    (QuotedId.up c.source).isValid = true := by
  rw [validate_eq_ok_iff, Validate.failures] at h
  exact validId_eq_nil.mp (List.append_eq_nil_iff.mp h).1

theorem kept_eq_iff (c c' : DatabaseClone) : c.kept = c'.kept ↔ c.source = c'.source ∧
    keptGroup {} ClonePoint.kept c.point = keptGroup {} ClonePoint.kept c'.point := by
  simp [kept]

end DatabaseClone

namespace SchemaClone

def kept (c : SchemaClone) : SchemaClone :=
  { c with point := keptGroup {} ClonePoint.kept c.point }

theorem fields_eq (c : SchemaClone) : Clause.fields c =
    [.required "source" none c.source, .keyword "at_or_before" none c.point] := rfl

theorem isValid_of_validate (c : SchemaClone) (h : validate c = .ok ()) :
    (QuotedId.up c.source).isValid = true := by
  rw [validate_eq_ok_iff, Validate.failures] at h
  exact validId_eq_nil.mp (List.append_eq_nil_iff.mp h).1

theorem kept_eq_iff (c c' : SchemaClone) : c.kept = c'.kept ↔ c.source = c'.source ∧
    keptGroup {} ClonePoint.kept c.point = keptGroup {} ClonePoint.kept c'.point := by
  simp [kept]

end SchemaClone

/-! ## Tags -/

namespace Tag

/-- A tag as it is written. -/
def text (t : Tag) : String := t.name.qualifiedName ++ " = " ++ singleQuoted t.value

theorem delimited_text : Delimited text := by
  have hpair : Delimited fun p : SchemaObjectId × String =>
      p.1.qualifiedName ++ " = " ++ singleQuoted p.2 :=
    delimited_schema.pair delimited_singleQuoted rfl (by decide)
  have hparts : Function.Injective fun t : Tag => (t.name, t.value) := by
    rintro ⟨name, value⟩ ⟨name', value'⟩ h
    simpa using h
  intro t t' r r' hr hr' heq
  exact hparts (hpair (t.name, t.value) (t'.name, t'.value) r r' hr hr' heq)

theorem tokens_eq {t : Tag} (hname : t.name.isValid = true) (hvalue : t.value ≠ "") :
    (Clause.fields t).flatMap Field.tokens =
      [t.name.qualifiedName, "=", singleQuoted t.value] := by
  have hfirst : Field.tokens (.required "name" none t.name) = [t.name.qualifiedName] := by
    have hs : FieldSpec.isRegular ⟨"name", .identifier, none, { required := true }⟩ = true := by
      decide
    have hid : (Identifier.schema t.name).isValid = true := hname
    show Field.tokens (_, .identifier (.schema t.name)) = _
    rw [tokens_identifier hs rfl hid, tidyTokens_eq_self (by simpa using isTidy_qualifiedName)]
    rfl
  have hlast : Field.tokens (.keyword "value" none t.value .singleQuotes) =
      [singleQuoted t.value] := by
    have hs : FieldSpec.isRegular ⟨"value", .keyword, none, .singleQuotes⟩ = true := by decide
    have hwrap : FieldSpec.wrap ⟨"value", .keyword, none, .singleQuotes⟩ (singleQuoted t.value) =
        singleQuoted t.value := rfl
    show Field.tokens (_, .text t.value) = _
    rw [tokens_of_quoted hs rfl rfl hvalue (toFragment_text hvalue), hwrap,
      tidyTokens_eq_self (by simpa using isTidy_singleQuoted)]
    rfl
  have hsign : Field.tokens (.fixed "eq" "=") = ["="] := by decide
  have hfields : Clause.fields t = [.required "name" none t.name, .fixed "eq" "=",
      .keyword "value" none t.value .singleQuotes] := rfl
  rw [hfields, List.flatMap_cons, List.flatMap_cons, List.flatMap_cons, hfirst, hsign, hlast]
  rfl

/-- What has been checked of a tag. -/
def IsComplete (t : Tag) : Prop := t.name.isValid = true ∧ t.value ≠ ""

theorem toFragment_eq {t : Tag} (h : t.IsComplete) :
    (toFieldValue t).toFragment =
      .ok (.clause [t.name.qualifiedName, "=", singleQuoted t.value]) := by
  have hname : (Identifier.schema t.name).isValid = true := h.1
  have hids : AllValid (fieldIdentifiers (Clause.fields t)) := by
    simpa [Clause.fields, Field.required, Field.identifier, Field.fixed, Field.keyword,
      fieldIdentifiers, identifiers] using hname
  have hregular := RegularClause.isRegular t
  have hclause := toFragment_clause (succeed_of_isRegular _ hregular hids)
  rw [if_pos (isSet_of_isNamed rfl hregular hids), tokens_eq h.1 h.2] at hclause
  exact hclause

/-- A list of tags, unless it is empty. -/
def listed (tags : List Tag) : Option { ts : List Tag // ts ≠ [] } :=
  if h : tags = [] then none else some ⟨tags, h⟩

theorem listed_eq_iff {tags tags' : List Tag} : listed tags = listed tags' ↔ tags = tags' := by
  by_cases h : tags = [] <;> by_cases h' : tags' = [] <;> simp [listed, h, h', eq_comm]

/-- Tags as they are written, with commas between them. -/
def listText (ts : { ts : List Tag // ts ≠ [] }) : String :=
  " (" ++ String.intercalate ", " (ts.1.map text) ++ ")"

theorem delimited_listText : Delimited listText := by
  intro ts ts' r r' _ _ heq
  have htexts := congrArg (List.drop 2) heq
  simp only [listText, String.toList_append, List.append_assoc] at htexts
  exact Subtype.ext (delimited_text.intercalate ts.2 ts'.2 htexts)

section
variable {tags : List Tag}

theorem toFragments_eq (h : ∀ t ∈ tags, t.IsComplete) :
    toFragments (tags.map toFieldValue) =
      .ok (tags.map fun t => .clause [t.name.qualifiedName, "=", singleQuoted t.value]) := by
  induction tags with
  | nil => rfl
  | cons t rest ih =>
    rw [List.forall_mem_cons] at h
    exact toFragments_cons (toFragment_eq h.1) (ih h.2)

theorem elementTexts_eq (spec : FieldSpec) (tags : List Tag) :
    spec.elementTexts
        (tags.map fun t => .clause [t.name.qualifiedName, "=", singleQuoted t.value]) =
      .ok (tags.map text) := by
  induction tags with
  | nil => rfl
  | cons t rest ih =>
    have hsign : ∀ s : String, " " ++ ("=" ++ (" " ++ s)) = " = " ++ s := by
      intro s
      rw [← String.append_assoc, ← String.append_assoc]
      rfl
    have htext : spec.elementText (.clause [t.name.qualifiedName, "=", singleQuoted t.value]) =
        .ok (some t.text) := by
      rw [elementText_clause (List.cons_ne_nil _ _)]
      simp only [text, String.intercalate_cons_cons, String.intercalate_singleton,
        String.append_assoc]
      rw [hsign]
    rw [List.map_cons, FieldSpec.elementTexts, htext, ih]
    rfl

theorem segment_list {name l : String}
    (hs : FieldSpec.isRegular ⟨name, .keyword, some l, .inParentheses⟩ = true)
    (h : ∀ t ∈ tags, t.IsComplete) :
    (Field.keyword name (some l) tags .inParentheses).segment =
      written l listText (listed tags) := by
  have hv := toFragment_many (toFragments_eq h)
  show spaced (Field.tokens (⟨name, .keyword, some l, .inParentheses⟩,
    .many (tags.map toFieldValue))) = _
  cases tags with
  | nil =>
    rw [tokens_of_not_isSet hs rfl hv rfl]
    rfl
  | cons t rest =>
    have hwrap : ∀ s, FieldSpec.wrap ⟨name, .keyword, some l, .inParentheses⟩ s = "(" ++ s ++ ")" :=
      fun s => if_pos rfl
    have htidy : ∀ s, isTidy ("(" ++ s ++ ")") = true := by
      intro s
      rw [String.append_assoc]
      exact isTidy_append (by decide) (closesTidy_append (by decide))
    have hlisted : listed (t :: rest) = some ⟨t :: rest, List.cons_ne_nil t rest⟩ :=
      dif_neg (List.cons_ne_nil t rest)
    rw [tokens_of_text hs rfl hv rfl nofun (valueText_list (elementTexts_eq _ _)), hwrap,
      tidyTokens_eq_self (by simpa using htidy _), hlisted]
    simp [spaced, FieldSpec.lead, FieldSpec.separator, Modifiers.inParentheses, written, listText]

end

/-- **A list of tags can be read back**, with all names and values, and in order. -/
theorem legible_list {name l : String} {tags tags' : List Tag}
    (h : ∀ t ∈ tags, t.IsComplete) (h' : ∀ t ∈ tags', t.IsComplete)
    (hs : FieldSpec.isRegular ⟨name, .keyword, some l, .inParentheses⟩ = true) :
    Legible [⟨l, true⟩] (Field.keyword name (some l) tags .inParentheses).segment
      (Field.keyword name (some l) tags' .inParentheses).segment (tags = tags') := by
  rw [segment_list hs h, segment_list hs h']
  exact (legible_written delimited_listText _ _).congr listed_eq_iff

end Tag

end WarehouseAdmin
