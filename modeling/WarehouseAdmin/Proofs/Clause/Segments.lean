import WarehouseAdmin.Clause.Constant
import WarehouseAdmin.Proofs.Clause.Quoting
import WarehouseAdmin.Proofs.Text.Legible

/-!
# The segments of a statement

The tokens of a field, each with a blank before it, are the segment that the field adds to the
statement. Here the segment is worked out for each kind of field and each type of value, and it is
shown to be `Legible`: that it can be told whether it is there and where it ends, and what was written
in it. What cannot be told is only what the field does not write: a flag that is there and does not
hold, a text that is there and empty.

A clause inside of a clause adds its segments to those of the outer one, or has them in parentheses.
-/

set_option autoImplicit false

namespace WarehouseAdmin

open FieldValue Text

/-- The tokens, each with a blank before it. -/
def spaced (ts : List String) : List Char := ts.flatMap fun t => ' ' :: t.toList

theorem spaced_append (ts us : List String) : spaced (ts ++ us) = spaced ts ++ spaced us :=
  List.flatMap_append

theorem spaced_eq {ts : List String} (h : ts ≠ []) : spaced ts = ' ' :: (statement ts).toList := by
  induction ts with
  | nil => exact absurd rfl h
  | cons t rest ih =>
    cases rest with
    | nil => simp [spaced, statement]
    | cons u rest =>
      have hrest := ih (List.cons_ne_nil u rest)
      rw [statement, String.intercalate_cons_cons, String.append_assoc, String.toList_append,
        String.toList_append]
      show ' ' :: t.toList ++ spaced (u :: rest) = _
      rw [hrest]
      rfl

/-- What the field adds to the statement. -/
def Field.segment (f : Field) : List Char := spaced f.tokens

theorem spaced_flatMap_tokens (fields : List Field) :
    spaced (fields.flatMap Field.tokens) = fields.flatMap Field.segment := by
  induction fields with
  | nil => rfl
  | cons f rest ih => rw [List.flatMap_cons, spaced_append, ih, List.flatMap_cons]; rfl

/-- Two clauses whose segments can be read back if their fields are regular, and are the same exactly
if `P` holds. -/
inductive LegibleFields : List Heading → List Field → List Field → Prop → Prop where
  | nil : LegibleFields [] [] [] True
  | cons {hs ks : List Heading} {f f' : Field} {fields fields' : List Field} {P Q : Prop}
      (hfirst : f.1.isRegular = true → Legible hs f.segment f'.segment P)
      (hrest : LegibleFields ks fields fields' Q) :
      LegibleFields (hs ++ ks) (f :: fields) (f' :: fields') (P ∧ Q)

namespace LegibleFields

variable {hs : List Heading} {fields fields' : List Field} {P Q : Prop}

theorem congr (h : LegibleFields hs fields fields' P) (hPQ : P ↔ Q) :
    LegibleFields hs fields fields' Q := by
  rw [← propext hPQ]
  exact h

theorem legible (h : LegibleFields hs fields fields' P) (hf : fieldsRegular fields = true) :
    Legible hs (fields.flatMap Field.segment) (fields'.flatMap Field.segment) P := by
  induction h with
  | nil => exact .nil
  | @cons hs ks f f' fields fields' P Q hfirst _ ih =>
    rw [fieldsRegular_iff, List.forall_mem_cons, ← fieldsRegular_iff] at hf
    have hspec : f.1.isRegular = true := (Bool.and_eq_true _ _ |>.mp hf.1).1
    rw [List.flatMap_cons, List.flatMap_cons]
    exact (hfirst hspec).append (ih hf.2)

/-- **Two statements are the same exactly if what was written in them is.** -/
theorem statement_eq_iff (h : LegibleFields hs fields fields' P)
    (hf : fieldsRegular fields = true) (hpredict : isPredictive hs = true)
    (hne : fields.flatMap Field.tokens ≠ []) (hne' : fields'.flatMap Field.tokens ≠ []) :
    statement (fields.flatMap Field.tokens) = statement (fields'.flatMap Field.tokens) ↔ P := by
  rw [← (h.legible hf).eq_iff hpredict, ← spaced_flatMap_tokens, ← spaced_flatMap_tokens,
    spaced_eq hne, spaced_eq hne', List.cons.injEq, String.toList_inj]
  exact (and_iff_right rfl).symm

end LegibleFields

/-! ## Keywords and flags -/

section
variable {name l : String}

theorem isPlain_literal {kind : FieldKind} {m : Modifiers}
    (hs : FieldSpec.isRegular ⟨name, kind, some l, m⟩ = true) : isPlain l = true :=
  (FieldSpec.isRegular_iff.mp hs).2.2.2 l rfl

theorem segment_fixed (hs : FieldSpec.isRegular ⟨name, .static, some l, {}⟩ = true) :
    (Field.fixed name l).segment = ' ' :: l.toList := by
  have htokens : (Field.fixed name l).tokens = tidyTokens [l] := rfl
  rw [Field.segment, htokens,
    tidyTokens_eq_self (by simpa using isTidy_of_isPlain (isPlain_literal hs))]
  simp [spaced]

theorem legible_static (hs : FieldSpec.isRegular ⟨name, .static, some l, {}⟩ = true) :
    Legible [⟨l, false⟩] (Field.fixed name l).segment (Field.fixed name l).segment True := by
  rw [segment_fixed hs]
  exact legible_fixed l

/-- A flag, if it holds. -/
def keptFlag (o : Option Bool) : Option Bool := o.filter id

theorem segment_flag (hs : FieldSpec.isRegular ⟨name, .keyword, some l, {}⟩ = true)
    (o : Option Bool) :
    (Field.keyword name (some l) o).segment =
      written l (fun _ : Unit => "") ((keptFlag o).map fun _ => ()) := by
  cases o with
  | none =>
    show spaced (Field.tokens (⟨name, .keyword, some l, {}⟩, .absent)) = _
    rw [tokens_absent hs nofun rfl]
    rfl
  | some b =>
    show spaced (Field.tokens (⟨name, .keyword, some l, {}⟩, .flag b)) = _
    rw [tokens_flag hs rfl rfl]
    cases b with
    | true =>
      have hkept : keptFlag (some true) = some true := rfl
      rw [hkept]
      simp [spaced, FieldSpec.lead, written]
    | false => rfl

theorem legible_flag (o o' : Option Bool)
    (hs : FieldSpec.isRegular ⟨name, .keyword, some l, {}⟩ = true) :
    Legible [⟨l, true⟩] (Field.keyword name (some l) o).segment
      (Field.keyword name (some l) o').segment (keptFlag o = keptFlag o') := by
  have hwrite : Delimited fun _ : Unit => "" := fun _ _ _ _ _ _ _ => rfl
  rw [segment_flag hs, segment_flag hs]
  refine (legible_written hwrite _ _).congr ?_
  rcases o with _ | _ | _ <;> rcases o' with _ | _ | _ <;> decide

end

/-! ## Single values -/

/-- The values of the type are written as single values, as `write` says. -/
def WrittenAs {β : Type} [ToFieldValue β] (quotes : Quotes) (write : β → String) : Prop :=
  ∀ b : β, ∃ x, (toFieldValue b).toFragment = .ok x ∧ x.isSet = true ∧
    x.scalar? quotes = some (write b) ∧ isTidy (write b) = true

theorem writtenAs_int (quotes : Quotes) : WrittenAs quotes fun n : Int => toString n :=
  fun n => ⟨.int n, rfl, rfl, rfl, isTidy_of_isPlain isPlain_int⟩

theorem writtenAs_bool (quotes : Quotes) :
    WrittenAs quotes fun b : Bool => if b then "TRUE" else "FALSE" := by
  intro b
  refine ⟨.flag b, rfl, rfl, ?_, ?_⟩
  · cases b <;> rfl
  · cases b <;> decide

theorem writtenAs_constant {α : Type} [Constant α] (hsql : ∀ a : α, Constant.sql a ≠ "") :
    WrittenAs .single fun a : α => singleQuoted (Constant.sql a) := by
  intro a
  refine ⟨.text (Constant.sql a), rfl, ?_, rfl, isTidy_singleQuoted⟩
  simpa [Fragment.isSet] using hsql a

theorem delimited_bool : Delimited fun b : Bool => if b then "TRUE" else "FALSE" := by
  refine delimited_word (fun b => ?_) (fun a b h => ?_)
  · cases b <;> decide
  · cases a <;> cases b <;> first | rfl | exact absurd h (by decide)

/-- What stands between the literal of a parameter and its value. -/
def Modifiers.sign (m : Modifiers) : String := if m.noEquals then " " else " = "

section
variable {spec : FieldSpec}

theorem valueText_of_scalar {x : Fragment} {text : String}
    (h : x.scalar? spec.modifiers.quotes = some text) : spec.valueText x = .ok text := by
  cases x with
  | unset => exact nomatch h
  | clause ts => exact nomatch h
  | list items => exact nomatch h
  | _ => simp only [FieldSpec.valueText, FieldSpec.scalarText, h]

theorem spaced_lead_parameter {l : String} {m : Modifiers} {name text : String} :
    spaced (FieldSpec.lead ⟨name, .parameter, some l, m⟩ ++ [text]) =
      ' ' :: (l.toList ++ (m.sign ++ text).toList) := by
  cases hm : m.noEquals <;>
    simp [FieldSpec.lead, FieldSpec.parameterLead, Modifiers.sign, hm, spaced]

end

section
variable {name l : String} {m : Modifiers}

/-- A parameter that is a single value. -/
theorem segment_parameter (hs : FieldSpec.isRegular ⟨name, .parameter, some l, m⟩ = true)
    (hw : FieldSpec.wraps ⟨name, .parameter, some l, m⟩ = false) {v : FieldValue} {x : Fragment}
    (hv : v.toFragment = .ok x) (hx : x.isSet = true) {text : String}
    (htext : x.scalar? m.quotes = some text) (htidy : isTidy text = true) :
    Field.segment (⟨name, .parameter, some l, m⟩, v) =
      ' ' :: (l.toList ++ (m.sign ++ text).toList) := by
  have hwrap : FieldSpec.wrap ⟨name, .parameter, some l, m⟩ text = text := if_neg (by simp [hw])
  rw [Field.segment, tokens_of_text hs rfl hv hx (fun _ _ => rfl) (valueText_of_scalar htext), hwrap,
    tidyTokens_eq_self (by simpa using htidy), spaced_lead_parameter]

theorem segment_parameter_option {β : Type} [ToFieldValue β]
    (hs : FieldSpec.isRegular ⟨name, .parameter, some l, m⟩ = true)
    (hw : FieldSpec.wraps ⟨name, .parameter, some l, m⟩ = false) {write : β → String}
    (hwrite : WrittenAs m.quotes write) (o : Option β) :
    (Field.parameter name l o m).segment = written l (fun b => m.sign ++ write b) o := by
  cases o with
  | none =>
    have hrequired : m.required = false := by
      cases hr : m.required with
      | false => rfl
      | true => exact nomatch FieldSpec.kind_of_required (FieldSpec.isRegular_iff.mp hs).1 hr
    show spaced (Field.tokens (⟨name, .parameter, some l, m⟩, .absent)) = _
    rw [tokens_absent hs nofun (by simpa [FieldValue.isRegular] using hrequired)]
    rfl
  | some b =>
    obtain ⟨x, hv, hx, htext, htidy⟩ := hwrite b
    exact segment_parameter (v := .present (toFieldValue b)) hs hw hv hx htext htidy

theorem legible_parameter {β : Type} [ToFieldValue β] {write : β → String}
    (hwrite : WrittenAs m.quotes write) (hdelimited : Delimited write)
    (hw : FieldSpec.wraps ⟨name, .parameter, some l, m⟩ = false) (o o' : Option β)
    (hs : FieldSpec.isRegular ⟨name, .parameter, some l, m⟩ = true) :
    Legible [⟨l, true⟩] (Field.parameter name l o m).segment (Field.parameter name l o' m).segment
      (o = o') := by
  rw [segment_parameter_option hs hw hwrite, segment_parameter_option hs hw hwrite]
  exact legible_written (hdelimited.after m.sign) o o'

/-- A text, if it is not empty. -/
def keptText (o : Option String) : Option String := o.filter (· != "")

theorem segment_text (hm : m.quotes = .single)
    (hs : FieldSpec.isRegular ⟨name, .parameter, some l, m⟩ = true)
    (hw : FieldSpec.wraps ⟨name, .parameter, some l, m⟩ = false) (o : Option String) :
    (Field.parameter name l o m).segment =
      written l (fun s => m.sign ++ singleQuoted s) (keptText o) := by
  have hnone : ∀ v : FieldValue, v.toFragment = .ok .unset →
      Field.segment (⟨name, .parameter, some l, m⟩, v) = [] := by
    intro v hv
    rw [Field.segment, tokens_of_not_isSet hs rfl hv rfl]
    rfl
  cases o with
  | none => exact hnone .absent rfl
  | some s =>
    by_cases hempty : s = ""
    · rw [hempty]
      exact hnone (.present (.text "")) rfl
    · have hkept : keptText (some s) = some s := by simp [keptText, hempty]
      have hv : toFragment (.present (.text s)) = .ok (.text s) := toFragment_text hempty
      rw [hkept]
      exact segment_parameter hs hw hv (by simpa [Fragment.isSet] using hempty)
        (by rw [hm]; rfl) isTidy_singleQuoted

theorem legible_text (hm : m.quotes = .single)
    (hw : FieldSpec.wraps ⟨name, .parameter, some l, m⟩ = false) (o o' : Option String)
    (hs : FieldSpec.isRegular ⟨name, .parameter, some l, m⟩ = true) :
    Legible [⟨l, true⟩] (Field.parameter name l o m).segment (Field.parameter name l o' m).segment
      (keptText o = keptText o') := by
  rw [segment_text hm hs hw, segment_text hm hs hw]
  exact legible_written (delimited_singleQuoted.after m.sign) _ _

end

/-! ## Names -/

/-- The identifiers that are made of quoted parts only. -/
class QuotedId (Id : Type) [ToFieldValue Id] where
  up : Id → Identifier
  toFieldValue_eq : ∀ id : Id, toFieldValue id = .identifier (up id)
  isQuoted : ∀ id, (up id).isQuoted = true
  delimited : Delimited fun id => (up id).qualifiedName

instance : QuotedId AccountObjectId := ⟨.account, fun _ => rfl, fun _ => rfl, delimited_account⟩

instance : QuotedId DatabaseObjectId := ⟨.database, fun _ => rfl, fun _ => rfl, delimited_database⟩

theorem quote_prefix_qualify {parts : List String} (h : parts ≠ []) :
    "\"".toList <+: (qualify parts).toList := by
  cases parts with
  | nil => exact absurd rfl h
  | cons p rest =>
    cases rest with
    | nil =>
      rw [qualify_singleton, toList_doubleQuoted]
      exact ⟨_, rfl⟩
    | cons q rest =>
      rw [toList_qualify_cons_cons]
      exact ⟨_, rfl⟩

section
open QuotedId

variable {Id : Type} [ToFieldValue Id] [QuotedId Id] {name : String}

theorem segment_name (hs : FieldSpec.isRegular ⟨name, .identifier, none, { required := true }⟩ = true)
    {id : Id} (hid : (up id).isValid = true) :
    (Field.required name none id).segment = ' ' :: (up id).qualifiedName.toList := by
  show spaced (Field.tokens (_, toFieldValue id)) = _
  rw [toFieldValue_eq, tokens_identifier hs rfl hid,
    tidyTokens_eq_self (by simpa using isTidy_qualifiedName)]
  simp [spaced, FieldSpec.lead]

/-- A name that has to be there is told by its first quote. -/
theorem legible_name (a b : Id) (ha : (up a).isValid = true) (hb : (up b).isValid = true)
    (hs : FieldSpec.isRegular ⟨name, .identifier, none, { required := true }⟩ = true) :
    Legible [⟨"\"", false⟩] (Field.required name none a).segment (Field.required name none b).segment
      (a = b) := by
  refine legible_required delimited (segment_name hs ha) (segment_name hs hb) fun id => ?_
  rw [Identifier.qualifiedName_eq (isQuoted id)]
  exact quote_prefix_qualify (Identifier.parts_ne_nil _)

theorem segment_property {l : String}
    (hs : FieldSpec.isRegular ⟨name, .identifier, some l, { equals := true }⟩ = true) {o : Option Id}
    (ho : ∀ id, o = some id → (up id).isValid = true) :
    (Field.identifier name (some l) o { equals := true }).segment =
      written l (fun id => " = " ++ (up id).qualifiedName) o := by
  cases o with
  | none =>
    show spaced (Field.tokens (_, .absent)) = _
    rw [tokens_absent hs nofun rfl]
    rfl
  | some id =>
    show spaced (Field.tokens (⟨name, .identifier, some l, { equals := true }⟩,
      toFieldValue id)) = _
    rw [toFieldValue_eq, tokens_identifier hs rfl (ho id rfl),
      tidyTokens_eq_self (by simpa using isTidy_qualifiedName)]
    simp [spaced, FieldSpec.lead, FieldSpec.identifierLead, written]

/-- A name that may be missing, behind an equals sign. -/
theorem legible_property {l : String} (o o' : Option Id)
    (ho : ∀ id, o = some id → (up id).isValid = true)
    (ho' : ∀ id, o' = some id → (up id).isValid = true)
    (hs : FieldSpec.isRegular ⟨name, .identifier, some l, { equals := true }⟩ = true) :
    Legible [⟨l, true⟩] (Field.identifier name (some l) o { equals := true }).segment
      (Field.identifier name (some l) o' { equals := true }).segment (o = o') := by
  rw [segment_property hs ho, segment_property hs ho']
  exact legible_written (delimited.after " = ") o o'

end

/-! ## Clauses inside of clauses -/

section
variable {spec : FieldSpec} {fields : List Field}

/-- Says whether the field is told by its value to be set: it is not always the same, and not a flag
that has no option around it. -/
def Field.isPlainlySet (f : Field) : Prop := f.1.kind ≠ .static ∧ ∀ b, f.2 ≠ .flag b

/-- A clause of such fields counts as given if it writes anything. -/
theorem isSet_of_tokens_ne_nil (hf : fieldsRegular fields = true)
    (hids : AllValid (fieldIdentifiers fields)) (hplain : ∀ f ∈ fields, f.isPlainlySet)
    (h : fields.flatMap Field.tokens ≠ []) : isSet (.clause fields) = true := by
  have hspeaks := (flatMap_tokens_ne_nil_iff fields hf hids).mp h
  rw [anySpeaks_eq, List.any_eq_true] at hspeaks
  obtain ⟨f, hmem, hspeaks⟩ := hspeaks
  obtain ⟨hkind, hflag⟩ := hplain f hmem
  rw [Field.speaks, Bool.or_eq_true] at hspeaks
  have hspoken := hspeaks.resolve_left (by simpa using hkind)
  rw [isSet, anySet_iff, Bool.or_eq_true, List.any_eq_true]
  exact .inr ⟨f, hmem, by simp [hkind, isSet_of_speaks hspoken hflag]⟩

theorem tokens_clause (hs : spec.isRegular = true) (ht : spec.takesText = true)
    (hf : fieldsRegular fields = true) (hids : AllValid (fieldIdentifiers fields))
    (hplain : ∀ f ∈ fields, f.isPlainlySet) :
    Field.tokens (spec, .clause fields) =
      if fields.flatMap Field.tokens = [] then []
      else spec.lead ++ [spec.wrap (statement (fields.flatMap Field.tokens))] := by
  have hv := toFragment_clause (succeed_of_isRegular fields hf hids)
  by_cases hnil : fields.flatMap Field.tokens = []
  · rw [if_pos hnil]
    refine tokens_of_not_isSet hs ht hv ?_
    split
    · simp [Fragment.isSet, hnil]
    · rfl
  · have htidy : isTidy (statement (fields.flatMap Field.tokens)) = true :=
      isTidy_intercalate hnil flatMap_tokens_tidy
    have hwrap : isTidy (spec.wrap (statement (fields.flatMap Field.tokens))) = true := by
      rw [FieldSpec.wrap]
      split
      · rw [String.append_assoc]
        exact isTidy_append (by decide) (closesTidy_append (by decide))
      · exact htidy
    rw [if_pos (isSet_of_tokens_ne_nil hf hids hplain hnil)] at hv
    have htokens : tidyTokens [spec.wrap (statement (fields.flatMap Field.tokens))] =
        [spec.wrap (statement (fields.flatMap Field.tokens))] :=
      tidyTokens_eq_self fun t ht => by rwa [List.mem_singleton.mp ht]
    rw [if_neg hnil, tokens_of_text hs ht hv (by simpa [Fragment.isSet] using hnil) (by simp) rfl]
    exact congrArg (spec.lead ++ ·) htokens

/-- A clause without parentheses adds its segments, behind the literal of its field if that has one. -/
theorem segment_clause (hs : spec.isRegular = true) (ht : spec.takesText = true)
    (hw : spec.wraps = false) (hf : fieldsRegular fields = true)
    (hids : AllValid (fieldIdentifiers fields)) (hplain : ∀ f ∈ fields, f.isPlainlySet)
    (hne : fields.flatMap Field.tokens ≠ [] ∨ spec.lead = []) :
    Field.segment (spec, .clause fields) = spaced spec.lead ++ fields.flatMap Field.segment := by
  rw [Field.segment, tokens_clause hs ht hf hids hplain, ← spaced_flatMap_tokens]
  by_cases hnil : fields.flatMap Field.tokens = []
  · rw [if_pos hnil, hnil, hne.resolve_left (not_not_intro hnil)]
    rfl
  · have hwrap : spec.wrap (statement (fields.flatMap Field.tokens)) =
        statement (fields.flatMap Field.tokens) := if_neg (by simp [hw])
    rw [if_neg hnil, hwrap, spaced_append, spaced_eq hnil]
    simp [spaced]

/-- A clause in parentheses. -/
theorem segment_group (hs : spec.isRegular = true) (hk : spec.kind = .keyword) {l : String}
    (hl : spec.literal = some l) (hw : spec.wraps = true) (hf : fieldsRegular fields = true)
    (hids : AllValid (fieldIdentifiers fields)) (hplain : ∀ f ∈ fields, f.isPlainlySet) :
    Field.segment (spec, .clause fields) = grouped l (fields.flatMap Field.segment) := by
  have hlead : spec.lead = [l] := by simp [FieldSpec.lead, hl, hk]
  rw [Field.segment, tokens_clause hs (FieldSpec.takesText_iff.mpr (.inl hk)) hf hids hplain,
    ← spaced_flatMap_tokens, hlead]
  by_cases hnil : fields.flatMap Field.tokens = []
  · rw [if_pos hnil, hnil]
    rfl
  · rw [if_neg hnil, spaced_eq hnil]
    simp [spaced, grouped, FieldSpec.wrap, hw]

end

end WarehouseAdmin
