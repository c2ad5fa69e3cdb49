import WarehouseAdmin.Proofs.Clause.Silence
import WarehouseAdmin.Proofs.Text.Alike

/-!
# What the fields of a clause quote

The texts that a request holds come from its user and may contain anything. This file shows where
they end up: inside literals of the statement, and nowhere else.

`masked` puts the same letter in the place of every text and of every part of an identifier. Two
values with one mask agree on everything but the contents of their texts. The theorem is about a
value and its mask alone: the tokens of the two are alike (`tokens_alike`), that is, they have the
same outline, and what the first ones quote are the texts of the value, in order. Two values with one
mask are then related through it, and no statement about pairs of values is needed.
-/

set_option autoImplicit false

namespace WarehouseAdmin

/-- Puts one letter in the place of a text; the empty text stays. -/
def maskText (s : String) : String := if s = "" then "" else "x"

def SchemaObjectId.masked (id : SchemaObjectId) : SchemaObjectId :=
  ⟨maskText id.database, maskText id.schema, maskText id.name⟩

def Identifier.masked : Identifier → Identifier
  | .account id => .account ⟨maskText id.name⟩
  | .database id => .database ⟨maskText id.database, maskText id.name⟩
  | .schema id => .schema id.masked
  | .function id => .function ⟨id.object.masked, id.arguments⟩

/-- Says whether the identifier is made of quoted parts only. -/
def Identifier.isQuoted : Identifier → Bool
  | .function _ => false
  | _ => true

/-- The text, unless it is empty. -/
def filled (s : String) : List String := if s = "" then [] else [s]

namespace FieldValue

mutual

/-- Puts one letter in the place of every text and of every part of an identifier. -/
def masked : FieldValue → FieldValue
  | .text s => .text (maskText s)
  | .identifier id => .identifier id.masked
  | .present v => .present v.masked
  | .many vs => .many (maskedElements vs)
  | .clause fields => .clause (maskedFields fields)
  | .unit => .unit
  | .flag b => .flag b
  | .int n => .int n
  | .float x => .float x
  | .constant sql => .constant sql
  | .absent => .absent
  | .fragment f => .fragment f

def maskedElements : List FieldValue → List FieldValue
  | [] => []
  | v :: rest => v.masked :: maskedElements rest

def maskedFields : List Field → List Field
  | [] => []
  | (spec, v) :: rest => (spec, v.masked) :: maskedFields rest

end

mutual

/-- The texts, the constants and the parts of identifiers that the value holds, in order. -/
def texts : FieldValue → List String
  | .text s => filled s
  | .constant sql => filled sql
  | .identifier id => id.parts
  | .present v => v.texts
  | .many vs => textsOfElements vs
  | .clause fields => textsOfFields fields
  | .unit | .flag _ | .int _ | .float _ | .absent | .fragment _ => []

def textsOfElements : List FieldValue → List String
  | [] => []
  | v :: rest => v.texts ++ textsOfElements rest

/-- The texts of the fields that are set. -/
def textsOfFields : List Field → List String
  | [] => []
  | (spec, v) :: rest =>
    (if spec.kind != .static && v.isSet then v.texts else []) ++ textsOfFields rest

end

mutual

/-- Says whether the field quotes every text and every constant that the value holds. -/
def isQuoted (spec : FieldSpec) : FieldValue → Bool
  | .text _ | .constant _ => spec.modifiers.quotes == .single
  | .identifier id => id.isQuoted
  | .present v => v.isQuoted spec
  | .many vs => elementsQuoted spec vs
  | .clause fields => fieldsQuoted fields
  | .unit | .flag _ | .int _ | .float _ | .absent | .fragment _ => true

def elementsQuoted (spec : FieldSpec) : List FieldValue → Bool
  | [] => true
  | v :: rest => v.isQuoted spec && elementsQuoted spec rest

/-- Says whether every field quotes what it holds. -/
def fieldsQuoted : List Field → Bool
  | [] => true
  | (spec, v) :: rest => (spec.kind == .static || v.isQuoted spec) && fieldsQuoted rest

end

end FieldValue

open FieldValue

/-! ## Masking keeps everything but the texts -/

theorem maskText_eq_empty {s : String} : maskText s = "" ↔ s = "" := by
  unfold maskText
  split
  · rename_i h
    simp [h]
  · rename_i h
    simp [h]

theorem maskText_bne {s : String} : (maskText s != "") = (s != "") := by
  rw [Bool.eq_iff_iff, bne_iff_ne, bne_iff_ne, Ne, maskText_eq_empty]

namespace Identifier

theorem isValid_masked {id : Identifier} : id.masked.isValid = id.isValid := by
  cases id with
  | account id => exact maskText_bne
  | database id => simp [masked, isValid, DatabaseObjectId.isValid, maskText_bne]
  | schema id => simp [masked, isValid, SchemaObjectId.masked, SchemaObjectId.isValid, maskText_bne]
  | function id =>
    simp [masked, isValid, FunctionId.isValid, SchemaObjectId.masked, SchemaObjectId.isValid,
      maskText_bne]

theorem qualifiedName_eq {id : Identifier} (h : id.isQuoted = true) :
    id.qualifiedName = qualify id.parts := by
  cases id with
  | function id => exact absurd h (by simp [isQuoted])
  | _ => rfl

theorem length_parts_masked {id : Identifier} : id.parts.length = id.masked.parts.length := by
  cases id <;> rfl

theorem isQuoted_masked {id : Identifier} : id.masked.isQuoted = id.isQuoted := by
  cases id <;> rfl

theorem alike_qualifiedName {id : Identifier} (h : id.isQuoted = true) :
    Text.Alike id.qualifiedName id.masked.qualifiedName id.parts := by
  rw [qualifiedName_eq h, qualifiedName_eq (isQuoted_masked.trans h)]
  exact Text.alike_qualify id.parts_ne_nil length_parts_masked

end Identifier

mutual

theorem isSet_masked : (v : FieldValue) → v.masked.isSet = v.isSet
  | .text s => by rw [masked, isSet, isSet, maskText_bne]
  | .identifier id => by rw [masked, isSet, isSet, Identifier.isValid_masked]
  | .present v => by rw [masked, isSet, isSet]
  | .many vs => by
    rw [masked, isSet, isSet]
    cases vs with
    | nil => rfl
    | cons v rest => rw [maskedElements]; rfl
  | .clause fields => by
    rw [masked, isSet, isSet, anySet_masked fields, onlyStatic_masked fields]
  | .unit | .flag _ | .int _ | .float _ | .constant _ | .absent | .fragment _ => by rw [masked]

theorem anySet_masked : (fields : List Field) → anySet (maskedFields fields) = anySet fields
  | [] => rfl
  | (spec, v) :: rest => by
    rw [maskedFields, anySet, anySet, isSet_masked v, anySet_masked rest]

theorem onlyStatic_masked : (fields : List Field) →
    onlyStatic (maskedFields fields) = onlyStatic fields
  | [] => rfl
  | (spec, v) :: rest => by
    have ih := onlyStatic_masked rest
    rw [onlyStatic, maskedFields, List.all_cons]
    rw [onlyStatic] at ih
    rw [ih]
    rfl

end

theorem isNamed_masked {fields : List Field} : isNamed (maskedFields fields) = isNamed fields := by
  induction fields with
  | nil => rfl
  | cons f rest ih =>
    obtain ⟨spec, v⟩ := f
    show (spec.modifiers.required || isNamed (maskedFields rest)) = _
    rw [ih]
    rfl

mutual

theorem isRegular_masked {spec : FieldSpec} :
    (v : FieldValue) → v.masked.isRegular spec = v.isRegular spec
  | .text s => by rw [masked, FieldValue.isRegular, FieldValue.isRegular]
  | .identifier id => by rw [masked, FieldValue.isRegular, FieldValue.isRegular]
  | .present v => by rw [masked, FieldValue.isRegular, FieldValue.isRegular, isRegular_masked v]
  | .many vs => by
    rw [masked, FieldValue.isRegular, FieldValue.isRegular, elementsRegular_masked vs]
  | .clause fields => by
    rw [masked, FieldValue.isRegular, FieldValue.isRegular, fieldsRegular_masked fields]
  | .unit | .flag _ | .int _ | .float _ | .constant _ | .absent | .fragment _ => by rw [masked]

theorem elementsRegular_masked :
    (vs : List FieldValue) → elementsRegular (maskedElements vs) = elementsRegular vs
  | [] => rfl
  | v :: rest => by
    rw [maskedElements, elementsRegular, elementsRegular, isRegularElement_masked v,
      elementsRegular_masked rest]

theorem isRegularElement_masked :
    (v : FieldValue) → v.masked.isRegularElement = v.isRegularElement
  | .identifier id => by rw [masked, isRegularElement, isRegularElement]
  | .clause fields => by
    rw [masked, isRegularElement, isRegularElement, isNamed_masked, fieldsRegular_masked fields]
  | .text s => by simp [masked, isRegularElement]
  | .present v => by simp [masked, isRegularElement]
  | .many vs => by simp [masked, isRegularElement]
  | .unit | .flag _ | .int _ | .float _ | .constant _ | .absent | .fragment _ => by rw [masked]

theorem fieldsRegular_masked :
    (fields : List Field) → fieldsRegular (maskedFields fields) = fieldsRegular fields
  | [] => rfl
  | (spec, v) :: rest => by
    rw [maskedFields, fieldsRegular, fieldsRegular, isRegular_masked v, fieldsRegular_masked rest]

end

mutual

theorem identifiers_masked :
    (v : FieldValue) → v.masked.identifiers = v.identifiers.map Identifier.masked
  | .identifier id => by rw [masked, identifiers, identifiers]; rfl
  | .present v => by rw [masked, identifiers, identifiers, identifiers_masked v]
  | .many vs => by rw [masked, identifiers, identifiers, elementIdentifiers_masked vs]
  | .clause fields => by rw [masked, identifiers, identifiers, fieldIdentifiers_masked fields]
  | .unit | .flag _ | .int _ | .float _ | .text _ | .constant _ | .absent | .fragment _ => by
    simp [masked, identifiers]

theorem elementIdentifiers_masked : (vs : List FieldValue) →
    elementIdentifiers (maskedElements vs) = (elementIdentifiers vs).map Identifier.masked
  | [] => rfl
  | v :: rest => by
    rw [maskedElements, elementIdentifiers, elementIdentifiers, identifiers_masked v,
      elementIdentifiers_masked rest, List.map_append]

theorem fieldIdentifiers_masked : (fields : List Field) →
    fieldIdentifiers (maskedFields fields) = (fieldIdentifiers fields).map Identifier.masked
  | [] => rfl
  | (spec, v) :: rest => by
    rw [maskedFields, fieldIdentifiers, fieldIdentifiers, identifiers_masked v,
      fieldIdentifiers_masked rest, List.map_append]

end

theorem allValid_masked {ids : List Identifier} (h : AllValid ids) :
    AllValid (ids.map Identifier.masked) := by
  intro id hid
  obtain ⟨id', hid', rfl⟩ := List.mem_map.mp hid
  rw [Identifier.isValid_masked]
  exact h id' hid'

/-! ## What is not set holds no text -/

theorem textsOfFields_eq_nil {fields : List Field} (h : anySet fields = false) :
    textsOfFields fields = [] := by
  induction fields with
  | nil => rfl
  | cons f rest ih =>
    obtain ⟨spec, v⟩ := f
    rw [anySet, Bool.or_eq_false_iff] at h
    rw [textsOfFields, h.1, ih h.2]
    rfl

theorem texts_of_not_isSet {v : FieldValue} (hids : AllValid v.identifiers)
    (h : v.isSet = false) : v.texts = [] := by
  cases v with
  | text s =>
    have hs : s = "" := by simpa [isSet] using h
    rw [texts, filled, if_pos hs]
  | identifier id =>
    exact absurd ((isValid_of_allValid hids).symm.trans h) (by simp)
  | many vs =>
    have hvs : vs = [] := by simpa [isSet] using h
    rw [hvs]
    rfl
  | clause fields =>
    rw [isSet, Bool.or_eq_false_iff] at h
    exact textsOfFields_eq_nil h.2
  | constant sql => exact absurd h (by simp [isSet])
  | present v => exact absurd h (by simp [isSet])
  | _ => rfl

/-! ## The tokens of a value and of its mask are alike -/

section
variable {spec : FieldSpec}

theorem alike_wrap {t u : String} {xs : List String} (h : Text.Alike t u xs) :
    Text.Alike (spec.wrap t) (spec.wrap u) xs := by
  unfold FieldSpec.wrap
  split
  · exact Text.alike_parenthesized h
  · exact h

theorem allAlike_lead (hs : spec.isRegular = true) : Text.AllAlike spec.lead spec.lead [] :=
  .plain (FieldSpec.lead_plain hs)

theorem allAlike_lead_append (hs : spec.isRegular = true) {t u : String} {xs : List String}
    (h : Text.Alike t u xs) :
    Text.AllAlike (spec.lead ++ tidyTokens [t]) (spec.lead ++ tidyTokens [u]) xs := by
  rw [tidyTokens_eq_self (by simpa using h.tidy_left), tidyTokens_eq_self (by simpa using h.tidy_right)]
  exact (allAlike_lead hs).append (.singleton h)

theorem separator_plain : spec.separator ≠ "" ∧ Text.isUnquoted spec.separator = true := by
  unfold FieldSpec.separator
  split
  · exact ⟨by decide, by decide⟩
  · exact ⟨by decide, by decide⟩

theorem valueText_list {items : List Fragment} {ts : List String}
    (h : spec.elementTexts items = .ok ts) :
    spec.valueText (.list items) = .ok (String.intercalate spec.separator ts) := by
  rw [FieldSpec.valueText, FieldSpec.listText, h]
  rfl

theorem tokens_of_quoted (hs : spec.isRegular = true) (ht : spec.takesText = true)
    (hq : spec.modifiers.quotes = .single) {v : FieldValue} {s : String} (hne : s ≠ "")
    (hv : v.toFragment = .ok (.text s)) :
    Field.tokens (spec, v) = spec.lead ++ tidyTokens [spec.wrap (Text.singleQuoted s)] := by
  refine tokens_of_text hs ht hv (by simpa [Fragment.isSet] using hne) (by simp) ?_
  simp [FieldSpec.valueText, FieldSpec.scalarText, Fragment.scalar?, hq]

end

theorem speaks_of_required {spec : FieldSpec} (hk : spec.kind = .identifier)
    (hr : spec.modifiers.required = true) : (v : FieldValue) → v.isRegular spec = true →
    AllValid v.identifiers → v.speaks spec = true
  | .identifier id => by
    intro _ hids
    exact isValid_of_allValid hids
  | .present v => speaks_of_required hk hr v
  | .unit | .flag _ | .int _ | .float _ | .text _ | .constant _ | .absent | .many _ | .clause _
  | .fragment _ => by
    intro h _
    exact absurd h (by simp [FieldValue.isRegular, FieldSpec.takesText, hk, hr])

/-- A clause that must hold an identifier writes at least that. -/
theorem tokens_ne_nil_of_isNamed {fields : List Field} (hn : isNamed fields = true)
    (hf : fieldsRegular fields = true) (hids : AllValid (fieldIdentifiers fields)) :
    fields.flatMap Field.tokens ≠ [] := by
  obtain ⟨f, hmem, hr⟩ := List.any_eq_true.mp hn
  obtain ⟨hs, hv⟩ := Bool.and_eq_true _ _ |>.mp (fieldsRegular_iff.mp hf f hmem)
  have hk := FieldSpec.kind_of_required (FieldSpec.isRegular_iff.mp hs).1 hr
  have hreg : f.2.isRegular f.1 = true := by simpa [hk] using hv
  have hspeaks := speaks_of_required hk hr f.2 hreg (allValid_of_mem hids hmem)
  rw [flatMap_tokens_ne_nil_iff fields hf hids, anySpeaks_eq, List.any_eq_true]
  exact ⟨f, hmem, by rw [Field.speaks, hspeaks, Bool.or_true]⟩

theorem elementText_clause {spec : FieldSpec} {tokens : List String} (h : tokens ≠ []) :
    spec.elementText (.clause tokens) = .ok (some (String.intercalate " " tokens)) := by
  cases tokens with
  | nil => exact absurd rfl h
  | cons t rest => rfl

/-! Each kind of value, one by one. Of a sequence and of a clause it is assumed what the induction gives:
that their elements or fields are alike. -/

section
variable {spec : FieldSpec} (hs : spec.isRegular = true)
include hs

theorem tokens_static_masked (hk : spec.kind = .static) {v : FieldValue} :
    Text.AllAlike (Field.tokens (spec, v)) (Field.tokens (spec, v.masked)) [] := by
  obtain ⟨l, hplain, hemit⟩ := FieldSpec.emit_static hs hk
  have htok : ∀ v, Field.tokens (spec, v) = [l] := fun v =>
    congrArg Emission.tokens (hemit v.toFragment)
  rw [htok, htok]
  exact .plain (by simpa using hplain)

theorem tokens_flag_alike {b : Bool} (ht : spec.takesText = true) (hl : spec.literal.isSome = true) :
    Text.AllAlike (Field.tokens (spec, .flag b)) (Field.tokens (spec, .flag b)) [] := by
  rcases FieldSpec.takesText_iff.mp ht with hk | hk
  · rw [tokens_flag hs hk hl]
    cases b with
    | true => exact allAlike_lead hs
    | false => exact .nil
  · rw [tokens_of_text hs ht (x := .flag b) rfl rfl (fun _ _ => hk) FieldSpec.valueText_flag]
    refine allAlike_lead_append hs (alike_wrap (Text.alike_plain ?_))
    cases b <;> decide

theorem tokens_text_alike (ht : spec.takesText = true) (hq : spec.modifiers.quotes = .single)
    (s : String) :
    Text.AllAlike (Field.tokens (spec, .text s)) (Field.tokens (spec, .text (maskText s)))
      (filled s) := by
  rw [filled]
  by_cases hempty : s = ""
  · rw [if_pos hempty, maskText, if_pos hempty, hempty,
      tokens_of_not_isSet hs ht (x := .unset) rfl rfl]
    exact .nil
  · have hmask : maskText s ≠ "" := fun hm => hempty (maskText_eq_empty.mp hm)
    rw [if_neg hempty, tokens_of_quoted hs ht hq hempty (toFragment_text hempty),
      tokens_of_quoted hs ht hq hmask (toFragment_text hmask)]
    exact allAlike_lead_append hs (alike_wrap Text.alike_singleQuoted)

theorem tokens_constant_alike (ht : spec.takesText = true) (hq : spec.modifiers.quotes = .single)
    (sql : String) :
    Text.AllAlike (Field.tokens (spec, .constant sql)) (Field.tokens (spec, .constant sql))
      (filled sql) := by
  rw [filled]
  by_cases hempty : sql = ""
  · rw [if_pos hempty, tokens_of_not_isSet hs ht (x := .text sql) rfl
      (by simp [Fragment.isSet, hempty])]
    exact .nil
  · rw [if_neg hempty, tokens_of_quoted hs ht hq hempty rfl]
    exact allAlike_lead_append hs (alike_wrap Text.alike_singleQuoted)

/-- The elements of a sequence come to texts, to none only if there is no element, and these are alike
to the texts that their masks come to. -/
def ElementsAlike (spec : FieldSpec) (vs : List FieldValue) : Prop :=
  ∃ items items' ts us, toFragments vs = .ok items ∧ toFragments (maskedElements vs) = .ok items' ∧
    spec.elementTexts items = .ok ts ∧ spec.elementTexts items' = .ok us ∧
    (ts = [] ↔ vs = []) ∧ Text.AllAlike ts us (textsOfElements vs)

/-- A sequence is one token, its elements with separators between them, or nothing if it is empty. -/
theorem tokens_many_alike (ht : spec.takesText = true) {vs : List FieldValue}
    (h : ElementsAlike spec vs) :
    Text.AllAlike (Field.tokens (spec, .many vs)) (Field.tokens (spec, .many (maskedElements vs)))
      (textsOfElements vs) := by
  obtain ⟨items, items', ts, us, hitems, hitems', hts, hus, hlen, hall⟩ := h
  have hv := toFragment_many hitems
  have hv' := toFragment_many hitems'
  cases vs with
  | nil =>
    rw [tokens_of_not_isSet hs ht hv (by simp [Fragment.isSet, (toFragments_eq_nil hitems).mpr rfl]),
      tokens_of_not_isSet hs ht hv' (by simp [Fragment.isSet, (toFragments_eq_nil hitems').mpr rfl])]
    exact .nil
  | cons v rest =>
    have hne : items ≠ [] := fun hnil => absurd ((toFragments_eq_nil hitems).mp hnil) (by simp)
    have hne' : items' ≠ [] := fun hnil =>
      absurd ((toFragments_eq_nil hitems').mp hnil) (by simp [maskedElements])
    rw [tokens_of_text hs ht hv (by simpa [Fragment.isSet] using hne) (by simp) (valueText_list hts),
      tokens_of_text hs ht hv' (by simpa [Fragment.isSet] using hne') (by simp) (valueText_list hus)]
    exact allAlike_lead_append hs (alike_wrap (hall.intercalate_alike separator_plain.1
      separator_plain.2 fun hnil => absurd (hlen.mp hnil) (by simp)))

/-- A clause is one token, those of its fields with blanks between them, or nothing if nothing is set
or if what is set writes nothing. -/
theorem tokens_clause_alike (ht : spec.takesText = true) {fields : List Field}
    (hf : fieldsRegular fields = true) (hids : AllValid (fieldIdentifiers fields))
    (hall : Text.AllAlike (fields.flatMap Field.tokens) ((maskedFields fields).flatMap Field.tokens)
      (textsOfFields fields)) :
    Text.AllAlike (Field.tokens (spec, .clause fields))
      (Field.tokens (spec, .clause (maskedFields fields))) (textsOfFields fields) := by
  have hv := toFragment_clause (succeed_of_isRegular fields hf hids)
  have hv' := toFragment_clause (succeed_of_isRegular (maskedFields fields)
    ((fieldsRegular_masked fields).trans hf) (by
      rw [fieldIdentifiers_masked]
      exact allValid_masked hids))
  have hset' : isSet (.clause (maskedFields fields)) = isSet (.clause fields) :=
    isSet_masked (.clause fields)
  rw [hset'] at hv'
  by_cases hset : isSet (.clause fields) = true
  · rw [if_pos hset] at hv hv'
    by_cases hnil : fields.flatMap Field.tokens = []
    · have hnil' := hall.eq_nil_iff.mp hnil
      rw [tokens_of_not_isSet hs ht hv (by simp [Fragment.isSet, hnil]),
        tokens_of_not_isSet hs ht hv' (by simp [Fragment.isSet, hnil'])]
      rwa [hnil, hnil'] at hall
    · have hnil' : (maskedFields fields).flatMap Field.tokens ≠ [] :=
        fun hn => hnil (hall.eq_nil_iff.mpr hn)
      rw [tokens_of_text hs ht hv (by simpa [Fragment.isSet] using hnil) (by simp) rfl,
        tokens_of_text hs ht hv' (by simpa [Fragment.isSet] using hnil') (by simp) rfl]
      exact allAlike_lead_append hs (alike_wrap
        (hall.intercalate_alike (by decide) (by decide) hnil))
  · rw [if_neg hset] at hv hv'
    have hfields : anySet fields = false := by
      rw [isSet] at hset
      simp at hset
      exact hset.2
    rw [tokens_of_not_isSet hs ht hv rfl, tokens_of_not_isSet hs ht hv' rfl,
      textsOfFields_eq_nil hfields]
    exact .nil

end

mutual

/-- **The tokens of a value and of its mask are alike**, and what the former quote are the texts of the
value. The induction is over values, their elements and their fields; `isRegular` leaves the cases in
which a field writes its value at all. -/
theorem tokens_alike {spec : FieldSpec} (hs : spec.isRegular = true) : (v : FieldValue) →
    v.isRegular spec = true → spec.kind ≠ .static → v.isQuoted spec = true →
    AllValid v.identifiers →
    Text.AllAlike (Field.tokens (spec, v)) (Field.tokens (spec, v.masked)) v.texts
  | .flag b => by
    intro h _ _ _
    rw [FieldValue.isRegular, Bool.and_eq_true] at h
    rw [masked, texts]
    exact tokens_flag_alike hs h.1 h.2
  | .int n => by
    intro h _ _ _
    rw [masked, texts, tokens_of_text hs h (x := .int n) rfl rfl (by simp) rfl]
    exact allAlike_lead_append hs (alike_wrap (Text.alike_plain Text.isPlain_int))
  | .text s => by
    intro h _ hq _
    rw [FieldValue.isRegular, Bool.and_eq_true] at h
    rw [masked, texts]
    exact tokens_text_alike hs h.1 (by simpa [FieldValue.isQuoted] using hq) s
  | .constant sql => by
    intro h _ hq _
    rw [FieldValue.isRegular, Bool.and_eq_true] at h
    rw [masked, texts]
    exact tokens_constant_alike hs h.1 (by simpa [FieldValue.isQuoted] using hq) sql
  | .identifier id => by
    intro h _ hq hids
    have hk : spec.kind = .identifier := by simpa [FieldValue.isRegular] using h
    have hid := isValid_of_allValid hids
    rw [masked, texts, tokens_identifier hs hk hid,
      tokens_identifier hs hk (Identifier.isValid_masked.trans hid)]
    exact allAlike_lead_append hs (Identifier.alike_qualifiedName hq)
  | .absent => by
    intro h hk _ _
    rw [masked, texts, tokens_absent hs hk h]
    exact .nil
  | .present v => by
    intro h hk hq hids
    rw [masked, texts]
    exact tokens_alike hs v h hk hq hids
  | .many vs => by
    intro h _ hq hids
    simp only [FieldValue.isRegular, Bool.and_eq_true, beq_iff_eq] at h
    obtain ⟨⟨hk, -⟩, hvs⟩ := h
    rw [masked, texts]
    exact tokens_many_alike hs (FieldSpec.takesText_iff.mpr (Or.inl hk))
      (elements_alike spec vs hvs hq hids)
  | .clause fields => by
    intro h _ hq hids
    rw [FieldValue.isRegular, Bool.and_eq_true] at h
    rw [masked, texts]
    exact tokens_clause_alike hs h.1 h.2 hids (fields_alike fields h.2 hq hids)
  | .unit | .float _ | .fragment _ => by
    intro h _ _ _
    exact absurd h (by simp [FieldValue.isRegular])

theorem elements_alike (spec : FieldSpec) : (vs : List FieldValue) → elementsRegular vs = true →
    elementsQuoted spec vs = true → AllValid (elementIdentifiers vs) →
    ElementsAlike spec vs
  | [] => fun _ _ _ => ⟨[], [], [], [], rfl, rfl, rfl, rfl, by simp, .nil⟩
  | v :: rest => by
    intro h hq hids
    rw [elementsRegular, Bool.and_eq_true] at h
    rw [elementsQuoted, Bool.and_eq_true] at hq
    rw [elementIdentifiers, allValid_append] at hids
    obtain ⟨x, x', t, u, hx, hx', ht, hu, halike⟩ := element_alike spec v h.1 hq.1 hids.1
    obtain ⟨items, items', ts, us, hitems, hitems', hts, hus, _, hall⟩ :=
      elements_alike spec rest h.2 hq.2 hids.2
    refine ⟨x :: items, x' :: items', t :: ts, u :: us, toFragments_cons hx hitems,
      toFragments_cons hx' hitems', ?_, ?_, by simp, .cons halike hall⟩
    · rw [FieldSpec.elementTexts, ht, hts]; rfl
    · rw [FieldSpec.elementTexts, hu, hus]; rfl

theorem element_alike (spec : FieldSpec) : (v : FieldValue) → v.isRegularElement = true →
    v.isQuoted spec = true → AllValid v.identifiers →
    ∃ x x' t u, v.toFragment = .ok x ∧ v.masked.toFragment = .ok x' ∧
      spec.elementText x = .ok (some t) ∧ spec.elementText x' = .ok (some u) ∧
      Text.Alike t u v.texts
  | .identifier id => by
    intro _ hq hids
    have hid := isValid_of_allValid hids
    have hid' : id.masked.isValid = true := Identifier.isValid_masked.trans hid
    rw [masked, texts]
    refine ⟨_, _, _, _, toFragment_identifier hid, toFragment_identifier hid', rfl, rfl, ?_⟩
    exact Identifier.alike_qualifiedName hq
  | .clause fields => by
    intro h hq hids
    rw [isRegularElement, Bool.and_eq_true] at h
    have hids' : AllValid (fieldIdentifiers (maskedFields fields)) := by
      rw [fieldIdentifiers_masked]
      exact allValid_masked hids
    have hn' : isNamed (maskedFields fields) = true := isNamed_masked.trans h.1
    have hf' : fieldsRegular (maskedFields fields) = true := (fieldsRegular_masked fields).trans h.2
    have hv := toFragment_clause (succeed_of_isRegular fields h.2 hids)
    have hv' := toFragment_clause (succeed_of_isRegular (maskedFields fields) hf' hids')
    rw [if_pos (isSet_of_isNamed h.1 h.2 hids)] at hv
    rw [if_pos (isSet_of_isNamed hn' hf' hids')] at hv'
    have hne := tokens_ne_nil_of_isNamed h.1 h.2 hids
    refine ⟨_, _, _, _, hv, by rw [masked]; exact hv', elementText_clause hne,
      elementText_clause (tokens_ne_nil_of_isNamed hn' hf' hids'), ?_⟩
    rw [texts]
    exact (fields_alike fields h.2 hq hids).intercalate_alike (by decide) (by decide) hne
  | .unit | .flag _ | .int _ | .float _ | .text _ | .constant _ | .absent | .present _ | .many _
  | .fragment _ => by
    intro h _ _
    exact absurd h (by simp [isRegularElement])

theorem fields_alike : (fields : List Field) → fieldsRegular fields = true →
    fieldsQuoted fields = true → AllValid (fieldIdentifiers fields) →
    Text.AllAlike (fields.flatMap Field.tokens) ((maskedFields fields).flatMap Field.tokens)
      (textsOfFields fields)
  | [] => fun _ _ _ => .nil
  | (spec, v) :: rest => by
    intro h hq hids
    simp only [fieldsRegular, Bool.and_eq_true, Bool.or_eq_true, beq_iff_eq] at h
    simp only [fieldsQuoted, Bool.and_eq_true, Bool.or_eq_true, beq_iff_eq] at hq
    rw [fieldIdentifiers, allValid_append] at hids
    rw [maskedFields, textsOfFields, List.flatMap_cons, List.flatMap_cons]
    refine .append ?_ (fields_alike rest h.2 hq.2 hids.2)
    obtain ⟨⟨hs, hv⟩, _⟩ := h
    by_cases hk : spec.kind = .static
    · rw [if_neg (by simp [hk])]
      exact tokens_static_masked hs hk
    · have htexts : (if spec.kind != .static && v.isSet then v.texts else []) = v.texts := by
        cases hset : v.isSet with
        | true => rw [if_pos (by simp [hk])]
        | false => rw [if_neg (by simp), texts_of_not_isSet hids.1 hset]
      rw [htexts]
      exact tokens_alike hs v (hv.resolve_left hk) hk (hq.1.resolve_left hk) hids.1

end

/-- **The statement of quoted fields and that of their masks have the same outline**, and the texts of
the fields are what the former quotes. -/
theorem statement_sameOutline {fields : List Field} (hf : fieldsRegular fields = true)
    (hq : fieldsQuoted fields = true) (hids : AllValid (fieldIdentifiers fields)) :
    Text.SameOutline (statement (fields.flatMap Field.tokens))
      (statement ((maskedFields fields).flatMap Field.tokens)) (textsOfFields fields) :=
  (fields_alike fields hf hq hids).intercalate (by decide) (by decide)

end WarehouseAdmin
