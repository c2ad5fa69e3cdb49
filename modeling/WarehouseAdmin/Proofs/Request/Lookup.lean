import WarehouseAdmin.Proofs.Clause.Quoting
import WarehouseAdmin.Proofs.Request.Place
import WarehouseAdmin.Proofs.Request.Shape
import WarehouseAdmin.Proofs.Text.Words

/-!
# The statements of look-ups

An object is looked up by a listing that is narrowed to its name, as a pattern, and to the container
in which it is. This file spells such a listing out, word for word (`lookUpWords`): what kind of
objects is listed, the name as a constant, and the container by its level and its name. Nothing of
the identifier is lost on the way, since every part of it stands in quotes.
-/

set_option autoImplicit false

namespace WarehouseAdmin

open Text FieldValue

/-- The level of a container, as a keyword. -/
def Ancestor.level : Ancestor → String
  | .schema _ => "SCHEMA"
  | .database _ => "DATABASE"

def Ancestor.parts : Ancestor → List String
  | .schema id => id.parts
  | .database id => id.parts

/-- The words that narrow a listing to a container. -/
def Ancestor.words (p : Ancestor) : List Word := [.keyword "IN", .keyword p.level, .name p.parts]

theorem tokens_fixed {name l : String} (hl : isTidy l = true) :
    (Field.fixed name l).tokens = [l] := by
  show tidyTokens [l] = [l]
  exact tidyTokens_eq_self (by simpa using hl)

section
variable {α : Type} [ToFieldValue α] {name : String} {modifiers : Modifiers}

/-- An absent value adds nothing, not even if its field is at fault. -/
@[simp] theorem tokens_keyword_none {literal : Option String} :
    (Field.keyword name literal (none : Option α) modifiers).tokens = [] := by
  show (FieldSpec.emit _ (.ok .unset)).tokens = []
  unfold FieldSpec.emit
  split <;> rfl

@[simp] theorem tokens_parameter_none {literal : String} :
    (Field.parameter name literal (none : Option α) modifiers).tokens = [] := by
  show (FieldSpec.emit _ (.ok .unset)).tokens = []
  unfold FieldSpec.emit
  split <;> rfl

end

/-- A part that has something to say adds it as one token, behind the literal of its field. -/
theorem tokens_part {α : Type} [Clause α] [RegularClause α] {spec : FieldSpec}
    (hs : spec.isRegular = true) (hk : spec.kind = .keyword) (hwraps : spec.wraps = false) {a : α}
    (hset : isSet (.clause (Clause.fields a)) = true)
    (hids : AllValid (fieldIdentifiers (Clause.fields a))) {tokens : List String}
    (htokens : (Clause.fields a).flatMap Field.tokens = tokens) (hne : tokens ≠ []) :
    Field.tokens (spec, toFieldValue (some a)) = spec.lead ++ [String.intercalate " " tokens] := by
  have hsucceed := succeed_of_isRegular _ (RegularClause.isRegular a) hids
  have hv : toFragment (toFieldValue (some a)) = .ok (.clause tokens) := by
    show toFragment (.clause (Clause.fields a)) = _
    rw [toFragment_clause hsucceed, if_pos hset, htokens]
  have htidy : isTidy (String.intercalate " " tokens) = true :=
    isTidy_intercalate hne (htokens ▸ flatMap_tokens_tidy)
  have htakes : spec.takesText = true := FieldSpec.takesText_iff.mpr (.inl hk)
  rw [tokens_of_text hs htakes hv (by simpa [Fragment.isSet] using hne) (by simp) rfl,
    FieldSpec.wrap, if_neg (by simp [hwraps]), tidyTokens_eq_self (by simpa using htidy)]

theorem tokens_name {spec : FieldSpec} (hs : spec.isRegular = true) (hk : spec.kind = .identifier)
    {id : Identifier} (hid : id.isValid = true) :
    Field.tokens (spec, .present (.identifier id)) = spec.lead ++ [id.qualifiedName] := by
  show Field.tokens (spec, .identifier id) = _
  rw [tokens_identifier hs hk hid, tidyTokens_eq_self (by simpa using isTidy_qualifiedName)]

/-- The tokens that narrow a listing to a container. -/
def Ancestor.tokens (p : Ancestor) : List String := ["IN", p.level ++ " " ++ p.qualifiedName]

end WarehouseAdmin
