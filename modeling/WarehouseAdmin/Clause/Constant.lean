import WarehouseAdmin.Text.Blank
import WarehouseAdmin.Text.Letters
import WarehouseAdmin.Clause.Value

/-!
# Constants

A constant has one spelling in statements and may have other names. It is read without regard to
case, hyphens, underscores and blanks.
-/

set_option autoImplicit false

namespace WarehouseAdmin

/-- The form in which spellings of constants are compared. -/
def normalizeConstant (s : String) : String :=
  Text.upper (String.ofList (s.toList.filter fun c => c != '-' && c != '_' && c != ' '))

class Constant (α : Type) where
  family : String
  all : List α
  sql : α → String
  /-- Other names under which the constant is read. -/
  otherNames : α → List String := fun _ => []

/-- A text that spells no constant of its family. -/
structure UnknownConstant where
  family : String
  value : String
deriving DecidableEq, Repr

def UnknownConstant.message (e : UnknownConstant) : String :=
  "unknown " ++ e.family ++ " value `" ++ e.value ++ "`"

namespace Constant

variable {α : Type} [Constant α]

/-- Says whether a spelling in its compared form stands for the constant. -/
def isSpelledAs (normalized : String) (a : α) : Bool :=
  (sql a :: otherNames a).any fun name => normalizeConstant name == normalized

/-- The first constant that the text spells. -/
def read (s : String) : Except UnknownConstant α :=
  let normalized := normalizeConstant (Text.trim s)
  match (all : List α).find? (isSpelledAs normalized) with
  | some a => .ok a
  | none => .error ⟨family α, s⟩

def read? (s : String) : Option α := (read s).toOption

end Constant

instance {α : Type} [Constant α] : ToFieldValue α := ⟨fun a => .constant (Constant.sql a)⟩

end WarehouseAdmin
