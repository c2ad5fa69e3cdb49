import WarehouseAdmin.Text.Letters
import WarehouseAdmin.Time.Instant

/-!
# Rows of a result

A row is a list of named cells in the order in which they came. A column is looked up without regard
to the case of ASCII letters; if two columns bear one name, the first is meant.
-/

set_option autoImplicit false

namespace WarehouseAdmin

open Time

inductive Cell where
  | null
  | bool (b : Bool)
  | int (n : Int)
  | float (x : Float)
  | text (s : String)
  | timestamp (t : Instant)
deriving Repr, Inhabited, DecidableEq

def Cell.typeName : Cell → String
  | .null => "NULL"
  | .bool _ => "BOOLEAN"
  | .int _ => "INTEGER"
  | .float _ => "FLOAT"
  | .text _ => "TEXT"
  | .timestamp _ => "TIMESTAMP"

structure Row where
  cells : List (String × Cell) := []
deriving Repr, Inhabited, DecidableEq

namespace Row

def push (r : Row) (column : String) (cell : Cell) : Row := ⟨r.cells ++ [(column, cell)]⟩

/-- The cell of a column, if there is such a column. -/
def get? (r : Row) (column : String) : Option Cell :=
  (r.cells.find? fun c => Text.sameLetters c.1 column).map (·.2)

def columns (r : Row) : List String := r.cells.map (·.1)

def size (r : Row) : Nat := r.cells.length

end Row

inductive ScanError where
  | missingColumn (column : String)
  | unexpectedNull (column : String)
  | typeMismatch (column expected found : String)
deriving DecidableEq, Repr

def ScanError.message : ScanError → String
  | .missingColumn column => "column `" ++ column ++ "` is missing from the result set"
  | .unexpectedNull column => "column `" ++ column ++ "` is NULL but the field is not nullable"
  | .typeMismatch column expected found =>
    "column `" ++ column ++ "` holds " ++ found ++ ", expected " ++ expected

end WarehouseAdmin
