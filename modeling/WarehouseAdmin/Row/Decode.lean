import WarehouseAdmin.Text.Number
import WarehouseAdmin.Decimal.Positional
import WarehouseAdmin.Decimal.Reader
import WarehouseAdmin.Time.Timestamp
import WarehouseAdmin.Row.Basic

/-!
# Decoding cells

Servers deliver values typed or as text, so a cell is decoded by what it denotes: a number may come
as text, and a flag as text or as a number. An optional value is absent when its column is missing
or null.
-/

set_option autoImplicit false

namespace WarehouseAdmin

open Time

/-- Types into which a cell can be decoded. -/
class CellDecode (α : Type) where
  /-- The name of the type in messages. -/
  expected : String
  /-- What a cell that is not null denotes. -/
  ofCell? : Cell → Option α

/-- The flags spelled by texts. -/
def flagOfText? (s : String) : Option Bool :=
  let word := Text.lower (Text.trim s)
  if ["true", "y", "yes", "on", "1"].contains word then some true
  else if ["false", "n", "no", "off", "0"].contains word then some false
  else none

/-- Every value has a text. -/
def textOfCell? : Cell → Option String
  | .null => none
  | .bool b => some (if b then "true" else "false")
  | .int n => some (toString n)
  | .float x => some (Decimal.ofFloat x)
  | .text s => some s
  | .timestamp t => some t.text

/-- Integers are read from text as well. -/
def intOfCell? : Cell → Option Int
  | .int n => some n
  | .text s => Text.readInt64 (Text.trim s)
  | _ => none

/-- Floating-point numbers are read from integers and text as well. -/
def floatOfCell? : Cell → Option Float
  | .float x => some x
  | .int n => some (Float.ofInt n)
  | .text s => Decimal.readFloat (Text.trim s)
  | _ => none

/-- Flags are read from numbers, where zero does not hold, and from text as well. -/
def flagOfCell? : Cell → Option Bool
  | .bool b => some b
  | .int n => some (n != 0)
  | .text s => flagOfText? s
  | _ => none

/-- Instants are read from text as well. -/
def instantOfCell? : Cell → Option Instant
  | .timestamp t => some t
  | .text s => Instant.read s
  | _ => none

instance : CellDecode String := ⟨"TEXT", textOfCell?⟩

instance : CellDecode Int := ⟨"INTEGER", intOfCell?⟩

instance : CellDecode Float := ⟨"FLOAT", floatOfCell?⟩

instance : CellDecode Bool := ⟨"BOOLEAN", flagOfCell?⟩

instance : CellDecode Instant := ⟨"TIMESTAMP", instantOfCell?⟩

namespace Row

/-- Decodes a column that must be there and must not be null. -/
def decode (α : Type) [CellDecode α] (r : Row) (column : String) : Except ScanError α :=
  match r.get? column with
  | none => .error (.missingColumn column)
  | some .null => .error (.unexpectedNull column)
  | some cell =>
    match CellDecode.ofCell? cell with
    | some a => .ok a
    | none => .error (.typeMismatch column (CellDecode.expected α) cell.typeName)

/-- Decodes a column that may be missing or null. -/
def decode? (α : Type) [CellDecode α] (r : Row) (column : String) : Except ScanError (Option α) :=
  match r.get? column with
  | none | some .null => .ok none
  | some _ => (r.decode α column).map some

end Row

/-- Things that are read from a row. -/
class OfRow (α : Type) where
  ofRow : Row → Except ScanError α

/-- Reads all rows, or gives the error of the first that cannot be read. -/
def scanAll (α : Type) [OfRow α] : List Row → Except ScanError (List α)
  | [] => .ok []
  | r :: rest =>
    match (OfRow.ofRow r : Except ScanError α) with
    | .error e => .error e
    | .ok a => (scanAll α rest).map (a :: ·)

end WarehouseAdmin
