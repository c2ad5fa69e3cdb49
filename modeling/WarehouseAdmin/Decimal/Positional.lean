import WarehouseAdmin.Decimal.Shortest

/-!
# Floating-point numbers in positional notation

A number is written with the fewest digits that read back to it, always positionally and never with
an exponent: no point when it is whole, a leading zero when it is below one. Negative zero keeps its
sign.
-/

set_option autoImplicit false

namespace WarehouseAdmin.Decimal

/-- Writes `digits * 10 ^ exponent` positionally. -/
def Scaled.positional (d : Scaled) : String :=
  let digits := Nat.toDigits 10 d.digits
  if 0 ≤ d.exponent then String.ofList (digits ++ List.replicate d.exponent.toNat '0')
  else
    let places := (-d.exponent).toNat
    let filled := List.replicate (places + 1 - digits.length) '0' ++ digits
    let whole := filled.length - places
    String.ofList (filled.take whole ++ '.' :: filled.drop whole)

/-- Puts a minus sign before the text of a negative number. -/
def signed (negative : Bool) (text : String) : String := if negative then "-" ++ text else text

def Parts.text : Parts → String
  | .notANumber => "NaN"
  | .infinite negative => signed negative "inf"
  | .zero negative => signed negative "0"
  | .finite negative m q thin =>
    signed negative (Neighbourhood.ofBinary m q thin).shortest.positional

def ofFloat (x : Float) : String := (Parts.ofBits x.toBits).text

example : Scaled.positional ⟨25, -1⟩ = "2.5" ∧ Scaled.positional ⟨1, 3⟩ = "1000" ∧
    Scaled.positional ⟨5, -3⟩ = "0.005" := by decide

end WarehouseAdmin.Decimal
