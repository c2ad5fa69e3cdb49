import WarehouseAdmin.Text.Number
import WarehouseAdmin.Decimal.Power

/-!
# Spans of time

A span is a whole number of nanoseconds. It is written in the largest of the units `s`, `ms`, `µs`
and `ns` of which it holds at least one, with the fraction that is left and no trailing zeros.
-/

set_option autoImplicit false

namespace WarehouseAdmin.Time

open Decimal

structure Span where
  nanos : Nat
deriving DecidableEq, Repr, Inhabited

def Span.ofMillis (ms : Nat) : Span := ⟨ms * 1000000⟩

def Span.ofSeconds (s : Nat) : Span := ⟨s * 1000000000⟩

/-- The text of a fraction of `width` digits after the point: nothing if it is zero. -/
def fractionText (width fraction : Nat) : String :=
  if fraction = 0 then ""
  else
    let digits := (Text.padded width fraction).toList
    String.ofList ('.' :: (digits.reverse.dropWhile (· == '0')).reverse)

/-- Writes a span in units of `10 ^ places` nanoseconds. -/
def Span.inUnit (t : Span) (places : Nat) (unit : String) : String :=
  toString (t.nanos / tenTo places) ++ fractionText places (t.nanos % tenTo places) ++ unit

def Span.text (t : Span) : String :=
  if tenTo 9 ≤ t.nanos then t.inUnit 9 "s"
  else if tenTo 6 ≤ t.nanos then t.inUnit 6 "ms"
  else if tenTo 3 ≤ t.nanos then t.inUnit 3 "µs"
  else t.inUnit 0 "ns"

example : (Span.mk 1500000000).text = "1.5s" ∧ (Span.mk 0).text = "0ns" ∧
    (Span.mk 2500000).text = "2.5ms" := by decide

end WarehouseAdmin.Time
