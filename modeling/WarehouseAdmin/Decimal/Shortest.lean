import WarehouseAdmin.Decimal.Power

/-!
# The shortest decimal that reads back

A finite positive floating-point number is `m * 2 ^ q`. The reals that round to it form an interval
around it; among the decimals in that interval `shortest` takes one with the fewest digits and, of
two such, the one nearer to the number (the larger one if both are equally near). All arithmetic is
exact, on natural numbers.
-/

set_option autoImplicit false

namespace WarehouseAdmin.Decimal

/-- The number `digits * 10 ^ exponent`. -/
structure Scaled where
  digits : Nat
  exponent : Int
deriving DecidableEq, Repr

/-- An interval of positive rationals around a value, all with the denominator `den`. -/
structure Neighbourhood where
  low : Nat
  value : Nat
  high : Nat
  den : Nat
  /-- Whether the two ends belong to the interval. -/
  closed : Bool

/-- The reals that round to `m * 2 ^ q`. They reach half way to the next number on either side;
below a power of two (`thin`) the neighbour is only half as far away. An even `m` wins the ties. -/
def Neighbourhood.ofBinary (m : Nat) (q : Int) (thin : Bool) : Neighbourhood :=
  let scale := twoTo (q - 2).toNat
  { low := (if thin then 4 * m - 1 else 4 * m - 2) * scale
    value := 4 * m * scale
    high := (4 * m + 2) * scale
    den := twoTo (2 - q).toNat
    closed := m % 2 == 0 }

/-- The number of decimal digits of `n`, at least one. -/
def digitCount (n : Nat) : Nat := (Nat.toDigits 10 n).length

/-- The exponent `e` with `10 ^ e ≤ num / den < 10 ^ (e + 1)`. -/
def leadingExponent (num den : Nat) : Int :=
  if den ≤ num then (digitCount (num / den) : Int) - 1 else -(digitCount ((den - 1) / num) : Int)

/-- The point of the grid of multiples of `10 ^ k` that lies in the interval and nearest to its
value, if there is one. -/
def Neighbourhood.onGrid? (n : Neighbourhood) (k : Int) : Option Nat :=
  let up := tenTo (-k).toNat
  let den := n.den * tenTo k.toNat
  let inside (c : Nat) : Bool :=
    if n.closed then n.low * up ≤ c * den && c * den ≤ n.high * up
    else n.low * up < c * den && c * den < n.high * up
  let below := n.value * up / den
  let nearBelow := 2 * (n.value * up) < (2 * below + 1) * den
  match inside below, inside (below + 1) with
  | true, true => some (if nearBelow then below else below + 1)
  | true, false => some below
  | false, true => some (below + 1)
  | false, false => none

/-- Tries ever finer grids, `steps` of them, the first with spacing `10 ^ k`. -/
def Neighbourhood.firstGrid (n : Neighbourhood) (k : Int) : (steps : Nat) → Scaled
  | 0 => { digits := n.value * tenTo (-k).toNat / (n.den * tenTo k.toNat), exponent := k }
  | steps + 1 =>
    match n.onGrid? k with
    | some c => { digits := c, exponent := k }
    | none => n.firstGrid (k - 1) steps

/-- The shortest decimal in the interval. Seventeen digits always suffice for a number of 64 bits. -/
def Neighbourhood.shortest (n : Neighbourhood) : Scaled :=
  n.firstGrid (leadingExponent n.value n.den + 1) 18

/-- A floating-point number, taken apart. -/
inductive Parts where
  | notANumber
  | infinite (negative : Bool)
  | zero (negative : Bool)
  /-- The number `m * 2 ^ q`, with `m` positive; `thin` as in `Neighbourhood.ofBinary`. -/
  | finite (negative : Bool) (m : Nat) (q : Int) (thin : Bool)
deriving DecidableEq, Repr

/-- Takes the 64 bits of a number apart: sign, eleven bits of exponent, 52 bits of fraction. -/
def Parts.ofBits (bits : UInt64) : Parts :=
  let n := bits.toNat
  let negative := n / twoTo 63 == 1
  let exponent : Nat := n / twoTo 52 % twoTo 11
  let fraction : Nat := n % twoTo 52
  if exponent = 2047 then if fraction = 0 then .infinite negative else .notANumber
  else if exponent = 0 then
    if fraction = 0 then .zero negative else .finite negative fraction (-1074) false
  else .finite negative (twoTo 52 + fraction) ((exponent : Int) - 1075) (fraction == 0 && exponent != 1)

example : (Neighbourhood.ofBinary 1 (-1074) false).shortest = ⟨5, -324⟩ := by decide +kernel

end WarehouseAdmin.Decimal
