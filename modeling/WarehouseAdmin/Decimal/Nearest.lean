import WarehouseAdmin.Decimal.Power

/-!
# The nearest floating-point number

A positive rational is rounded to a number `m * 2 ^ q` in which `m` has a limited number of bits and
`q` is not below a limit. Of two equally near numbers the one with an even `m` is taken. All
arithmetic is exact, on natural numbers.
-/

set_option autoImplicit false

namespace WarehouseAdmin.Decimal

/-- A binary format: the number of bits of `m`, and the least `q`. -/
structure BinaryFormat where
  precision : Nat
  least : Int
deriving DecidableEq, Repr

def binary64 : BinaryFormat := ⟨53, -1074⟩

def binary32 : BinaryFormat := ⟨24, -149⟩

/-- The whole number nearest to `num / den`; a half goes to the even neighbour. -/
def roundQuotient (num den : Nat) : Nat :=
  let below := num / den
  let rest := 2 * (num % den)
  if rest < den ∨ rest = den ∧ below % 2 = 0 then below else below + 1

/-- The exponent `e` with `2 ^ e ≤ num / den < 2 ^ (e + 1)`. -/
def binaryExponent (num den : Nat) : Int :=
  let e : Int := (num.log2 : Int) - den.log2
  if den * twoTo e.toNat ≤ num * twoTo (-e).toNat then e else e - 1

/-- The `m` and `q` of the number nearest to `num / den`. Rounding up can carry `m` to the power of
two behind its bits. There is no greatest number. -/
def BinaryFormat.nearest (f : BinaryFormat) (num den : Nat) : Nat × Int :=
  let q := max (binaryExponent num den + 1 - f.precision) f.least
  (roundQuotient (num * twoTo (-q).toNat) (den * twoTo q.toNat), q)

/-- The 64 bits of infinity, as a number. -/
def infinityBits : Nat := 2047 * twoTo 52

/-- The 64 bits of `m * 2 ^ q`, which is infinite when it is too large. The highest bit of `m` adds
one to the exponent, and a carry out of `m` another. -/
def bitsOf (m : Nat) (q : Int) : UInt64 :=
  UInt64.ofNat (min ((q - binary64.least).toNat * twoTo 52 + m) infinityBits)

/-- The number of 64 bits nearest to `num / den`. -/
def floatOfRatio (num den : Nat) : Float :=
  if num = 0 then 0.0
  else
    let (m, q) := binary64.nearest num den
    Float.ofBits (bitsOf m q)

/-- The number of 32 bits nearest to `num / den`, as a number of 64 bits. It is infinite from
`2 ^ 128` on. -/
def narrowFloatOfRatio (num den : Nat) : Float :=
  if num = 0 then 0.0
  else
    let (m, q) := binary32.nearest num den
    let whole := m * twoTo q.toNat
    if twoTo 128 ≤ whole then Float.ofBits (UInt64.ofNat infinityBits)
    else floatOfRatio whole (twoTo (-q).toNat)

example : binary64.nearest 1 10 = (7205759403792794, -56) := by decide +kernel
example : roundQuotient 5 2 = 2 ∧ roundQuotient 7 2 = 4 := by decide

end WarehouseAdmin.Decimal
