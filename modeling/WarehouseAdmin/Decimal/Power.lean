/-!
# Powers of ten and two

The scales of decimal and of binary numbers.
-/

set_option autoImplicit false

namespace WarehouseAdmin.Decimal

/-- The number that is written as a one and `n` zeros. -/
def tenTo (n : Nat) : Nat := Nat.pow 10 n

/-- The number whose binary form is a one and `n` zeros. -/
def twoTo (n : Nat) : Nat := Nat.pow 2 n

@[simp]
theorem tenTo_zero : tenTo 0 = 1 := rfl

@[simp]
theorem twoTo_zero : twoTo 0 = 1 := rfl

theorem tenTo_succ (n : Nat) : tenTo (n + 1) = tenTo n * 10 := rfl

theorem twoTo_succ (n : Nat) : twoTo (n + 1) = twoTo n * 2 := rfl

end WarehouseAdmin.Decimal
