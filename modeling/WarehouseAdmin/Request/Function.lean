import WarehouseAdmin.Request.Parts

/-!
# Requests about functions

A function is dropped, shown and described. Functions that share a name are told apart by their
argument types.
-/

set_option autoImplicit false

namespace WarehouseAdmin

structure DropFunction where
  ifExists : Option Bool := none
  name : FunctionId := {}
deriving Repr, Inhabited, DecidableEq

instance : Clause DropFunction where
  fields r := [
    .fixed "drop" "DROP FUNCTION",
    .keyword "if_exists" "IF EXISTS" r.ifExists,
    .required "name" none r.name]

instance : Validate DropFunction where
  failures r := validId r.name.isValid "DropFunctionOptions" "name"

structure ShowFunctions where
  like : Option Like := none
  within : Option Within := none
deriving Repr, Inhabited, DecidableEq

instance : Clause ShowFunctions where
  fields r := [
    .fixed "show" "SHOW USER FUNCTIONS",
    .keyword "like" "LIKE" r.like,
    .keyword "in_" "IN" r.within]

instance : Validate ShowFunctions := ⟨fun r => nestedOption r.within⟩

/-- Shows what bears the name, as a pattern, in the function's schema. -/
def ShowFunctions.forId (id : FunctionId) : ShowFunctions :=
  { like := some ⟨id.object.name⟩, within := some (.ofSchema id.object.schemaId) }

structure DescribeFunction where
  name : FunctionId := {}
deriving Repr, Inhabited, DecidableEq

instance : Clause DescribeFunction where
  fields r := [
    .fixed "describe" "DESCRIBE FUNCTION",
    .required "name" none r.name]

instance : Validate DescribeFunction where
  failures r := validId r.name.isValid "DescribeFunctionOptions" "name"

end WarehouseAdmin
