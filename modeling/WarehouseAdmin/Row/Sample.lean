import WarehouseAdmin.Row.Decode

/-!
# Sample rows

Rows about made-up kinds of objects, with a column under another name than its field and with
columns of most types.
-/

set_option autoImplicit false

namespace WarehouseAdmin.Sample

structure ThingRow where
  name : String
  suspendAfter : Option Int := none
  isDefault : Bool
  comment : Option String := none
deriving DecidableEq, Repr

instance : OfRow ThingRow where
  ofRow r := do
    let name ← r.decode String "name"
    let suspendAfter ← r.decode? Int "auto_suspend"
    let isDefault ← r.decode Bool "is_default"
    let comment ← r.decode? String "comment"
    return { name, suspendAfter, isDefault, comment }

structure ItemRow where
  name : String
  quantity : Int
  price : Option Float := none
  note : Option String := none
deriving Repr

instance : OfRow ItemRow where
  ofRow r := do
    let name ← r.decode String "name"
    let quantity ← r.decode Int "qty"
    let price ← r.decode? Float "price"
    let note ← r.decode? String "note"
    return { name, quantity, price, note }

end WarehouseAdmin.Sample
