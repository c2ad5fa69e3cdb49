import WarehouseAdmin.Catalog.Basic
import WarehouseAdmin.Catalog.Signature
import WarehouseAdmin.Request.Function

/-!
# Functions as listed

The column `arguments` holds the signature, from which the argument types and the return type are
read. Columns that say nothing about the function's identity are read all the same, so that a row
in which one of them cannot be read is refused.
-/

set_option autoImplicit false

namespace WarehouseAdmin

open Time

/-- The columns of a listed function. -/
structure FunctionRow where
  createdOn : Option Instant := none
  name : String
  schemaName : String
  catalogName : String
  isBuiltin : Option Bool := none
  isAggregate : Option Bool := none
  isAnsi : Option Bool := none
  minNumArguments : Option Int := none
  maxNumArguments : Option Int := none
  arguments : String
  description : Option String := none
  isTableFunction : Option Bool := none
  validForClustering : Option Bool := none
  isSecure : Option Bool := none
  isExternalFunction : Option Bool := none
  language : Option String := none
deriving DecidableEq, Repr

instance : OfRow FunctionRow where
  ofRow r := do
    let createdOn ← r.decode? Instant "created_on"
    let name ← r.decode String "name"
    let schemaName ← r.decode String "schema_name"
    let catalogName ← r.decode String "catalog_name"
    let isBuiltin ← r.decode? Bool "is_builtin"
    let isAggregate ← r.decode? Bool "is_aggregate"
    let isAnsi ← r.decode? Bool "is_ansi"
    let minNumArguments ← r.decode? Int "min_num_arguments"
    let maxNumArguments ← r.decode? Int "max_num_arguments"
    let arguments ← r.decode String "arguments"
    let description ← r.decode? String "description"
    let isTableFunction ← r.decode? Bool "is_table_function"
    let validForClustering ← r.decode? Bool "valid_for_clustering"
    let isSecure ← r.decode? Bool "is_secure"
    let isExternalFunction ← r.decode? Bool "is_external_function"
    let language ← r.decode? String "language"
    return {
      createdOn, name, schemaName, catalogName, isBuiltin, isAggregate, isAnsi, minNumArguments,
      maxNumArguments, arguments, description, isTableFunction, validForClustering, isSecure,
      isExternalFunction, language }

structure Function where
  createdOn : Option Instant := none
  name : String
  schemaName : String
  databaseName : String
  argumentDataTypes : List String := []
  returnType : Option String := none
  arguments : String
  description : Option String := none
  isAggregate : Bool := false
  isTableFunction : Bool := false
  isSecure : Bool := false
  isExternalFunction : Bool := false
  language : Option String := none
deriving DecidableEq, Repr

def Function.ofColumns (row : FunctionRow) : Function :=
  let signature := Signature.read row.arguments
  { createdOn := row.createdOn
    name := row.name
    schemaName := row.schemaName
    databaseName := row.catalogName
    argumentDataTypes := signature.arguments
    returnType := signature.returns
    arguments := row.arguments
    description := nonEmpty row.description
    isAggregate := row.isAggregate.getD false
    isTableFunction := row.isTableFunction.getD false
    isSecure := row.isSecure.getD false
    isExternalFunction := row.isExternalFunction.getD false
    language := nonEmpty row.language }

instance : OfRow Function where
  ofRow r := (OfRow.ofRow r).map Function.ofColumns

instance : Identified Function FunctionId where
  id f := ⟨⟨f.databaseName, f.schemaName, f.name⟩, f.argumentDataTypes⟩
  qualifiedName := FunctionId.qualifiedName

/-- The identifier under which a listing shows a function: its argument types are trimmed and in
capitals. -/
def FunctionId.asListed (id : FunctionId) : FunctionId :=
  { id with arguments := id.arguments.map fun t => Text.upper (Text.trim t) }

end WarehouseAdmin
