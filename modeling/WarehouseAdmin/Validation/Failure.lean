/-!
# Failed rules

A request is checked against rules before it is sent. Each constructor is a rule that failed, with
the request's name as `request`; `message` words it.
-/

set_option autoImplicit false

namespace WarehouseAdmin

/-- A rule that a request breaks. -/
inductive ValidationFailure where
  | exactlyOneOf (request : String) (fields : List String)
  | atLeastOneOf (request : String) (fields : List String)
  | incompatible (request : String) (fields : List String)
  | notSet (request field : String)
  | noProperty (request : String)
  | clusterCounts (request : String) (min max : Int)
  | waitWithoutSize (request : String)
  | ifSuspendedWithoutResume (request : String)
  | otherDatabase (request : String)
  | limitNotPositive (request : String)
  | unknownProperty (name : String)
  | described (text : String)
deriving DecidableEq, Repr

/-- The names of fields in brackets. -/
def fieldList (fields : List String) : String := "[" ++ String.intercalate " " fields ++ "]"

def ValidationFailure.message : ValidationFailure → String
  | .exactlyOneOf request fields =>
    "exactly one of " ++ request ++ " fields " ++ fieldList fields ++ " must be set"
  | .atLeastOneOf request fields =>
    "at least one of " ++ request ++ " fields " ++ fieldList fields ++ " must be set"
  | .incompatible request fields =>
    request ++ " fields " ++ fieldList fields ++
      " are incompatible and cannot be set at the same time"
  | .notSet request field => request ++ " field `" ++ field ++ "` must be set"
  | .noProperty request => request ++ " needs at least one property"
  | .clusterCounts request min max =>
    request ++ " min_cluster_count (" ++ toString min ++ ") must not exceed max_cluster_count (" ++
      toString max ++ ")"
  | .waitWithoutSize request => request ++ " wait_for_completion needs warehouse_size"
  | .ifSuspendedWithoutResume request => request ++ " if_suspended needs resume"
  | .otherDatabase request => request ++ ".new_name must stay in the same database"
  | .limitNotPositive request => request ++ ".limit must be positive"
  | .unknownProperty name => "unknown warehouse property `" ++ name ++ "`"
  | .described text => text

end WarehouseAdmin
