import WarehouseAdmin.Text.Letters
import WarehouseAdmin.Session.Operation

/-!
# What a server's message means

A server says that an object is missing in words, not in codes, so its message is searched for
phrases, in any case. A phrase that may mean that the object is hidden goes before one that may mean
that the operation does not suit it, wherever in the message they stand.
-/

set_option autoImplicit false

namespace WarehouseAdmin

/-- What the message of a driver error says about the object. -/
inductive Ambiguity where
  | notAuthorized
  | notPossible
deriving DecidableEq, Repr

/-- The phrases of a message, and what they say. -/
def Ambiguity.phrases : Ambiguity → List String
  | .notAuthorized => ["does not exist or not authorized"]
  | .notPossible =>
    ["does not exist or operation cannot be performed",
      "does not exist, or operation cannot be performed"]

/-- Says whether a message holds one of the phrases. -/
def Ambiguity.occursIn (a : Ambiguity) (text : String) : Bool :=
  a.phrases.any (Text.containsFolded text)

/-- What a message says about the object, if anything. -/
def ambiguityOf (text : String) : Option Ambiguity :=
  [Ambiguity.notAuthorized, .notPossible].find? (·.occursIn text)

namespace DriverError

/-- The error that a driver error stands for. -/
def classify (e : DriverError) : Error :=
  match ambiguityOf e.text with
  | some .notAuthorized => .notExistOrNotAuthorized e
  | some .notPossible => .notExistOrNotPossible e
  | none => .driver e

/-- What is logged when a driver error is classified. -/
def events (e : DriverError) : List Event :=
  match ambiguityOf e.text with
  | some .notAuthorized => [.foundNotAuthorized e.message]
  | some .notPossible => [.foundNotPossible e.message]
  | none => []

end DriverError

/-- The kind of error that a message stands for. -/
def classifyMessage (text : String) : ErrorKind := (DriverError.classify { text }).kind

end WarehouseAdmin
