import StatusRouter.KeyMap
import StatusRouter.Number.Binary64

/-!
# JSON values

Values as they are exchanged with the cluster.  Integers and floating-point numbers are kept apart,
because a field that asks for an integer refuses `1.0`.
-/

namespace StatusRouter

/-- A JSON value.  The members of an object stand in the order in which they are visited. -/
inductive Json where
  | null
  | bool (value : Bool)
  | int (value : Int)
  | float (value : Binary64)
  | string (text : String)
  | array (items : List Json)
  | object (members : List (String × Json))
  deriving Inhabited

namespace Json

/-- The value of a member of an object; nothing for any other value. -/
def get? (key : String) : Json → Option Json
  | object members => members.lookup key
  | _ => none

/-- An array of texts. -/
def strings (texts : List String) : Json :=
  array (texts.map string)

/-- The object with the given members, in ascending order of their keys; the last of several
members with one key counts. -/
def ofMembers (members : List (String × Json)) : Json :=
  object (KeyMap.ofList members).entries

/-- The text of an optional text, or null. -/
def ofOption {α : Type} (encode : α → Json) : Option α → Json
  | none => null
  | some value => encode value

end Json

end StatusRouter
