import Northbound.Binary64
import Northbound.Dictionary

/-!
# JSON values

A value as the north-bound interface sends and receives them. Integers that fit in 64 bits are
kept apart from floating-point numbers, and an object is the list of its members as written:
a text decodes to objects with sorted keys, while a request body lists its fields in the order
in which it is printed.
-/

namespace Northbound

/-- A JSON value. -/
inductive Json where
  | null
  | bool (b : Bool)
  /-- An integer between `-2 ^ 63` and `2 ^ 64 - 1`. -/
  | int (n : Int)
  /-- Any other number; it is finite. -/
  | float (x : Binary64)
  | text (s : String)
  | list (items : List Json)
  | object (members : List (String × Json))
deriving Repr, Inhabited, BEq

namespace Json

/-- The object with the given members, sorted by key; a key that is repeated keeps its last
value. -/
def ofMembers (members : List (String × Json)) : Json := .object (Dictionary.ofList members)

/-- The value of a member of an object. -/
def member? : Json → String → Option Json
  | .object members, key => members.lookup key
  | _, _ => none

/-- Whether the value is an object. -/
def isObject : Json → Bool
  | .object _ => true
  | _ => false

end Json

end Northbound
