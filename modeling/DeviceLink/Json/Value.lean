-- JSON values. The members of an object are kept in rising order of their names, each name
-- once, so that equal objects are equal values.
import DeviceLink.Decimal.Binary64

namespace DeviceLink

/-- A JSON value. A number without fraction and exponent is whole when 64 bits hold it. -/
inductive Json
  | null
  | bool (b : Bool)
  | whole (i : Int)
  | float (x : Decimal.Binary64)
  | string (s : String)
  | array (items : List Json)
  | object (members : List (String × Json))
deriving Repr, Inhabited

namespace Json

/-- Puts a member in its place; a member of the same name gives way. -/
def insertMember (name : String) (value : Json) :
    List (String × Json) → List (String × Json)
  | [] => [(name, value)]
  | (n, v) :: rest =>
    if name = n then (name, value) :: rest
    else if name < n then (name, value) :: (n, v) :: rest
    else (n, v) :: insertMember name value rest

/-- The object with these members, of which the last of a name stands. -/
def ofMembers (members : List (String × Json)) : Json :=
  .object (members.foldl (fun ms m => insertMember m.1 m.2 ms) [])

/-- The member of an object with a given name. -/
def member? (name : String) : Json → Option Json
  | .object members => members.lookup name
  | _ => none

end Json

end DeviceLink
