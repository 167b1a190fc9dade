/-
# JSON values

The values that are written as JSON.  An object keeps its members in order;
numbers keep the precision they come in, because it decides their text.
`inNameOrder` is the value as a name-ordered document: members sorted by name
at every depth, and every number in double precision.
-/
import ControllerLink.Single

set_option autoImplicit false

namespace ControllerLink

/-- A value to be written as JSON. -/
inductive Json where
  | null
  | bool (b : Bool)
  | int (n : Int)
  | single (x : Single)
  | double (bits : UInt64)
  | str (s : String)
  | arr (items : List Json)
  | obj (members : List (String × Json))
deriving Inhabited

namespace Json

/-- Whether the bytes of one text come before those of another; characters in
order of their code points are in the order of their bytes. -/
def nameLe (a b : String) : Bool :=
  !(decide (b < a))

/-- Members sorted by name. -/
def sortMembers (members : List (String × Json)) : List (String × Json) :=
  members.mergeSort fun a b => nameLe a.1 b.1

mutual

/-- The value with the members of every object sorted by name and every number
in double precision. -/
def inNameOrder : Json → Json
  | single x =>
    match binary32.decode x.bits.toNat with
    | .finite .. => double x.toDouble
    | _ => null
  | arr items => arr (itemsInNameOrder items)
  | obj members => obj (sortMembers (membersInNameOrder members))
  | null => null
  | bool b => bool b
  | int n => int n
  | double bits => double bits
  | str s => str s

/-- `inNameOrder` of every item. -/
def itemsInNameOrder : List Json → List Json
  | [] => []
  | item :: items => inNameOrder item :: itemsInNameOrder items

/-- `inNameOrder` of every member's value. -/
def membersInNameOrder : List (String × Json) → List (String × Json)
  | [] => []
  | (name, value) :: members => (name, inNameOrder value) :: membersInNameOrder members

end

end Json

end ControllerLink
