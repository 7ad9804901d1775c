import SqlTree.Decimal.Binary64

/-!
# JSON values

Numbers without a fraction and an exponent are integers, and all others are double-precision
numbers. Objects keep the order of their members.
-/

namespace SqlTree

open Decimal

/-- A JSON value. -/
inductive Json where
  | null
  | bool (value : Bool)
  | integer (value : Int)
  | number (value : Binary64)
  | string (value : String)
  | array (items : List Json)
  | object (members : List (String × Json))

namespace Json

/-- A member of an object, if its value is there. -/
def member? (name : String) (value : Option Json) : List (String × Json) :=
  match value with
  | some value => [(name, value)]
  | none => []

/-- A member of an object that is there only if it is true. -/
def flag (name : String) (value : Bool) : List (String × Json) :=
  if value then [(name, .bool true)] else []

/-- A member of an object that is there only if its list has items. -/
def items? (name : String) (items : List Json) : List (String × Json) :=
  if items.isEmpty then [] else [(name, .array items)]

/-- The value of the first member of an object that has a name. -/
def find? (name : String) : Json → Option Json
  | .object members => (members.find? fun entry => entry.1 == name).map Prod.snd
  | _ => none

mutual

/-- How many levels of arrays and objects lie above the deepest value. -/
def depth : Json → Nat
  | .array items => itemsDepth items + 1
  | .object members => membersDepth members + 1
  | _ => 0

/-- The greatest depth among items. -/
def itemsDepth : List Json → Nat
  | [] => 0
  | item :: items => max item.depth (itemsDepth items)

/-- The greatest depth among members. -/
def membersDepth : List (String × Json) → Nat
  | [] => 0
  | (_, value) :: members => max value.depth (membersDepth members)

end

end Json

end SqlTree
