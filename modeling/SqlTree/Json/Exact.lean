import SqlTree.Json.Value

/-!
# Exact numbers in JSON

Readers of JSON often keep 53 bits of a number. In the exact form, what they could lose stands in
an object: an integer beyond 53 bits as its numeral, and a double-precision number as its bits.
-/

namespace SqlTree.Json

open Decimal

/-- The bits of a number as sixteen hexadecimal digits. -/
def bitsText (number : Binary64) : String :=
  let digits := Nat.toDigits 16 number.bits.toNat
  String.ofList (List.replicate (16 - digits.length) '0' ++ digits)

/-- The exact form of an integer. -/
def exactInteger (value : Int) : Json :=
  if value.natAbs < 0x20000000000000 then .integer value
  else .object [("$int", .string (Int.repr value))]

/-- The exact form of a number. -/
def exactNumber (number : Binary64) : Json :=
  .object [("$f64", .string (bitsText number))]

mutual

/-- The exact form of a value. -/
def exact : Json → Json
  | .integer value => exactInteger value
  | .number value => exactNumber value
  | .array items => .array (exactItems items)
  | .object members => .object (exactMembers members)
  | .null => .null
  | .bool value => .bool value
  | .string value => .string value

/-- The exact forms of items. -/
def exactItems : List Json → List Json
  | [] => []
  | item :: items => exact item :: exactItems items

/-- The exact forms of members. -/
def exactMembers : List (String × Json) → List (String × Json)
  | [] => []
  | (name, value) :: members => (name, exact value) :: exactMembers members

end

end SqlTree.Json
