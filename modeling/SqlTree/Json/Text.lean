import SqlTree.Decimal.Layout
import SqlTree.Json.Value

/-!
# Writing JSON

Values are written on one line without blanks, or over several lines with an indentation of two
blanks. Strings escape quotes, backslashes and control characters only.
-/

namespace SqlTree.Json

open Decimal

/-- Numbers are positional for decimal exponents from -5 to 15, where whole ones keep a decimal. -/
def numberLayout : Layout where
  positional := some (-5, 15)
  wholeMark := ".0"
  tie := .even

/-- The text of a number; one that is not finite has none and is null. -/
def numberText (number : Binary64) : String :=
  (numberLayout.finiteText? number).getD "null"

/-- A character between the quotes of a string. -/
def escape (character : Char) : List Char :=
  if character = '\x22' then ['\\', '\x22']
  else if character = '\\' then ['\\', '\\']
  else if character = '\x08' then ['\\', 'b']
  else if character = '\x09' then ['\\', 't']
  else if character = '\x0a' then ['\\', 'n']
  else if character = '\x0c' then ['\\', 'f']
  else if character = '\x0d' then ['\\', 'r']
  else if character.toNat < 0x20 then
    let code := character.toNat
    ['\\', 'u', '0', '0', Nat.digitChar (code / 16), Nat.digitChar (code % 16)]
  else [character]

/-- A string in quotes. -/
def quoted (value : String) : String :=
  "\"" ++ String.ofList (value.toList.flatMap escape) ++ "\""

mutual

/-- A value on one line. -/
def compact : Json → String
  | .null => "null"
  | .bool value => if value then "true" else "false"
  | .integer value => Int.repr value
  | .number value => numberText value
  | .string value => quoted value
  | .array items => "[" ++ ",".intercalate (compactItems items) ++ "]"
  | .object members => "\x7b" ++ ",".intercalate (compactMembers members) ++ "\x7d"

/-- Items on one line each. -/
def compactItems : List Json → List String
  | [] => []
  | item :: items => compact item :: compactItems items

/-- Members on one line each. -/
def compactMembers : List (String × Json) → List String
  | [] => []
  | (name, value) :: members => (quoted name ++ ":" ++ compact value) :: compactMembers members

end

/-- The start of a line at a level of indentation. -/
def newLine (level : Nat) : String :=
  String.ofList ('\n' :: List.replicate (2 * level) ' ')

/-- Parts over several lines between brackets; nothing between them where there are no parts. -/
def block (opening closing : String) (level : Nat) (parts : List String) : String :=
  if parts.isEmpty then opening ++ closing
  else
    opening ++ newLine (level + 1) ++ ("," ++ newLine (level + 1)).intercalate parts
      ++ newLine level ++ closing

mutual

/-- A value over several lines, at a level of indentation. -/
def prettyAt (level : Nat) : Json → String
  | .array items => block "[" "]" level (prettyItems (level + 1) items)
  | .object members => block "\x7b" "\x7d" level (prettyMembers (level + 1) members)
  | .null => compact .null
  | .bool value => compact (.bool value)
  | .integer value => compact (.integer value)
  | .number value => compact (.number value)
  | .string value => compact (.string value)

/-- Items over several lines, at a level of indentation. -/
def prettyItems (level : Nat) : List Json → List String
  | [] => []
  | item :: items => prettyAt level item :: prettyItems level items

/-- Members over several lines, at a level of indentation. -/
def prettyMembers (level : Nat) : List (String × Json) → List String
  | [] => []
  | (name, value) :: members =>
    (quoted name ++ ": " ++ prettyAt level value) :: prettyMembers level members

end

/-- A value over several lines. -/
def pretty (value : Json) : String := prettyAt 0 value

end SqlTree.Json
