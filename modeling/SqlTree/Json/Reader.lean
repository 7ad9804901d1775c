import SqlTree.Json.Number

/-!
# Reading JSON

A text is one value with blanks around it. Strings hold no control characters, and their escapes
make whole characters only. Arrays and objects nest to a fixed depth.
-/

namespace SqlTree.Json

open Decimal

/-- A reader of a value at the start of a text, with the rest. -/
abbrev Reading (α : Type) := List Char → Option (α × List Char)

/-- Whether a character may stand between the parts of a value. -/
def isSpace (character : Char) : Bool :=
  character == ' ' || character == '\n' || character == '\t' || character == '\r'

/-- Drops the blanks at the start of a text. -/
def skipSpaces (text : List Char) : List Char := text.dropWhile isSpace

/-- Reads a word that has to come next. -/
def word {α : Type} (letters : List Char) (value : α) : Reading α := fun text =>
  if letters.isPrefixOf text then some (value, text.drop letters.length) else none

/-- The digits at the start of a text, at least one. -/
def digits : Reading (List Char) := fun text =>
  match splitDigits text with
  | ([], _) => none
  | (taken, rest) => some (taken, rest)

/-- The whole part of a number, which has no leading zero unless it is zero. -/
def wholePart : Reading (List Char) := fun text => do
  let (taken, rest) ← digits text
  if taken.head? = some '0' ∧ taken.length ≠ 1 then none else return (taken, rest)

/-- The fraction of a number, if it has one. -/
def fractionPart : Reading (Option (List Char))
  | '.' :: rest => do
    let (taken, rest) ← digits rest
    return (some taken, rest)
  | text => some (none, text)

/-- The sign of an exponent, which is true if negative. -/
def exponentSign : List Char → Bool × List Char
  | '-' :: rest => (true, rest)
  | '+' :: rest => (false, rest)
  | text => (false, text)

/-- The exponent of a number, if it has one. -/
def exponentPart : Reading (Option (Bool × List Char))
  | mark :: rest =>
    if mark = 'e' ∨ mark = 'E' then do
      let (negative, rest) := exponentSign rest
      let (taken, rest) ← digits rest
      return (some (negative, taken), rest)
    else some (none, mark :: rest)
  | [] => some (none, [])

/-- A number behind its sign. -/
def unsignedNumber (negative : Bool) : Reading Json := fun text => do
  let (whole, rest) ← wholePart text
  let (fraction, rest) ← fractionPart rest
  let (exponent, rest) ← exponentPart rest
  let value ← NumberParts.value? { negative, whole, fraction, exponent }
  return (value, rest)

/-- The value of a hexadecimal digit. -/
def hexDigit? (character : Char) : Option Nat :=
  if character.isDigit then some (character.toNat - '0'.toNat)
  else if 'a' ≤ character ∧ character ≤ 'f' then some (character.toNat - 'a'.toNat + 10)
  else if 'A' ≤ character ∧ character ≤ 'F' then some (character.toNat - 'A'.toNat + 10)
  else none

/-- The code unit that four hexadecimal digits write. -/
def codeUnit : Reading Nat
  | a :: b :: c :: d :: rest => do
    let upper := (← hexDigit? a) * 16 + (← hexDigit? b)
    let lower := (← hexDigit? c) * 16 + (← hexDigit? d)
    return (upper * 256 + lower, rest)
  | _ => none

/-- The character that an escape behind `\u` makes: one code unit, or two that make a pair. -/
def unicodeEscape : Reading Char := fun text => do
  let (first, rest) ← codeUnit text
  if 0xD800 ≤ first ∧ first < 0xDC00 then
    match rest with
    | '\\' :: 'u' :: rest =>
      let (second, rest) ← codeUnit rest
      if 0xDC00 ≤ second ∧ second < 0xE000 then
        return (Char.ofNat (0x10000 + (first - 0xD800) * 0x400 + (second - 0xDC00)), rest)
      else none
    | _ => none
  else if 0xDC00 ≤ first ∧ first < 0xE000 then none
  else return (Char.ofNat first, rest)

/-- The character that a one-letter escape makes. -/
def simpleEscape? (letter : Char) : Option Char :=
  if letter = '\x22' ∨ letter = '\\' ∨ letter = '/' then some letter
  else if letter = 'b' then some '\x08'
  else if letter = 'f' then some '\x0c'
  else if letter = 'n' then some '\x0a'
  else if letter = 'r' then some '\x0d'
  else if letter = 't' then some '\x09'
  else none

/-- The next character of a string, written plainly or as an escape. -/
def stringCharacter : Reading Char
  | '\\' :: 'u' :: rest => unicodeEscape rest
  | '\\' :: letter :: rest => do return (← simpleEscape? letter, rest)
  | character :: rest =>
    if character.toNat < 0x20 ∨ character = '\\' then none else some (character, rest)
  | [] => none

/-- A string from behind its opening quote, of at most `fuel` characters. -/
def stringWithin : (fuel : Nat) → Reading (List Char)
  | 0, _ => none
  | _ + 1, '\x22' :: rest => some ([], rest)
  | fuel + 1, text => do
    let (character, rest) ← stringCharacter text
    let (characters, rest) ← stringWithin fuel rest
    return (character :: characters, rest)

/-- A string from behind its opening quote. Each of its characters takes one of the text's. -/
def stringBody : Reading String := fun text => do
  let (characters, rest) ← stringWithin (text.length + 1) text
  return (String.ofList characters, rest)

/-- Items with commas between them up to a closing bracket, at most `fuel` of them. -/
def itemsWithin {α : Type} (closing : Char) (item : Reading α) : (fuel : Nat) → Reading (List α)
  | 0, _ => none
  | fuel + 1, text => do
    let (first, rest) ← item text
    match skipSpaces rest with
    | mark :: rest =>
      if mark = closing then return ([first], rest)
      else if mark = ',' then
        let (others, rest) ← itemsWithin closing item fuel (skipSpaces rest)
        return (first :: others, rest)
      else none
    | [] => none

/-- The items of an array or the members of an object, from behind the opening bracket. -/
def bracketed {α : Type} (closing : Char) (item : Reading α) : Reading (List α) := fun text =>
  match skipSpaces text with
  | mark :: rest =>
    if mark = closing then some ([], rest)
    else itemsWithin closing item (rest.length + 1) (mark :: rest)
  | [] => none

/-- A member of an object. -/
def member (value : Reading Json) : Reading (String × Json)
  | '\x22' :: rest => do
    let (name, rest) ← stringBody rest
    match skipSpaces rest with
    | ':' :: rest =>
      let (value, rest) ← value (skipSpaces rest)
      return ((name, value), rest)
    | _ => none
  | _ => none

/-- A value that does not hold others. -/
def scalar : Reading Json
  | '\x22' :: rest => do
    let (value, rest) ← stringBody rest
    return (.string value, rest)
  | '-' :: rest => unsignedNumber true rest
  | 'n' :: rest => word ['u', 'l', 'l'] .null rest
  | 't' :: rest => word ['r', 'u', 'e'] (.bool true) rest
  | 'f' :: rest => word ['a', 'l', 's', 'e'] (.bool false) rest
  | text => unsignedNumber false text

/-- A value with at most so many levels of arrays and objects. -/
def value : (levels : Nat) → Reading Json
  | 0, text => scalar text
  | levels + 1, '[' :: rest => do
    let (items, rest) ← bracketed ']' (value levels) rest
    return (.array items, rest)
  | levels + 1, '\x7b' :: rest => do
    let (members, rest) ← bracketed '\x7d' (member (value levels)) rest
    return (.object members, rest)
  | _ + 1, text => scalar text

/-- How deep arrays and objects may nest. -/
def maximalDepth : Nat := 127

/-- The value that a text writes. -/
def ofText? (text : String) : Option Json := do
  let (value, rest) ← value maximalDepth (skipSpaces text.toList)
  if (skipSpaces rest).isEmpty then return value else none

end SqlTree.Json
