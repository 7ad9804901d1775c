import SqlTree.Decimal.Binary64

/-!
# Reading double-precision numbers

A number is written with an optional sign, digits on at least one side of an optional point, and an
optional exponent; infinity and the failed computation are written as words.
-/

namespace SqlTree.Decimal

namespace Binary64

/-- A failed computation. -/
def notANumber : Binary64 := ⟨0x7FF8000000000000⟩

/-- The exponent that a text writes as a whole, where no text is none. -/
def exponentOf? : List Char → Option Int
  | [] => some 0
  | mark :: sign :: digits =>
    if mark ≠ 'e' ∧ mark ≠ 'E' then none
    else if sign = '-' then if isNumeral digits then some (-numeralValue digits) else none
    else if sign = '+' then if isNumeral digits then some (numeralValue digits) else none
    else if isNumeral (sign :: digits) then some (numeralValue (sign :: digits)) else none
  | [_] => none

/-- The number that a text without a sign writes as a whole. -/
def ofUnsignedText? (text : List Char) : Option Binary64 :=
  let word := String.ofList (text.map Char.toLower)
  if word = "inf" ∨ word = "infinity" then some infinity
  else if word = "nan" then some notANumber
  else
    let (whole, rest) := splitDigits text
    let (decimals, rest) :=
      match rest with
      | '.' :: rest => splitDigits rest
      | rest => ([], rest)
    if whole.isEmpty && decimals.isEmpty then none
    else
      (exponentOf? rest).map fun exponent =>
        ofDecimal (numeralValue (whole ++ decimals)) (exponent - decimals.length)

/-- The number that a text writes as a whole. -/
def ofText? : List Char → Option Binary64
  | '-' :: text => (ofUnsignedText? text).map negate
  | '+' :: text => ofUnsignedText? text
  | text => ofUnsignedText? text

end Binary64

end SqlTree.Decimal
