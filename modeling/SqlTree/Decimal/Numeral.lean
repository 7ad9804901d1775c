/-!
# Decimal numerals

Strings of the digits 0 to 9 and the numbers that they write.
-/

namespace SqlTree.Decimal

/-- The number that a string of digits writes, most significant digit first. -/
def numeralValue (digits : List Char) : Nat :=
  digits.foldl (fun value digit => 10 * value + (digit.toNat - '0'.toNat)) 0

/-- Whether a text is a numeral: at least one character, and digits only. -/
def isNumeral (text : List Char) : Bool :=
  !text.isEmpty && text.all Char.isDigit

/-- Splits the digits off the start of a text. -/
def splitDigits (source : List Char) : List Char × List Char :=
  (source.takeWhile Char.isDigit, source.dropWhile Char.isDigit)

/-- A power of two. -/
def powerOfTwo (exponent : Nat) : Nat := Nat.pow 2 exponent

/-- A power of ten. -/
def powerOfTen (exponent : Nat) : Nat := Nat.pow 10 exponent

/-- The number of digits in the numeral of a number. -/
def numeralLength (value : Nat) : Nat :=
  (Nat.toDigits 10 value).length

end SqlTree.Decimal
