import SqlTree.Decimal.Shortest

/-!
# Layouts of decimals

A layout says when a decimal is written positionally and when with an exponent, and how a whole
number is marked.
-/

namespace SqlTree.Decimal

/-- The decisions of one number format. -/
structure Layout where
  /-- The least and the greatest decimal exponent that is written positionally; all are where there
  is no bound. -/
  positional : Option (Int × Int)
  /-- What follows a whole number that is written positionally. -/
  wholeMark : String
  /-- Which of two equally near decimals is written. -/
  tie : TieRule

namespace Layout

/-- Digits with a point after `places` of them, filled up with zeros on either side. -/
def point (layout : Layout) (digits : List Char) (places : Int) : String :=
  if places ≤ 0 then
    "0." ++ String.ofList (List.replicate (-places).toNat '0' ++ digits)
  else if digits.length ≤ places.toNat then
    String.ofList (digits ++ List.replicate (places.toNat - digits.length) '0') ++ layout.wholeMark
  else
    String.ofList (digits.take places.toNat) ++ "." ++ String.ofList (digits.drop places.toNat)

/-- Digits with a point after the first, and an exponent with its sign. -/
def scientific (digits : List Char) (exponent : Int) : String :=
  let fraction := if digits.length ≤ 1 then "" else "." ++ String.ofList (digits.drop 1)
  let sign := if exponent < 0 then "-" else "+"
  String.ofList (digits.take 1) ++ fraction ++ "e" ++ sign ++ Nat.repr exponent.natAbs

/-- The text of a decimal. -/
def scaledText (layout : Layout) (scaled : Scaled) : String :=
  let digits := Nat.toDigits 10 scaled.digits
  let places : Int := if scaled.digits = 0 then 1 else digits.length + scaled.exponent
  match layout.positional with
  | none => layout.point digits places
  | some (least, greatest) =>
    if least ≤ places - 1 ∧ places - 1 ≤ greatest then layout.point digits places
    else scientific digits (places - 1)

/-- The text of a finite number without its sign; nothing for the others. -/
def magnitudeText? (layout : Layout) (number : Binary64) : Option String :=
  match number.magnitude with
  | .finite significand exponent =>
    some (layout.scaledText (shortest layout.tie significand exponent))
  | _ => none

/-- The text of a finite number; nothing for the others. -/
def finiteText? (layout : Layout) (number : Binary64) : Option String :=
  (layout.magnitudeText? number).map fun text => if number.isNegative then "-" ++ text else text

end Layout

end SqlTree.Decimal
