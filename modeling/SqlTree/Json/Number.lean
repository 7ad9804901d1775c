import SqlTree.Json.Value

/-!
# JSON numbers

A number is read into a significand of 64 bits and a decimal exponent. Digits that do not fit into
the significand any more are dropped, and the two are then put together by one multiplication or
division of double-precision numbers. A number beyond the finite ones is refused.
-/

namespace SqlTree.Json

open Decimal

/-- The parts of a number as it is written. -/
structure NumberParts where
  negative : Bool
  whole : List Char
  fraction : Option (List Char)
  /-- The sign of the exponent, which is true if negative, and its digits. -/
  exponent : Option (Bool × List Char)
deriving DecidableEq, Repr

/-- Appends digits to a significand as long as it stays within 64 bits, and returns the digits that
are left. -/
def appendDigits : Nat → List Char → Nat × List Char
  | significand, [] => (significand, [])
  | significand, digit :: digits =>
    let next := 10 * significand + (digit.toNat - '0'.toNat)
    if next < 0x10000000000000000 then appendDigits next digits else (significand, digit :: digits)

/-- The least and the greatest exponent that is kept apart from those beyond it. -/
def clampExponent (exponent : Int) : Int :=
  max (-0x80000000) (min 0x7FFFFFFF exponent)

/-- Scales a number by a power of ten, in steps of 308 where the exponent is further down. A number
that vanishes on the way stays zero, and one beyond the finite numbers is refused. -/
def scale : (fuel : Nat) → Binary64 → Int → Option Binary64
  | 0, start, _ => some start
  | fuel + 1, start, exponent =>
    if exponent.natAbs ≤ 308 then
      let power := Binary64.ofDecimal 1 exponent.natAbs
      if 0 ≤ exponent then
        let scaled := start.product power
        if scaled.isFinite then some scaled else none
      else some (start.ratio power)
    else if start = .zero then some start
    else if 0 ≤ exponent then none
    else scale fuel (start.ratio (Binary64.ofDecimal 1 308)) (exponent + 308)

/-- The number that a significand and a decimal exponent make. -/
def scaledNumber (negative : Bool) (significand : Nat) (exponent : Int) : Option Binary64 :=
  (scale 4 (Binary64.ofQuotient significand 1) exponent).map fun scaled =>
    if negative then scaled.negate else scaled

/-- The value of a number with a fraction, an exponent, or more digits than fit into an integer. -/
def NumberParts.scaled (parts : NumberParts) : Option Binary64 :=
  let (significand, dropped) := appendDigits 0 parts.whole
  let decimals := parts.fraction.getD []
  let (significand, droppedDecimals) := appendDigits significand decimals
  let exponent : Int := dropped.length - (decimals.length - droppedDecimals.length : Nat)
  match parts.exponent with
  | none => scaledNumber parts.negative significand exponent
  | some (negativeExponent, digits) =>
    let written : Int := numeralValue digits
    if 0x80000000 ≤ written then
      if significand ≠ 0 ∧ !negativeExponent then none
      else some (if parts.negative then Binary64.zero.negate else .zero)
    else
      scaledNumber parts.negative significand
        (clampExponent (if negativeExponent then exponent - written else exponent + written))

/-- The value of a number. An integer fits into 64 bits, with a sign into 63 and as many negative
ones; any other is a double-precision number, as is the negative zero. -/
def NumberParts.value? (parts : NumberParts) : Option Json :=
  let integer := parts.fraction.isNone && parts.exponent.isNone
  let magnitude := numeralValue parts.whole
  if integer && !parts.negative && magnitude < 0x10000000000000000 then some (.integer magnitude)
  else if integer && parts.negative && 0 < magnitude && magnitude ≤ 0x8000000000000000 then
    some (.integer (-magnitude))
  else parts.scaled.map .number

end SqlTree.Json
