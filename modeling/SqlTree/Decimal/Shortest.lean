import SqlTree.Decimal.Binary64

/-!
# Shortest decimals

The text of a finite number has the fewest decimal digits that read back as that number, and of
those digits the nearest to it. The search goes over the decimal grids of 1, 2, up to 17 digits: on
each it tests the two neighbours of the number against the interval of reals that round to it, and
the first grid with a hit wins.
-/

namespace SqlTree.Decimal

/-- The decimal that is `digits` times ten to the power `exponent`. -/
structure Scaled where
  digits : Nat
  exponent : Int
deriving DecidableEq, Repr

/-- Which of two equally near neighbours is taken. -/
inductive TieRule where
  | upper
  | even
deriving DecidableEq, Repr

/-- A positive number with the bounds of the reals that round to it, over a common denominator. -/
structure RoundingInterval where
  lower : Nat
  value : Nat
  upper : Nat
  denominator : Nat
  /-- Whether the bounds themselves round to the number. -/
  closed : Bool
deriving Repr

namespace RoundingInterval

/-- The interval of `significand` times two to the power `exponent`. Its bounds lie halfway to the
neighbours, and the lower neighbour of a power of two is half as far away. -/
def ofSignificand (significand : Nat) (exponent : Int) : RoundingInterval :=
  let below := if significand = Binary64.hiddenBit ∧ exponent ≠ -1074 then 1 else 2
  let unit := if 2 ≤ exponent then powerOfTwo (exponent - 2).toNat else 1
  let denominator := if 2 ≤ exponent then 1 else powerOfTwo (2 - exponent).toNat
  { lower := (4 * significand - below) * unit
    value := 4 * significand * unit
    upper := (4 * significand + 2) * unit
    denominator
    closed := significand % 2 = 0 }

/-- The interval with all its numbers divided by a power of ten. -/
def divided (interval : RoundingInterval) (power : Int) : RoundingInterval :=
  if 0 ≤ power then { interval with denominator := interval.denominator * powerOfTen power.toNat }
  else
    let factor := powerOfTen (-power).toNat
    { interval with
      lower := interval.lower * factor
      value := interval.value * factor
      upper := interval.upper * factor }

/-- Whether a natural number lies in the interval. -/
def holds (interval : RoundingInterval) (point : Nat) : Bool :=
  let scaled := point * interval.denominator
  if interval.closed then interval.lower ≤ scaled && scaled ≤ interval.upper
  else interval.lower < scaled && scaled < interval.upper

/-- The natural number in the interval that is nearest to its value, if there is one. -/
def nearest? (interval : RoundingInterval) (tie : TieRule) : Option Nat :=
  let below := interval.value / interval.denominator
  let above := below + 1
  match interval.holds below, interval.holds above with
  | false, false => none
  | true, false => some below
  | false, true => some above
  | true, true =>
    let twice := 2 * (interval.value % interval.denominator)
    if twice < interval.denominator then some below
    else if interval.denominator < twice then some above
    else
      match tie with
      | .upper => some above
      | .even => if below % 2 = 0 then some below else some above

/-- The exponent of the highest power of ten that the value reaches. -/
def decimalExponent (interval : RoundingInterval) : Int :=
  if interval.denominator ≤ interval.value then
    numeralLength (interval.value / interval.denominator) - 1
  else
    let places := numeralLength (interval.denominator / interval.value)
    if interval.denominator ≤ interval.value * powerOfTen (places - 1) then 1 - places else -places

/-- The first hit on the grids from ten to the power `power` down, `grids` of them; the value cut
off on the last grid if there is none. -/
def search (interval : RoundingInterval) (tie : TieRule) : (grids : Nat) → (power : Int) → Scaled
  | 0, power => ⟨(interval.divided power).value / (interval.divided power).denominator, power⟩
  | grids + 1, power =>
    match (interval.divided power).nearest? tie with
    | some digits => ⟨digits, power⟩
    | none => search interval tie grids (power - 1)

end RoundingInterval

/-- Moves trailing zeros of the digits into the exponent, at most `fuel` of them. -/
def Scaled.withoutZeros : (fuel : Nat) → Scaled → Scaled
  | 0, scaled => scaled
  | fuel + 1, scaled =>
    if scaled.digits ≠ 0 ∧ scaled.digits % 10 = 0 then
      withoutZeros fuel ⟨scaled.digits / 10, scaled.exponent + 1⟩
    else scaled

/-- The shortest decimal that reads back as `significand` times two to the power `exponent`. -/
def shortest (tie : TieRule) (significand : Nat) (exponent : Int) : Scaled :=
  if significand = 0 then ⟨0, 0⟩
  else
    let interval := RoundingInterval.ofSignificand significand exponent
    (interval.search tie 17 interval.decimalExponent).withoutZeros 17

end SqlTree.Decimal
