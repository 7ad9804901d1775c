import SqlTree.Decimal.Numeral

/-!
# Double-precision numbers

A number is held as the 64 bits of its binary interchange form, so that equality, reading and
printing are computed exactly on natural numbers. Rounding is to the nearest number, and a tie goes
to the even significand; what exceeds the largest finite number becomes infinite.
-/

namespace SqlTree.Decimal

/-- A double-precision number, held as its bits. -/
structure Binary64 where
  bits : UInt64
deriving DecidableEq, Repr

/-- What the bits of a number stand for. -/
inductive Magnitude where
  /-- The number `significand` times two to the power `exponent`. -/
  | finite (significand : Nat) (exponent : Int)
  | infinite
  | notANumber
deriving DecidableEq, Repr

namespace Binary64

/-- Whether the sign bit is set. -/
def isNegative (number : Binary64) : Bool :=
  0x8000000000000000 ≤ number.bits.toNat

/-- The highest bit of a full significand, which the bits of a number leave out. -/
def hiddenBit : Nat := 0x10000000000000

/-- The value without its sign. -/
def magnitude (number : Binary64) : Magnitude :=
  let fraction := number.bits.toNat % hiddenBit
  match number.bits.toNat / hiddenBit % 2048 with
  | 0 => .finite fraction (-1074)
  | 2047 => if fraction = 0 then .infinite else .notANumber
  | biased => .finite (fraction + hiddenBit) (biased - 1075)

/-- Whether the number is neither infinite nor a failed computation. -/
def isFinite (number : Binary64) : Bool :=
  match number.magnitude with
  | .finite .. => true
  | _ => false

/-- Positive zero. -/
def zero : Binary64 := ⟨0⟩

/-- Positive infinity. -/
def infinity : Binary64 := ⟨0x7FF0000000000000⟩

/-- The same number with the other sign. -/
def negate (number : Binary64) : Binary64 := ⟨number.bits ^^^ 0x8000000000000000⟩

/-- A quotient rounded to the nearest natural number, where a half goes to the even neighbour. -/
def roundQuotient (numerator denominator : Nat) : Nat :=
  let quotient := numerator / denominator
  let twice := 2 * (numerator % denominator)
  if twice < denominator || (twice = denominator && quotient % 2 = 0) then quotient
  else quotient + 1

/-- The quotient times two to the power `shift`, rounded to a natural number. -/
def roundScaled (numerator denominator : Nat) (shift : Int) : Nat :=
  if 0 ≤ shift then roundQuotient (numerator * powerOfTwo shift.toNat) denominator
  else roundQuotient numerator (denominator * powerOfTwo (-shift).toNat)

/-- The exponent of the highest power of two that a positive quotient reaches. -/
def binaryExponent (numerator denominator : Nat) : Int :=
  let estimate : Int := numerator.log2 - denominator.log2
  let reached :=
    if 0 ≤ estimate then denominator * powerOfTwo estimate.toNat ≤ numerator
    else denominator ≤ numerator * powerOfTwo (-estimate).toNat
  if reached then estimate else estimate - 1

/-- The number nearest to a quotient. The significand has 53 bits, or fewer at the smallest
exponent, and a carry out of it is carried on into the exponent by the addition. -/
def ofQuotient (numerator denominator : Nat) : Binary64 :=
  if numerator = 0 then zero
  else
    let exponent := max (binaryExponent numerator denominator - 52) (-1074)
    let significand := roundScaled numerator denominator (-exponent)
    let bits := (exponent + 1074).toNat * hiddenBit + significand
    if bits < infinity.bits.toNat then ⟨bits.toUInt64⟩ else infinity

/-- The number nearest to `significand` times ten to the power `exponent`. Values far outside the
range of the finite numbers are settled by their order of magnitude alone. -/
def ofDecimal (significand : Nat) (exponent : Int) : Binary64 :=
  if significand = 0 then zero
  else
    let order := numeralLength significand + exponent
    if order > 310 then infinity
    else if order < -330 then zero
    else if 0 ≤ exponent then ofQuotient (significand * powerOfTen exponent.toNat) 1
    else ofQuotient significand (powerOfTen (-exponent).toNat)

/-- The number nearest to an integer. -/
def ofInt (value : Int) : Binary64 :=
  let number := ofQuotient value.natAbs 1
  if value < 0 then number.negate else number

/-- A finite number without its sign as a quotient; other numbers count as zero. -/
def quotient (number : Binary64) : Nat × Nat :=
  match number.magnitude with
  | .finite significand exponent =>
    if 0 ≤ exponent then (significand * powerOfTwo exponent.toNat, 1)
    else (significand, powerOfTwo (-exponent).toNat)
  | _ => (0, 1)

/-- The product of two finite numbers that are not negative, rounded once. -/
def product (left right : Binary64) : Binary64 :=
  let (leftNumerator, leftDenominator) := left.quotient
  let (rightNumerator, rightDenominator) := right.quotient
  ofQuotient (leftNumerator * rightNumerator) (leftDenominator * rightDenominator)

/-- The quotient of two finite numbers that are not negative, rounded once. -/
def ratio (left right : Binary64) : Binary64 :=
  let (leftNumerator, leftDenominator) := left.quotient
  let (rightNumerator, rightDenominator) := right.quotient
  ofQuotient (leftNumerator * rightDenominator) (leftDenominator * rightNumerator)

end Binary64

end SqlTree.Decimal
