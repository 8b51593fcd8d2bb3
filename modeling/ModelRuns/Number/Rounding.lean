import ModelRuns.Number.Shortest

namespace ModelRuns

/-!
# Binary numbers from ratios and decimals

`nearestBinary` rounds a positive ratio to the nearest double, ties to even, in
exact arithmetic.  `BinaryFraction.ofFloat?` is the way back for finite,
nonzero doubles.
-/

/-- The pattern of bits of positive infinity. -/
def infinityBits : Nat := 0x7FF * twoTo 52

/-- Round to the nearest integer, ties to even. -/
def roundHalfEven (numerator denominator : Nat) : Nat :=
  let quotient := numerator / denominator
  let twice := 2 * (numerator % denominator)
  if twice < denominator then quotient
  else if denominator < twice then quotient + 1
  else if quotient % 2 = 0 then quotient else quotient + 1

/-- The double nearest to `numerator / denominator`, both positive.  The place
of the last bit is chosen so that fifty-three bits remain, but never below the
place of the smallest double; a carry of the rounding moves on into the
exponent by itself. -/
def nearestBinary (numerator denominator : Nat) : Float :=
  let size : Int := (numerator.log2 : Int) - (denominator.log2 : Int)
  let scaled := fun (place : Int) => (numerator * twoTo (-place).toNat, denominator * twoTo place.toNat)
  let first := size - 52
  let place := if (scaled first).1 < twoTo 52 * (scaled first).2 then first - 1 else first
  let place := max place (-1074)
  let significand := roundHalfEven (scaled place).1 (scaled place).2
  let bits := (place + 1074).toNat * twoTo 52 + significand
  Float.ofBits (UInt64.ofNat (min bits infinityBits))

/-- The double nearest to a natural number. -/
def nearestNatural (value : Nat) : Float :=
  if value = 0 then 0.0 else nearestBinary value 1

/-- The double nearest to a decimal.  Far outside the range the answer is
known without the powers. -/
def Decimal.toFloat (decimal : Decimal) : Float :=
  let digits : Int := ((Nat.toDigits 10 decimal.coefficient).length : Int)
  if decimal.coefficient = 0 then 0.0
  else if 400 < digits + decimal.exponent then Float.ofBits (UInt64.ofNat infinityBits)
  else if digits + decimal.exponent < -400 then 0.0
  else nearestBinary (decimal.coefficient * tenTo decimal.exponent.toNat)
    (tenTo (-decimal.exponent).toNat)

/-- The size of a finite, nonzero double, without its sign. -/
def BinaryFraction.ofFloat? (x : Float) : Option BinaryFraction :=
  let magnitude := x.toBits.toNat % twoTo 63
  let biased := magnitude / twoTo 52
  let fraction := magnitude % twoTo 52
  if magnitude = 0 || infinityBits ≤ magnitude then none
  else if biased = 0 then some ⟨fraction, -1074, false⟩
  else some ⟨twoTo 52 + fraction, Int.ofNat biased - 1075, fraction == 0 && decide (1 < biased)⟩

/-- Whether the sign of a double is negative; also negative zero has one. -/
def hasMinusSign (x : Float) : Bool :=
  twoTo 63 ≤ x.toBits.toNat

end ModelRuns
