import ModelRuns.Number.Power

namespace ModelRuns

/-!
# The shortest decimal that reads back

A finite binary number is `m · 2 ^ q`.  The decimals that round to it form an
interval; its ends belong to it exactly when `m` is even.  Among the decimals
of that interval the shortest is chosen, and among equally short ones the
nearest, an exact tie going to the even coefficient.

The search walks the decimal grids from one digit to seventeen.  If any point
of a grid lies in the interval, then so does one of the two neighbours of the
value on that grid, so only these two are tested.
-/

/-- The decimal number `coefficient · 10 ^ exponent`. -/
structure Decimal where
  coefficient : Nat
  exponent : Int
deriving DecidableEq, Repr

/-- The positive finite number `significand · 2 ^ exponent`.  `narrowBelow`
says that the gap to the next smaller number is half the gap above, as it is
at a power of two. -/
structure BinaryFraction where
  significand : Nat
  exponent : Int
  narrowBelow : Bool
deriving DecidableEq, Repr

namespace BinaryFraction

variable (x : BinaryFraction)

/-! ## The interval that rounds to a number

All three positions are counted in quarters of the last binary place. -/

/-- The value itself, in quarters of its last place. -/
def middle : Nat := 4 * x.significand

/-- The lower end of the interval, in quarters of the last place. -/
def lower : Nat := 4 * x.significand - (if x.narrowBelow then 1 else 2)

/-- The upper end of the interval, in quarters of the last place. -/
def upper : Nat := 4 * x.significand + 2

/-- The factor that brings quarters of the last place to the common scale of a
decimal grid `10 ^ place`. -/
def quarterScale (place : Int) : Nat :=
  twoTo (x.exponent - 2).toNat * tenTo (-place).toNat

/-- The factor that brings a multiple of `10 ^ place` to the same scale. -/
def gridScale (place : Int) : Nat :=
  tenTo place.toNat * twoTo (2 - x.exponent).toNat

/-- Whether `coefficient · 10 ^ place` rounds to the number. -/
def contains (coefficient : Nat) (place : Int) : Bool :=
  let point := coefficient * x.gridScale place
  let low := x.lower * x.quarterScale place
  let high := x.upper * x.quarterScale place
  if x.significand % 2 = 0 then low ≤ point && point ≤ high else low < point && point < high

/-- The exponent of the leading decimal digit.  A rational estimate of the
logarithm is at most one off, and is put right by comparison. -/
def leadingPlace : Int :=
  let estimate := (((x.significand.log2 : Nat) : Int) + x.exponent) * 30103 / 100000
  let value := fun place => x.middle * x.quarterScale place
  if value estimate < x.gridScale estimate then estimate - 1
  else if x.gridScale (estimate + 1) ≤ value (estimate + 1) then estimate + 1
  else estimate

/-- The decimal of a given number of digits that rounds to the number, if
there is one: the nearer of the two neighbours on that grid. -/
def onGrid (digits : Nat) : Option Decimal :=
  let place := x.leadingPlace - (digits : Int) + 1
  let scaled := x.middle * x.quarterScale place
  let below := scaled / x.gridScale place
  let above := below + 1
  let nearer :=
    match compare (2 * scaled) ((below + above) * x.gridScale place) with
    | .lt => below
    | .gt => above
    | .eq => if below % 2 = 0 then below else above
  let farther := if nearer = below then above else below
  if x.contains nearer place then some ⟨nearer, place⟩
  else if x.contains farther place then some ⟨farther, place⟩
  else none

/-- The shortest decimal that rounds to the number.  Seventeen digits always
suffice, so the last grid needs no test. -/
def shortest : Decimal :=
  match (List.range 16).findSome? (fun fewer => x.onGrid (fewer + 1)) with
  | some decimal => decimal
  | none => (x.onGrid 17).getD ⟨0, 0⟩

end BinaryFraction

end ModelRuns
