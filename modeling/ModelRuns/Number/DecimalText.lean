import ModelRuns.Number.Rounding

namespace ModelRuns

/-!
# Writing and reading doubles

Reports and documents write a finite double as its shortest decimal.  It stands
in plain notation from `0.00001` up to below `10 ^ 16`, with a fraction `.0`
when it is whole; beyond these limits one digit stands before the point and an
exponent with an explicit sign follows, as in `1e+16` and `1.5e-7`.

Values of flags are read by `readFloat`, which also knows the names of infinity
and of the number that is none.
-/

/-- The decimal digits of a natural number. -/
def digitsOf (value : Nat) : List Char := Nat.toDigits 10 value

/-- Drop the zeros at the end. -/
def dropTrailingZeros (digits : List Char) : List Char :=
  (digits.reverse.dropWhile (· == '0')).reverse

/-- The exponent of the leading digit of a decimal. -/
def Decimal.leadingPlace (decimal : Decimal) : Int :=
  decimal.exponent + ((digitsOf decimal.coefficient).length : Int) - 1

/-- One digit before the point, and an exponent with its sign. -/
def Decimal.scientificText (decimal : Decimal) : List Char :=
  let digits := dropTrailingZeros (digitsOf decimal.coefficient)
  let fraction := match digits.drop 1 with
    | [] => []
    | rest => '.' :: rest
  let sign := if decimal.leadingPlace < 0 then '-' else '+'
  digits.take 1 ++ fraction ++ 'e' :: sign :: digitsOf decimal.leadingPlace.natAbs

/-- All digits around the point, at least one on either side. -/
def Decimal.plainText (decimal : Decimal) : List Char :=
  let digits := dropTrailingZeros (digitsOf decimal.coefficient)
  if decimal.leadingPlace < 0 then
    '0' :: '.' :: List.replicate (decimal.leadingPlace.natAbs - 1) '0' ++ digits
  else
    let whole := decimal.leadingPlace.toNat + 1
    let padded := digits ++ List.replicate (whole - digits.length) '0'
    padded.take whole ++ '.' :: (match padded.drop whole with
      | [] => ['0']
      | fraction => fraction)

/-- Plain notation is used from this leading place up. -/
def plainFrom : Int := -5

/-- Plain notation ends below this leading place. -/
def plainBelow : Int := 16

/-- The text of a positive decimal in a document. -/
def Decimal.text (decimal : Decimal) : List Char :=
  if decimal.leadingPlace < plainFrom || plainBelow ≤ decimal.leadingPlace then
    decimal.scientificText
  else decimal.plainText

/-- The text of a finite double, its shortest decimal written by `write`. -/
def floatChars (write : Decimal → List Char) (x : Float) : List Char :=
  let magnitude := match BinaryFraction.ofFloat? x with
    | some fraction => write fraction.shortest
    | none => ['0', '.', '0']
  if hasMinusSign x then '-' :: magnitude else magnitude

/-- The text of a finite double in a document. -/
def floatText (x : Float) : String := String.ofList (floatChars Decimal.text x)

/-- The text of a finite double in a message, never with an exponent. -/
def plainFloatText (x : Float) : String := String.ofList (floatChars Decimal.plainText x)

/-! ## Reading -/

/-- The value of a run of decimal digits. -/
def digitsValue (digits : List Char) : Nat :=
  digits.foldl (fun value c => value * 10 + (c.toNat - '0'.toNat)) 0

/-- The digits at the front of a text, and the rest. -/
def spanDigits (text : List Char) : List Char × List Char :=
  text.span Char.isDigit

/-- Why a text is no double. -/
inductive FloatReadError
  | emptyText
  | notANumber
deriving DecidableEq, Repr

/-- The wording of each reason. -/
def FloatReadError.message : FloatReadError → String
  | .emptyText => "cannot parse float from empty string"
  | .notANumber => "invalid float literal"

/-- An exponent after its mark: an optional sign and at least one digit, and
nothing else. -/
def readExponent (text : List Char) : Option Int :=
  let (negative, rest) := match text with
    | '-' :: rest => (true, rest)
    | '+' :: rest => (false, rest)
    | rest => (false, rest)
  if rest.isEmpty || !rest.all Char.isDigit then none
  else some (if negative then -(digitsValue rest : Int) else digitsValue rest)

/-- An unsigned decimal: digits with an optional point and an optional
exponent.  One digit on either side of the point is enough. -/
def readDecimal (text : List Char) : Option Decimal :=
  let (whole, rest) := spanDigits text
  let (fraction, rest) := match rest with
    | '.' :: rest => spanDigits rest
    | rest => ([], rest)
  if whole.isEmpty && fraction.isEmpty then none
  else
    let coefficient := digitsValue (whole ++ fraction)
    let place : Int := -(fraction.length : Int)
    match rest with
    | [] => some ⟨coefficient, place⟩
    | mark :: rest =>
      if mark = 'e' || mark = 'E' then
        (readExponent rest).map (fun exponent => ⟨coefficient, place + exponent⟩)
      else none

/-- An unsigned double: a decimal, or a name in any case. -/
def readMagnitude (text : List Char) : Option Float :=
  let name := String.ofList (text.map Char.toLower)
  if name = "inf" || name = "infinity" then some (Float.ofBits (UInt64.ofNat infinityBits))
  else if name = "nan" then some (0.0 / 0.0)
  else (readDecimal text).map Decimal.toFloat

/-- Read a double with an optional sign. -/
def readFloat (text : String) : Except FloatReadError Float :=
  match text.toList with
  | [] => .error .emptyText
  | '-' :: rest => (readMagnitude rest).elim (.error .notANumber) (fun x => .ok (-x))
  | '+' :: rest => (readMagnitude rest).elim (.error .notANumber) .ok
  | rest => (readMagnitude rest).elim (.error .notANumber) .ok

end ModelRuns
