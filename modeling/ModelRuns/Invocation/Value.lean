import ModelRuns.Invocation.Flag
import ModelRuns.Number.DecimalText
import ModelRuns.Number.Power

namespace ModelRuns

/-!
# Values of flags

The value of a flag is read as its form demands.  Whole numbers are read with
a sign and up to sixty-three bits first and compared with their limit after
that, so that a number out of range is named as a number.
-/

inductive FlagValue
  | on
  | text (value : String)
  | path (value : Path)
  | fraction (value : Float)
  | natural (value : Nat)
deriving DecidableEq

/-- Why a text is no value of a flag. -/
inductive ValueFault
  | float (cause : FloatReadError)
  | emptyNumber
  | notADigit
  | tooLarge
  | tooSmall
  | outOfRange (value : Int) (limit : Nat)
deriving DecidableEq, Repr

/-- The wording of a fault. -/
def ValueFault.message : ValueFault → String
  | .float cause => cause.message
  | .emptyNumber => "cannot parse integer from empty string"
  | .notADigit => "invalid digit found in string"
  | .tooLarge => "number too large to fit in target type"
  | .tooSmall => "number too small to fit in target type"
  | .outOfRange value limit => toString value ++ " is not in 0..=" ++ toString limit

/-- Read digits up to a bound; the first character that is no digit or that
passes the bound decides. -/
def readBounded (bound : Nat) (tooFar : ValueFault) (value : Nat) :
    List Char → Except ValueFault Nat
  | [] => .ok value
  | c :: rest =>
    if !c.isDigit then .error .notADigit
    else
      let next := value * 10 + (c.toNat - '0'.toNat)
      if bound < next then .error tooFar else readBounded bound tooFar next rest

/-- Read a whole number with an optional sign. -/
def readSigned (text : List Char) : Except ValueFault Int :=
  match text with
  | [] => .error .emptyNumber
  | ['+'] => .error .notADigit
  | ['-'] => .error .notADigit
  | '-' :: rest => (readBounded (largestSigned64 + 1) .tooSmall 0 rest).map (fun value => -(value : Int))
  | '+' :: rest => (readBounded largestSigned64 .tooLarge 0 rest).map Int.ofNat
  | rest => (readBounded largestSigned64 .tooLarge 0 rest).map Int.ofNat

/-- Read a natural number up to a limit. -/
def readNatural (limit : Nat) (text : String) : Except ValueFault Nat :=
  match readSigned text.toList with
  | .error fault => .error fault
  | .ok value =>
    if value < 0 ∨ (limit : Int) < value then .error (.outOfRange value limit)
    else .ok value.toNat

end ModelRuns
