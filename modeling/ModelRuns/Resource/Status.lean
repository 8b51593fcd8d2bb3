import ModelRuns.Json.Printer
import ModelRuns.Number.Power
import ModelRuns.Text.Shapeless

namespace ModelRuns

/-!
# The state of a remote job

Building a resource is a job of the service.  Its status has a code, a message
and a progress.  A status is read from an object or from an array of these three
in order; only the code must be there.  A status that cannot be read names the
first part that does not fit, in the order of the keys.
-/

/-- The status of the job that builds a resource. -/
structure ResourceStatus where
  code : Int
  message : String
  progress : Float
deriving DecidableEq

namespace ResourceStatus

/-- The code of a finished job. -/
def finishedCode : Int := 5

/-- The code of a job that failed. -/
def faultyCode : Int := -1

/-- The code of a job that the service lost. -/
def unknownCode : Int := -2

/-- Whether the job is done. -/
def isFinished (status : ResourceStatus) : Bool := status.code == finishedCode

/-- Whether the job will never be done. -/
def isFailed (status : ResourceStatus) : Bool :=
  status.code == faultyCode || status.code == unknownCode

/-- A status as a document. -/
def toJson (status : ResourceStatus) : Json :=
  .object [("code", .ofInt status.code), ("message", .text status.message),
    ("progress", .ofFloat status.progress)]

end ResourceStatus

/-! ## Reading -/

/-- What a place of a document asks for. -/
inductive Expected
  | integer
  | text
  | float
  | status
deriving DecidableEq, Repr

/-- The wording of what is asked for. -/
def Expected.message : Expected → String
  | .integer => "i64"
  | .text => "a string"
  | .float => "f64"
  | .status => "struct ResourceStatus"

/-- Why a document is no status. -/
inductive StatusFault
  | wrongType (found : Json) (expected : Expected)
  | outOfRange (value : Int)
  | codeMissing
  | tooShort
  | tooLong (length : Nat)

/-- A character inside a quoted text of a message. -/
def debugChar (c : Char) : List Char :=
  if c = '"' then ['\\', '"']
  else if c = '\\' then ['\\', '\\']
  else if c = '\n' then ['\\', 'n']
  else if c = '\r' then ['\\', 'r']
  else if c = '\t' then ['\\', 't']
  else if c.toNat = 0 then ['\\', '0']
  else if isShapeless c then
    ['\\', 'u', '{'] ++ Nat.toDigits 16 c.toNat ++ ['}']
  else [c]

/-- How a message names a document: its kind, and its value when it is simple. -/
def describe : Json → String
  | .null => "null"
  | .bool true => "boolean `true`"
  | .bool false => "boolean `false`"
  | .number (.whole value) => "integer `" ++ toString value ++ "`"
  | .number (.fraction value) => "floating point `" ++ plainFloatText value ++ "`"
  | .text value => "string \"" ++ String.ofList (value.toList.flatMap debugChar) ++ "\""
  | .array _ => "sequence"
  | .object _ => "map"

/-- The wording of a fault. -/
def StatusFault.message : StatusFault → String
  | .wrongType found expected =>
    "invalid type: " ++ describe found ++ ", expected " ++ expected.message
  | .outOfRange value => "invalid value: integer `" ++ toString value ++ "`, expected i64"
  | .codeMissing => "missing field `code`"
  | .tooShort => "invalid length 0, expected struct ResourceStatus with 3 elements"
  | .tooLong length =>
    "invalid length " ++ toString length ++ ", expected fewer elements in array"

/-- Read a whole number of sixty-four bits with a sign. -/
def readInteger : Json → Except StatusFault Int
  | .number (.whole value) =>
    if value ≤ largestSigned64 then .ok value else .error (.outOfRange value)
  | found => .error (.wrongType found .integer)

def readString : Json → Except StatusFault String
  | .text value => .ok value
  | found => .error (.wrongType found .text)

/-- Read a number of any kind as a double. -/
def readDouble : Json → Except StatusFault Float
  | .number value => .ok value.toFloat
  | found => .error (.wrongType found .float)

/-- Read a part that may be missing. -/
def readOr (default : α) (read : Json → Except StatusFault α) : Option Json → Except StatusFault α
  | none => .ok default
  | some value => read value

def ResourceStatus.ofJson (document : Json) : Except StatusFault ResourceStatus :=
  match document with
  | .object fields => do
    let code ← (getField? "code" fields).mapM readInteger
    let message ← readOr "" readString (getField? "message" fields)
    let progress ← readOr 0.0 readDouble (getField? "progress" fields)
    match code with
    | none => .error .codeMissing
    | some code => .ok ⟨code, message, progress⟩
  | .array [] => .error .tooShort
  | .array (first :: rest) => do
    let code ← readInteger first
    let message ← readOr "" readString rest[0]?
    let progress ← readOr 0.0 readDouble rest[1]?
    if 2 < rest.length then .error (.tooLong (rest.length + 1)) else .ok ⟨code, message, progress⟩
  | found => .error (.wrongType found .status)

end ModelRuns
