import ModelRuns.Json.Basic
import ModelRuns.Number.DecimalText
import ModelRuns.Number.Digits
import ModelRuns.Number.Power
import ModelRuns.Text.Utf8

namespace ModelRuns

/-!
# Reading documents

A reader takes the characters that are left and gives a value with what is left
after it.  A failure keeps its cause and the place where reading stopped, so
that `JsonError.message` can name the line and the column.  Arrays and objects
nest at most `nestingLimit` levels deep.

A number is read by a fixed rule rather than to the last bit: the digits that
fit in sixty-four bits form a whole number, which is rounded to a double and
then multiplied or divided once by a power of ten.
-/

/-- What is wrong with a written document. -/
inductive JsonFault
  | endInValue
  | endInList
  | endInObject
  | endInString
  | colonMissing
  | listCommaMissing
  | objectCommaMissing
  | unknownWord
  | valueMissing
  | keyNotText
  | invalidEscape
  | invalidNumber
  | numberOutOfRange
  | controlCharacter
  | loneSurrogate
  | secondSurrogateMissing
  | trailingComma
  | trailingCharacters
  | tooDeep
deriving DecidableEq, Repr

/-- The wording of a fault. -/
def JsonFault.message : JsonFault → String
  | .endInValue => "EOF while parsing a value"
  | .endInList => "EOF while parsing a list"
  | .endInObject => "EOF while parsing an object"
  | .endInString => "EOF while parsing a string"
  | .colonMissing => "expected `:`"
  | .listCommaMissing => "expected `,` or `]`"
  | .objectCommaMissing => "expected `,` or `\x7d`"
  | .unknownWord => "expected ident"
  | .valueMissing => "expected value"
  | .keyNotText => "key must be a string"
  | .invalidEscape => "invalid escape"
  | .invalidNumber => "invalid number"
  | .numberOutOfRange => "number out of range"
  | .controlCharacter => "control character (\\u0000-\\u001F) found while parsing a string"
  | .loneSurrogate => "lone leading surrogate in hex escape"
  | .secondSurrogateMissing => "unexpected end of hex escape"
  | .trailingComma => "trailing comma"
  | .trailingCharacters => "trailing characters"
  | .tooDeep => "recursion limit exceeded"

/-- A fault and where it was found: so many bytes into the characters that were
left. -/
structure JsonStop where
  fault : JsonFault
  left : List Char
  bytesInto : Nat
deriving DecidableEq, Repr

/-- A fault in a written document and where it is: lines count from one, and a
column is the number of bytes of its line up to the fault. -/
structure JsonError where
  fault : JsonFault
  line : Nat
  column : Nat
deriving DecidableEq, Repr

/-- The wording of a fault with its place. -/
def JsonError.message (error : JsonError) : String :=
  error.fault.message ++ " at line " ++ toString error.line ++ " column " ++ toString error.column

/-- The byte that ends a line. -/
def lineBreakByte : UInt8 := 0x0A

/-- Find the line and column of a stop in the text it was found in.  A stop may
lie inside a character, whose bytes then count one by one. -/
def JsonStop.locate (stop : JsonStop) (text : List Char) : JsonError :=
  let before := (encodeUtf8 (String.ofList text)).take
    (byteLength text - byteLength stop.left + stop.bytesInto)
  ⟨stop.fault, before.count lineBreakByte + 1,
    (before.reverse.takeWhile (· ≠ lineBreakByte)).length⟩

/-- A reading step: a value and what is left, or a stop. -/
abbrev JsonStep (α : Type) := Except JsonStop (α × List Char)

/-- Stop because of the next byte, or because there is none. -/
def stopAt (fault : JsonFault) (left : List Char) : Except JsonStop α :=
  .error ⟨fault, left, 1⟩

/-- Stop after what has been read. -/
def stopAfter (fault : JsonFault) (left : List Char) : Except JsonStop α :=
  .error ⟨fault, left, 0⟩

/-- The blanks between the parts of a document. -/
def isJsonBlank (c : Char) : Bool :=
  c == ' ' || c == '\n' || c == '\t' || c == '\r'

/-- Drop the blanks at the front. -/
def skipBlanks (text : List Char) : List Char := text.dropWhile isJsonBlank

/-! ## Numbers -/

/-- Append digits to a whole number while it fits in sixty-four bits; the
second part counts the digits taken. -/
def appendDigits (value : Nat) : List Char → Nat × Nat
  | [] => (value, 0)
  | c :: rest =>
    let next := value * 10 + (c.toNat - '0'.toNat)
    if largestWord64 < next then (value, 0)
    else
      let (appended, taken) := appendDigits next rest
      (appended, taken + 1)

/-- The double nearest to a power of ten. -/
def powerOfTen (exponent : Nat) : Float := Decimal.toFloat ⟨1, exponent⟩

/-- The largest power of ten that is a double. -/
def largestPower : Nat := 308

/-- Scale a whole number by a power of ten, with one operation where one
suffices.  A value too large for a double has no result. -/
def scaleByTen (significand : Nat) (exponent : Int) : Option Float :=
  let value := nearestNatural significand
  if 0 ≤ exponent then
    if exponent.toNat ≤ largestPower then
      let scaled := value * powerOfTen exponent.toNat
      if scaled.isFinite then some scaled else none
    else if significand = 0 then some value else none
  else
    let steps := (exponent.natAbs - 1) / largestPower
    -- After three full steps nothing is left of any whole number.
    let stepped := (List.replicate (min steps 3) ()).foldl
      (fun scaled _ => scaled / powerOfTen largestPower) value
    some (stepped / powerOfTen (exponent.natAbs - steps * largestPower))

/-- A double with the sign that was written before it. -/
def signed (negative : Bool) (value : Float) : Float := if negative then -value else value

def finishFraction (negative : Bool) (significand : Nat) (exponent : Int) (left : List Char) :
    JsonStep Number :=
  match scaleByTen significand exponent with
  | some value => .ok (.fraction (signed negative value), left)
  | none => stopAfter .numberOutOfRange left

/-- How many digits may be appended to a number before it passes a limit. -/
def fittingDigits (limit value : Nat) : List Char → Nat
  | [] => 0
  | c :: rest =>
    let next := value * 10 + (c.toNat - '0'.toNat)
    if limit < next then 0 else fittingDigits limit next rest + 1

/-- The exponent after its mark.  An exponent of more than thirty-two bits is
refused at the digit that makes it so, unless the number is zero or tiny. -/
def readScale (negative : Bool) (significand : Nat) (place : Int) (text : List Char) :
    JsonStep Number :=
  let (down, rest) := match text with
    | '-' :: rest => (true, rest)
    | '+' :: rest => (false, rest)
    | rest => (false, rest)
  match spanDigits rest with
  | ([], []) => stopAfter .endInValue rest
  | ([], left) => stopAt .invalidNumber left
  | (digits, left) =>
    let exponent : Int := digitsValue digits
    let used := fittingDigits largestSigned32 0 digits
    if used < digits.length && !down && significand ≠ 0 then
      stopAfter .numberOutOfRange (digits.drop (used + 1) ++ left)
    else
      finishFraction negative significand (if down then place - exponent else place + exponent) left

/-- The digits after the point, and an exponent. -/
def readFraction (negative : Bool) (whole : Nat) (place : Int) (text : List Char) :
    JsonStep Number :=
  match spanDigits text with
  | ([], []) => stopAt .endInValue []
  | ([], left) => stopAt .invalidNumber left
  | (digits, left) =>
    let (significand, taken) := appendDigits whole digits
    let place := place - taken
    match left with
    | 'e' :: rest => readScale negative significand place rest
    | 'E' :: rest => readScale negative significand place rest
    | left => finishFraction negative significand place left

/-- What follows the whole part of a number.  `dropped` counts digits of it
that did not fit. -/
def readAfterWhole (negative : Bool) (whole dropped : Nat) (text : List Char) : JsonStep Number :=
  match text with
  | '.' :: rest => readFraction negative whole dropped rest
  | 'e' :: rest => readScale negative whole dropped rest
  | 'E' :: rest => readScale negative whole dropped rest
  | left =>
    if 0 < dropped then finishFraction negative whole dropped left
    else if !negative then .ok (.whole whole, left)
    else if whole = 0 || largestSigned64 + 1 < whole then
      .ok (.fraction (signed true (nearestNatural whole)), left)
    else .ok (.whole (-(whole : Int)), left)

/-- A number after its sign. -/
def readNumber (negative : Bool) (text : List Char) : JsonStep Number :=
  match spanDigits text with
  | ([], []) => stopAfter .endInValue []
  | ([], left) => stopAt .invalidNumber left
  | ('0' :: second :: more, left) => stopAt .invalidNumber (second :: more ++ left)
  | (digits, left) =>
    let (whole, taken) := appendDigits 0 digits
    readAfterWhole negative whole (digits.length - taken) left

/-! ## Texts -/

/-- The number of bytes a numbered escape has after its letter. -/
def escapeBytes : Nat := 4

/-- Four hexadecimal digits.  Whether enough is left is a matter of bytes. -/
def readHex4 (text : List Char) : JsonStep Nat :=
  match text with
  | a :: b :: c :: d :: rest =>
    match hexValue? a, hexValue? b, hexValue? c, hexValue? d with
    | some a, some b, some c, some d => .ok (((a * 16 + b) * 16 + c) * 16 + d, rest)
    | _, _, _, _ => .error ⟨.invalidEscape, text, escapeBytes⟩
  | text =>
    if byteLength text < escapeBytes then stopAfter .endInString []
    else .error ⟨.invalidEscape, text, escapeBytes⟩

/-- The character of a numbered escape.  Two escapes in a row may name the two
halves of one character. -/
def readNumberedEscape (text : List Char) : JsonStep Char :=
  match readHex4 text with
  | .error stop => .error stop
  | .ok (first, rest) =>
    if 0xDC00 ≤ first ∧ first ≤ 0xDFFF then stopAfter .loneSurrogate rest
    else if 0xD800 ≤ first ∧ first ≤ 0xDBFF then
      match rest with
      | '\\' :: 'u' :: rest =>
        match readHex4 rest with
        | .error stop => .error stop
        | .ok (second, rest) =>
          if 0xDC00 ≤ second ∧ second ≤ 0xDFFF then
            .ok (Char.ofNat (0x10000 + (first - 0xD800) * 0x400 + (second - 0xDC00)), rest)
          else stopAfter .loneSurrogate rest
      | '\\' :: [] => stopAfter .endInString []
      | '\\' :: rest => stopAt .secondSurrogateMissing rest
      | [] => stopAfter .endInString []
      | rest => stopAt .secondSurrogateMissing rest
    else .ok (Char.ofNat first, rest)

/-- The character of an escape, after its backslash. -/
def readEscape (text : List Char) : JsonStep Char :=
  match text with
  | [] => stopAfter .endInString []
  | '"' :: rest => .ok ('"', rest)
  | '\\' :: rest => .ok ('\\', rest)
  | '/' :: rest => .ok ('/', rest)
  | 'b' :: rest => .ok ('\x08', rest)
  | 'f' :: rest => .ok ('\x0c', rest)
  | 'n' :: rest => .ok ('\n', rest)
  | 'r' :: rest => .ok ('\r', rest)
  | 't' :: rest => .ok ('\t', rest)
  | 'u' :: rest => readNumberedEscape rest
  | rest => stopAt .invalidEscape rest

/-- The rest of a text after its opening quote.  Each step uses a character, so
`bound`, which is the same text at first, bounds the number of steps. -/
def readText (bound : List Char) (done : List Char) (text : List Char) : JsonStep String :=
  match bound with
  | [] => stopAfter .endInString text
  | _ :: bound =>
    match text with
    | [] => stopAfter .endInString []
    | '"' :: rest => .ok (String.ofList done.reverse, rest)
    | '\\' :: rest =>
      match readEscape rest with
      | .ok (c, rest) => readText bound (c :: done) rest
      | .error stop => .error stop
    | c :: rest =>
      if c.toNat < 0x20 then stopAfter .controlCharacter rest
      else readText bound (c :: done) rest

/-! ## Values -/

/-- How deep arrays and objects may nest. -/
def nestingLimit : Nat := 127

/-- A word that stands for a value, letter by letter. -/
def readWord (value : Json) : List Char → List Char → JsonStep Json
  | [], text => .ok (value, text)
  | _ :: _, [] => stopAfter .endInValue []
  | letter :: word, c :: text =>
    if letter = c then readWord value word text else stopAt .unknownWord (c :: text)

/-- A key or text that starts with a quote. -/
def readQuoted (text : List Char) : JsonStep String :=
  readText text [] text

mutual

/-- A value.  Every call uses a turn, and `depth` levels may still open. -/
def readValue (turns depth : Nat) (text : List Char) : JsonStep Json :=
  match turns with
  | 0 => stopAt .endInValue text
  | turns + 1 =>
    match skipBlanks text with
    | [] => stopAt .endInValue []
    | 'n' :: rest => readWord .null ['u', 'l', 'l'] rest
    | 't' :: rest => readWord (.bool true) ['r', 'u', 'e'] rest
    | 'f' :: rest => readWord (.bool false) ['a', 'l', 's', 'e'] rest
    | '"' :: rest => (readQuoted rest).map (fun (value, left) => (.text value, left))
    | '[' :: rest =>
      if depth = 0 then stopAt .tooDeep ('[' :: rest)
      else (readItems turns (depth - 1) [] rest).map (fun (items, left) => (.array items, left))
    | '{' :: rest =>
      if depth = 0 then stopAt .tooDeep ('{' :: rest)
      else (readFields turns (depth - 1) [] rest).map
        (fun (fields, left) => (.object (orderFields fields), left))
    | c :: rest =>
      if c = '-' then (readNumber true rest).map (fun (value, left) => (.number value, left))
      else if c.isDigit then
        (readNumber false (c :: rest)).map (fun (value, left) => (.number value, left))
      else stopAt .valueMissing (c :: rest)

/-- The items of an array after its opening bracket; `done` holds those before,
the last first. -/
def readItems (turns depth : Nat) (done : List Json) (text : List Char) : JsonStep (List Json) :=
  match turns with
  | 0 => stopAt .endInList text
  | turns + 1 =>
    let next := fun (text : List Char) =>
      match readValue turns depth text with
      | .ok (item, left) => readItems turns depth (item :: done) left
      | .error stop => .error stop
    match skipBlanks text with
    | [] => stopAt .endInList []
    | ']' :: rest => .ok (done.reverse, rest)
    | c :: rest =>
      if done.isEmpty then next (c :: rest)
      else if c = ',' then
        match skipBlanks rest with
        | [] => stopAt .endInValue []
        | ']' :: left => stopAt .trailingComma (']' :: left)
        | left => next left
      else stopAt .listCommaMissing (c :: rest)

/-- The fields of an object after its opening brace; `done` holds those before,
the last first. -/
def readFields (turns depth : Nat) (done : Fields) (text : List Char) : JsonStep Fields :=
  match turns with
  | 0 => stopAt .endInObject text
  | turns + 1 =>
    let next := fun (text : List Char) =>
      match readQuoted text with
      | .error stop => .error stop
      | .ok (key, left) =>
        match skipBlanks left with
        | [] => stopAt .endInObject []
        | ':' :: left =>
          match readValue turns depth left with
          | .ok (value, left) => readFields turns depth ((key, value) :: done) left
          | .error stop => .error stop
        | left => stopAt .colonMissing left
    match skipBlanks text with
    | [] => stopAt .endInObject []
    | '}' :: rest => .ok (done.reverse, rest)
    | c :: rest =>
      if done.isEmpty then
        if c = '"' then next rest else stopAt .keyNotText (c :: rest)
      else if c = ',' then
        match skipBlanks rest with
        | [] => stopAt .endInValue []
        | '"' :: left => next left
        | '}' :: left => stopAt .trailingComma ('}' :: left)
        | left => stopAt .keyNotText left
      else stopAt .objectCommaMissing (c :: rest)

end

/-- One document and nothing but blanks around it. -/
def readDocument (text : List Char) : Except JsonStop Json :=
  match readValue (2 * text.length + 2) nestingLimit text with
  | .error stop => .error stop
  | .ok (value, left) =>
    match skipBlanks left with
    | [] => .ok value
    | left => stopAt .trailingCharacters left

/-- Read a text that holds one document. -/
def Json.read (text : String) : Except JsonError Json :=
  match readDocument text.toList with
  | .ok value => .ok value
  | .error stop => .error (stop.locate text.toList)

end ModelRuns
