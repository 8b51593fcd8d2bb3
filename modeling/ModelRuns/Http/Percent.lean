import ModelRuns.Number.Digits
import ModelRuns.Text.Utf8

namespace ModelRuns

/-!
# Percent signs

A character that cannot stand in its part of an address is written as a percent
sign with two digits for each of its bytes.  Each part has its own set of such
characters.
-/

/-! ## Writing -/

/-- A hexadecimal digit in upper case. -/
def upperHex (value : Nat) : Char := (Nat.digitChar value).toUpper

/-- A byte as a percent sign and two digits. -/
def percentByte (byte : UInt8) : List Char :=
  ['%', upperHex (byte.toNat / 16), upperHex (byte.toNat % 16)]

/-- A character as the percent forms of its bytes. -/
def percentChar (c : Char) : List Char :=
  (encodeUtf8 (String.singleton c)).flatMap percentByte

/-- Write the characters that cannot stand as they are with percent signs. -/
def encodeWhere (special : Char → Bool) (text : List Char) : List Char :=
  text.flatMap fun c => if special c then percentChar c else [c]

/-! ## Reading -/

/-- The byte that a percent sign and two digits stand for. -/
def percentForm? (sign high low : UInt8) : Option UInt8 :=
  if sign.toNat = '%'.toNat then
    match hexValue? (Char.ofNat high.toNat), hexValue? (Char.ofNat low.toNat) with
    | some high, some low => some (UInt8.ofNat (high * 16 + low))
    | _, _ => none
  else none

/-- Read the percent forms among some bytes.  A percent sign that no two digits
follow stands for itself. -/
def percentBytes : List UInt8 → List UInt8
  | byte :: high :: low :: rest =>
    match percentForm? byte high low with
    | some value => value :: percentBytes rest
    | none => byte :: percentBytes (high :: low :: rest)
  | bytes => bytes

/-- The text that a text with percent forms stands for, if it is one. -/
def decodePercent? (text : List Char) : Option (List Char) :=
  (decodeUtf8? (percentBytes (encodeUtf8 (String.ofList text)))).map String.toList

/-! ## The parts of an address -/

/-- A control character or one outside ASCII. -/
def isOpaque (c : Char) : Bool := c.toNat < 0x20 || 0x7F ≤ c.toNat

/-- What cannot stand in a path. -/
def pathSpecial (c : Char) : Bool :=
  isOpaque c || [' ', '"', '#', '<', '>', '?', '\x60', '\x7b', '\x7d'].contains c

/-- What cannot stand in the name or the password of a user. -/
def userSpecial (c : Char) : Bool :=
  pathSpecial c || ['/', ':', ';', '=', '@', '[', '\\', ']', '^', '|'].contains c

/-- What cannot stand in a query. -/
def querySpecial (c : Char) : Bool :=
  isOpaque c || [' ', '"', '#', '<', '>'].contains c

/-- What cannot stand in a fragment. -/
def fragmentSpecial (c : Char) : Bool :=
  isOpaque c || [' ', '"', '<', '>', '\x60'].contains c

/-- What stands as it is in a value of a form. -/
def isFormPlain (c : Char) : Bool :=
  c.isAlphanum || ['*', '-', '.', '_'].contains c

/-- A value as forms write it. -/
def formValue (text : String) : String :=
  String.ofList (text.toList.flatMap fun c =>
    if c = ' ' then ['+'] else if isFormPlain c then [c] else percentChar c)

end ModelRuns
