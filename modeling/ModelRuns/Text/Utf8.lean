namespace ModelRuns

/-!
# Reading bytes as text

Files and arguments arrive as bytes.  `decodeUtf8?` accepts well-formed UTF-8
only.  `decodeLossy` also gives a text for every other sequence of bytes: each
maximal piece that could have begun a character, and each byte that could not,
becomes one replacement character.
-/

/-- The character that stands for unreadable bytes. -/
def replacementChar : Char := '\uFFFD'

/-- The ranges of the bytes that may follow a first byte, in order.  The
narrower ranges exclude overlong forms, surrogates and values past the last
code point.  A byte that begins no character of two or more bytes has none. -/
def continuationRanges (first : Nat) : List (Nat × Nat) :=
  if 0xC2 ≤ first ∧ first ≤ 0xDF then [(0x80, 0xBF)]
  else if first = 0xE0 then [(0xA0, 0xBF), (0x80, 0xBF)]
  else if first = 0xED then [(0x80, 0x9F), (0x80, 0xBF)]
  else if 0xE1 ≤ first ∧ first ≤ 0xEF then [(0x80, 0xBF), (0x80, 0xBF)]
  else if first = 0xF0 then [(0x90, 0xBF), (0x80, 0xBF), (0x80, 0xBF)]
  else if 0xF1 ≤ first ∧ first ≤ 0xF3 then [(0x80, 0xBF), (0x80, 0xBF), (0x80, 0xBF)]
  else if first = 0xF4 then [(0x80, 0x8F), (0x80, 0xBF), (0x80, 0xBF)]
  else []

/-- How many of the following bytes continue the character, up to the first
that is out of its range. -/
def continuationLength : List (Nat × Nat) → List UInt8 → Nat
  | (low, high) :: ranges, byte :: rest =>
    if low ≤ byte.toNat ∧ byte.toNat ≤ high then continuationLength ranges rest + 1 else 0
  | _, _ => 0

/-- The code point written by a first byte and its continuation bytes. -/
def codePoint (first : Nat) (continuation : List UInt8) : Nat :=
  let lead := match continuation.length with
    | 0 => first
    | 1 => first % 0x20
    | 2 => first % 0x10
    | _ => first % 0x08
  continuation.foldl (fun point byte => point * 0x40 + byte.toNat % 0x40) lead

/-- The next character and the bytes it takes, or, when no character begins
here, how many bytes one replacement stands for. -/
def nextChar (first : UInt8) (rest : List UInt8) : Except Nat (Char × Nat) :=
  if first.toNat < 0x80 then .ok (Char.ofNat first.toNat, 1)
  else
    let ranges := continuationRanges first.toNat
    let length := continuationLength ranges rest
    if ranges ≠ [] ∧ length = ranges.length then
      .ok (Char.ofNat (codePoint first.toNat (rest.take length)), length + 1)
    else .error (length + 1)

/-- Decode bytes, keeping for each character whether it was read or stands for
unreadable bytes.  `skip` counts the bytes already used by the character
before. -/
def decodeFrom (skip : Nat) : List UInt8 → List (Option Char)
  | [] => []
  | first :: rest =>
    match skip with
    | skipped + 1 => decodeFrom skipped rest
    | 0 =>
      match nextChar first rest with
      | .ok (c, length) => some c :: decodeFrom (length - 1) rest
      | .error length => none :: decodeFrom (length - 1) rest

/-- The text of well-formed bytes. -/
def decodeUtf8? (bytes : List UInt8) : Option String :=
  (decodeFrom 0 bytes).mapM id |>.map String.ofList

/-- The text of any bytes, with replacements for what cannot be read. -/
def decodeLossy (bytes : List UInt8) : String :=
  String.ofList ((decodeFrom 0 bytes).map (·.getD replacementChar))

/-- The bytes of a text. -/
def encodeUtf8 (text : String) : List UInt8 :=
  text.toUTF8.toList

/-- The length of a text in bytes. -/
def byteLength (text : List Char) : Nat :=
  text.foldr (fun c length => c.utf8Size + length) 0

end ModelRuns
