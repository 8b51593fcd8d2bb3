import ModelRuns.Json.Reader
import ModelRuns.Number.Power

namespace ModelRuns

/-!
# Words of TOML documents

Keys, strings, numbers and dates.  Each reader takes the characters that are
left and gives a value with what is left after it, or nothing where the
characters are not of its kind.
-/

namespace Toml

/-- A reading step. -/
abbrev Read (α : Type) := List Char → Option (α × List Char)

/-! ## Blanks and comments -/

/-- The blanks inside a line. -/
def isSpace (c : Char) : Bool := c == ' ' || c == '\t'

/-- Drop the blanks at the front. -/
def skipSpace (text : List Char) : List Char := text.dropWhile isSpace

/-- The characters of comments: no control character but the tab. -/
def isCommentChar (c : Char) : Bool := c == '\t' || (0x20 ≤ c.toNat && c.toNat != 0x7F)

/-- Drop a comment, if one begins here. -/
def skipComment : List Char → List Char
  | '#' :: rest => rest.dropWhile isCommentChar
  | text => text

/-- A line break, with or without a carriage return. -/
def newline? : List Char → Option (List Char)
  | '\n' :: rest => some rest
  | '\r' :: '\n' :: rest => some rest
  | _ => none

/-- The end of a line: blanks, a comment, and a line break or the end. -/
def lineEnd? (text : List Char) : Option (List Char) :=
  match skipComment (skipSpace text) with
  | [] => some []
  | rest => newline? rest

/-- Drop blanks, comments and line breaks, as they may stand inside arrays.
Each turn drops a line break. -/
def skipLines : Nat → List Char → List Char
  | 0, text => text
  | turns + 1, text =>
    let rest := skipComment (skipSpace text)
    match newline? rest with
    | some rest => skipLines turns rest
    | none => rest

/-! ## Strings -/

/-- Characters that may stand for themselves in a string. -/
def isStringChar (c : Char) : Bool := isCommentChar c

/-- A number of hexadecimal digits as a character. -/
def readHexChar (count : Nat) : Read Char := fun text =>
  let digits := text.take count
  match digits.mapM hexValue? with
  | none => none
  | some values =>
    let point := values.foldl (fun point value => point * 16 + value) 0
    if digits.length = count ∧ point.isValidChar then some (Char.ofNat point, text.drop count)
    else none

/-- The character of an escape, after its backslash. -/
def readStringEscape : Read Char
  | 'b' :: rest => some ('\x08', rest)
  | 't' :: rest => some ('\t', rest)
  | 'n' :: rest => some ('\n', rest)
  | 'f' :: rest => some ('\x0c', rest)
  | 'r' :: rest => some ('\r', rest)
  | '"' :: rest => some ('"', rest)
  | '\\' :: rest => some ('\\', rest)
  | 'u' :: rest => readHexChar 4 rest
  | 'U' :: rest => readHexChar 8 rest
  | _ => none

/-- The rest of a string between double quotes on one line. -/
def readBasic : Nat → List Char → Read (List Char)
  | 0, _ => fun _ => none
  | turns + 1, done => fun text =>
    match text with
    | '"' :: rest => some (done.reverse, rest)
    | '\\' :: rest => (readStringEscape rest).bind fun (c, rest) => readBasic turns (c :: done) rest
    | c :: rest => if isStringChar c then readBasic turns (c :: done) rest else none
    | [] => none

/-- The rest of a string between single quotes on one line. -/
def readLiteral (text : List Char) : Option (List Char × List Char) :=
  let content := text.takeWhile (fun c => c ≠ '\'' && isStringChar c)
  match text.drop content.length with
  | '\'' :: rest => some (content, rest)
  | _ => none

/-- The end of a string over several lines: three quotes, before which up to two
more may belong to the string. -/
def readClosing (quote : Char) (text : List Char) : Option (List Char × List Char) :=
  let count := (text.takeWhile (· == quote)).length
  if count < 3 then none
  else
    let extra := min (count - 3) 2
    some (List.replicate extra quote, text.drop (extra + 3))

/-- Drop blanks and line breaks. -/
def skipBlankLines : List Char → List Char
  | ' ' :: rest => skipBlankLines rest
  | '\t' :: rest => skipBlankLines rest
  | '\n' :: rest => skipBlankLines rest
  | '\r' :: '\n' :: rest => skipBlankLines rest
  | text => text

/-- Drop the blanks and line breaks after a backslash at the end of a line. -/
def skipContinuation (text : List Char) : Option (List Char) :=
  (newline? (skipSpace text)).map skipBlankLines

/-- The rest of a string between triple double quotes. -/
def readMultiBasic : Nat → List Char → Read (List Char)
  | 0, _ => fun _ => none
  | turns + 1, done => fun text =>
    match readClosing '"' text with
    | some (extra, rest) => some (done.reverse ++ extra, rest)
    | none =>
      match newline? text with
      | some rest => readMultiBasic turns ('\n' :: done) rest
      | none =>
        match text with
        | '\\' :: rest =>
          match skipContinuation rest with
          | some rest => readMultiBasic turns done rest
          | none =>
            (readStringEscape rest).bind fun (c, rest) => readMultiBasic turns (c :: done) rest
        | c :: rest => if isStringChar c then readMultiBasic turns (c :: done) rest else none
        | [] => none

/-- The rest of a string between triple single quotes. -/
def readMultiLiteral : Nat → List Char → Read (List Char)
  | 0, _ => fun _ => none
  | turns + 1, done => fun text =>
    match readClosing '\'' text with
    | some (extra, rest) => some (done.reverse ++ extra, rest)
    | none =>
      match newline? text with
      | some rest => readMultiLiteral turns ('\n' :: done) rest
      | none =>
        match text with
        | c :: rest => if isStringChar c then readMultiLiteral turns (c :: done) rest else none
        | [] => none

/-- A line break right after the opening quotes does not belong to the string. -/
def skipFirstBreak (text : List Char) : List Char := (newline? text).getD text

/-- A string of any of the four forms. -/
def readString : Read (List Char) := fun text =>
  match text with
  | '"' :: '"' :: '"' :: rest => readMultiBasic (rest.length + 1) [] (skipFirstBreak rest)
  | '\'' :: '\'' :: '\'' :: rest => readMultiLiteral (rest.length + 1) [] (skipFirstBreak rest)
  | '"' :: rest => readBasic (rest.length + 1) [] rest
  | '\'' :: rest => readLiteral rest
  | _ => none

/-! ## Keys -/

/-- The characters of bare keys. -/
def isBareKeyChar (c : Char) : Bool := c.isAlphanum || c == '_' || c == '-'

/-- One part of a key: bare, or a string on one line. -/
def readSimpleKey : Read String := fun text =>
  match text with
  | '"' :: rest => (readBasic (rest.length + 1) [] rest).map fun (key, rest) =>
      (String.ofList key, rest)
  | '\'' :: rest => (readLiteral rest).map fun (key, rest) => (String.ofList key, rest)
  | text =>
    match text.takeWhile isBareKeyChar with
    | [] => none
    | key => some (String.ofList key, text.drop key.length)

/-- Parts of a key, with dots and blanks between them. -/
def readKeyParts : Nat → Read (List String)
  | 0 => fun _ => none
  | turns + 1 => fun text =>
    (readSimpleKey text).bind fun (part, rest) =>
      match skipSpace rest with
      | '.' :: more =>
        (readKeyParts turns (skipSpace more)).map fun (parts, rest) => (part :: parts, rest)
      | rest => some ([part], rest)

/-- How many parts a key may have. -/
def keyLimit : Nat := 79

/-- A key of not too many parts. -/
def readKey : Read (List String) := fun text =>
  (readKeyParts (text.length + 1) text).filter fun (parts, _) => parts.length ≤ keyLimit

/-! ## Numbers -/

/-- Digits with single underscores between them, without the underscores. -/
def readDigits (isDigit : Char → Bool) : Read (List Char) := fun text =>
  let run := text.takeWhile (fun c => isDigit c || c == '_')
  -- An underscore must stand between two digits; the rest of a bad run is left over.
  let fits := !run.isEmpty && run.head? ≠ some '_' && run.getLast? ≠ some '_' &&
    (run.zip (run.drop 1)).all (fun (a, b) => a ≠ '_' || b ≠ '_')
  if fits then some (run.filter (· ≠ '_'), text.drop run.length) else none

/-- The value of digits in a base. -/
def digitsIn (base : Nat) (digits : List Char) : Nat :=
  digits.foldl (fun value c => value * base + (hexValue? c).getD 0) 0

/-- A number in a base, after its mark. -/
def readInBase (base : Nat) (isDigit : Char → Bool) : Read Int := fun text =>
  (readDigits isDigit text).bind fun (digits, rest) =>
    let value := digitsIn base digits
    if value ≤ largestSigned64 then some (value, rest) else none

def readSign : List Char → Bool × List Char
  | '-' :: rest => (true, rest)
  | '+' :: rest => (false, rest)
  | rest => (false, rest)

/-- The digits of a decimal number, without a zero at the front. -/
def readWhole : Read (List Char) := fun text =>
  (readDigits Char.isDigit text).bind fun (digits, rest) =>
    match digits with
    | '0' :: _ :: _ => none
    | digits => some (digits, rest)

/-- An exponent, if there is one. -/
def readExponentPart : Read (Option Int) := fun text =>
  match text with
  | mark :: rest =>
    if mark = 'e' || mark = 'E' then
      let (negative, rest) := readSign rest
      (readDigits Char.isDigit rest).map fun (digits, rest) =>
        let value : Int := digitsIn 10 digits
        (some (if negative then -value else value), rest)
    else some (none, text)
  | [] => some (none, [])

/-- A decimal number with a fraction or an exponent.  One that is too large is
refused. -/
def readFloatAfter (negative : Bool) (whole : List Char) : Read Unit := fun text =>
  let withFraction := match text with
    | '.' :: rest => readDigits Char.isDigit rest
    | rest => some ([], rest)
  withFraction.bind fun (fraction, rest) =>
    (readExponentPart rest).bind fun (exponent, rest) =>
      let decimal : Decimal :=
        ⟨digitsIn 10 (whole ++ fraction), exponent.getD 0 - (fraction.length : Int)⟩
      if negative || decimal.toFloat.isFinite then some ((), rest) else none

def dropWord? (word : List Char) (text : List Char) : Option (List Char) :=
  if word.isPrefixOf text then some (text.drop word.length) else none

/-- A number: a whole one with its value, another without. -/
def readNumber : Read (Option Int) := fun text =>
  let (negative, unsigned) := readSign text
  match dropWord? ['i', 'n', 'f'] unsigned <|> dropWord? ['n', 'a', 'n'] unsigned with
  | some rest => some (none, rest)
  | none =>
    match text with
    | '0' :: 'x' :: rest =>
      (readInBase 16 (fun c => (hexValue? c).isSome) rest).map fun (value, rest) =>
        (some value, rest)
    | '0' :: 'o' :: rest =>
      (readInBase 8 (fun c => '0' ≤ c && c ≤ '7') rest).map fun (value, rest) =>
        (some value, rest)
    | '0' :: 'b' :: rest =>
      (readInBase 2 (fun c => c == '0' || c == '1') rest).map fun (value, rest) =>
        (some value, rest)
    | _ =>
      (readWhole unsigned).bind fun (digits, rest) =>
        match rest with
        | '.' :: _ | 'e' :: _ | 'E' :: _ =>
          (readFloatAfter negative digits rest).map fun (_, rest) => (none, rest)
        | rest =>
          let value := digitsIn 10 digits
          if value ≤ largestSigned64 ∨ (negative ∧ value = largestSigned64 + 1) then
            some (some (if negative then -(value : Int) else value), rest)
          else none

/-! ## Dates -/

/-- A number of exactly so many digits, within limits. -/
def readField (count low high : Nat) : Read Nat := fun text =>
  let digits := text.take count
  let value := digitsValue digits
  if digits.length = count ∧ digits.all Char.isDigit = true ∧ low ≤ value ∧ value ≤ high then
    some (value, text.drop count)
  else none

/-- A character that must come next. -/
def readChar (accepted : List Char) : Read Unit
  | c :: rest => if accepted.contains c then some ((), rest) else none
  | [] => none

/-- The number of days of a month. -/
def daysOfMonth (year month : Nat) : Nat :=
  if month = 2 then
    if year % 4 = 0 ∧ (year % 100 ≠ 0 ∨ year % 400 = 0) then 29 else 28
  else if [4, 6, 9, 11].contains month then 30 else 31

def readDate : Read Unit := fun text => do
  let (year, text) ← readField 4 0 9999 text
  let (_, text) ← readChar ['-'] text
  let (month, text) ← readField 2 1 12 text
  let (_, text) ← readChar ['-'] text
  let (_, text) ← readField 2 1 (daysOfMonth year month) text
  return ((), text)

/-- A time of the day. -/
def readTime : Read Unit := fun text => do
  let (_, text) ← readField 2 0 23 text
  let (_, text) ← readChar [':'] text
  let (_, text) ← readField 2 0 59 text
  let (_, text) ← readChar [':'] text
  let (_, text) ← readField 2 0 60 text
  match text with
  | '.' :: rest =>
    match rest.takeWhile Char.isDigit with
    | [] => none
    | digits => return ((), rest.drop digits.length)
  | text => return ((), text)

/-- The distance to universal time, if it is given. -/
def readOffset : Read Unit := fun text =>
  match text with
  | c :: rest =>
    if c = 'Z' || c = 'z' then some ((), rest)
    else if c = '+' || c = '-' then do
      let (_, rest) ← readField 2 0 23 rest
      let (_, rest) ← readChar [':'] rest
      let (_, rest) ← readField 2 0 59 rest
      return ((), rest)
    else some ((), text)
  | [] => some ((), [])

/-- A date, a time, or both. -/
def readDateTime : Read Unit := fun text =>
  match readDate text with
  | some (_, rest) =>
    match (readChar ['T', 't', ' '] rest).bind fun (_, rest) => readTime rest with
    | some (_, rest) => readOffset rest
    | none =>
      match rest with
      | 'T' :: _ | 't' :: _ => none
      | rest => some ((), rest)
  | none => readTime text

/-- Whether a number can only be a date or a time, by its first separator. -/
def looksLikeDate (text : List Char) : Bool :=
  let digits := text.takeWhile Char.isDigit
  match text.drop digits.length with
  | '-' :: _ => digits.length == 4
  | ':' :: _ => digits.length == 2
  | _ => false

end Toml

end ModelRuns
