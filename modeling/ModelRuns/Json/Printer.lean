import ModelRuns.Json.Basic
import ModelRuns.Number.DecimalText

namespace ModelRuns

/-!
# Written documents

The compact form has no blank outside texts; run logs and requests use it.  The
indented form, two spaces a level, is the form of files.  Both escape only
quotes, backslashes and control characters; in particular a line break inside a
text is written as an escape.
-/

/-- A lower-case hexadecimal digit. -/
def hexDigit (value : Nat) : Char := Nat.digitChar value

/-- A character inside a quoted text. -/
def escapeChar (c : Char) : List Char :=
  if c = '"' then ['\\', '"']
  else if c = '\\' then ['\\', '\\']
  else if c = '\n' then ['\\', 'n']
  else if c = '\r' then ['\\', 'r']
  else if c = '\t' then ['\\', 't']
  else if c.toNat = 8 then ['\\', 'b']
  else if c.toNat = 12 then ['\\', 'f']
  else if c.toNat < 0x20 then
    ['\\', 'u', '0', '0', hexDigit (c.toNat / 16), hexDigit (c.toNat % 16)]
  else [c]

/-- A text between quotes. -/
def quoteText (text : String) : List Char :=
  '"' :: text.toList.flatMap escapeChar ++ ['"']

/-- A number.  Whole numbers have no point, all others do or have an exponent. -/
def numberChars : Number → List Char
  | .whole value => (toString value).toList
  | .fraction value => (floatText value).toList

/-! ## The compact form -/

mutual

/-- A document without blanks between its parts. -/
def compactChars : Json → List Char
  | .null => ['n', 'u', 'l', 'l']
  | .bool true => ['t', 'r', 'u', 'e']
  | .bool false => ['f', 'a', 'l', 's', 'e']
  | .number value => numberChars value
  | .text value => quoteText value
  | .array items => '[' :: ([','].intercalate (compactItems items) ++ [']'])
  | .object fields => '{' :: ([','].intercalate (compactFields fields) ++ ['}'])

/-- The written items of an array. -/
def compactItems : List Json → List (List Char)
  | [] => []
  | item :: rest => compactChars item :: compactItems rest

/-- The written fields of an object. -/
def compactFields : List (String × Json) → List (List Char)
  | [] => []
  | (key, value) :: rest =>
    (quoteText key ++ ':' :: compactChars value) :: compactFields rest

end

/-- The compact form as a string. -/
def Json.compact (document : Json) : String := String.ofList (compactChars document)

/-! ## The indented form -/

/-- A line break and the indentation of a level. -/
def indentation (level : Nat) : List Char := '\n' :: List.replicate (2 * level) ' '

/-- Bracket the written parts of an array or object, each on a line of its
own one level in; without parts the brackets stand together. -/
def bracketed (opening closing : Char) (level : Nat) (parts : List (List Char)) : List Char :=
  match parts with
  | [] => [opening, closing]
  | parts =>
    let separator := ',' :: indentation (level + 1)
    opening :: indentation (level + 1) ++ separator.intercalate parts ++
      indentation level ++ [closing]

mutual

/-- A document whose parts stand on lines of their own. -/
def prettyChars (level : Nat) : Json → List Char
  | .array items => bracketed '[' ']' level (prettyItems (level + 1) items)
  | .object fields => bracketed '{' '}' level (prettyFields (level + 1) fields)
  | .null => ['n', 'u', 'l', 'l']
  | .bool true => ['t', 'r', 'u', 'e']
  | .bool false => ['f', 'a', 'l', 's', 'e']
  | .number value => numberChars value
  | .text value => quoteText value

/-- The written items of an array, at their level. -/
def prettyItems (level : Nat) : List Json → List (List Char)
  | [] => []
  | item :: rest => prettyChars level item :: prettyItems level rest

/-- The written fields of an object, at their level. -/
def prettyFields (level : Nat) : List (String × Json) → List (List Char)
  | [] => []
  | (key, value) :: rest =>
    (quoteText key ++ ':' :: ' ' :: prettyChars level value) :: prettyFields level rest

end

/-- The indented form as a string, without a final line break. -/
def Json.pretty (document : Json) : String := String.ofList (prettyChars 0 document)

/-- The indented form of named values in the order given.  Reports keep the
order in which their parts are declared, not the order of keys. -/
def prettyRecord (parts : Fields) : String := Json.pretty (.object parts)

/-- The compact form of named values in the order given. -/
def compactRecord (parts : Fields) : String := Json.compact (.object parts)

end ModelRuns
