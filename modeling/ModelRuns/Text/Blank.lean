namespace ModelRuns

/-!
# Blank characters and trimming

Identifiers, log lines and settings are trimmed before they are read.  The
characters that count as blank are those with the Unicode property
`White_Space`; core's `Char.isWhitespace` covers only the ASCII ones, so the
property is listed here.
-/

/-- The `White_Space` property: the controls from tab to carriage return, the
space, next line, the no-break and Ogham spaces, the typographic spaces, the
line and paragraph separators, and the two wide spaces. -/
def isBlank (c : Char) : Bool :=
  let point := c.toNat
  (9 ≤ point && point ≤ 13) || point == 0x20 || point == 0x85 || point == 0xA0 ||
    point == 0x1680 || (0x2000 ≤ point && point ≤ 0x200A) || point == 0x2028 ||
    point == 0x2029 || point == 0x202F || point == 0x205F || point == 0x3000

/-- The text without the blanks at its two ends. -/
def trimBlank (text : List Char) : List Char :=
  ((text.dropWhile isBlank).reverse.dropWhile isBlank).reverse

/-- Trimming a string trims its characters. -/
def trim (text : String) : String :=
  String.ofList (trimBlank text.toList)

/-- A text is blank when trimming leaves nothing of it. -/
def allBlank (text : String) : Bool :=
  text.toList.all isBlank

end ModelRuns
