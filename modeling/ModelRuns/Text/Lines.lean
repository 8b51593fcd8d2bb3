namespace ModelRuns

/-!
# Lines of a text

A line ends at a line feed; one carriage return right before that line feed
belongs to the ending.  A last line without a line feed is kept as it stands,
a final carriage return included, and an empty rest is no line.
-/

/-- Remove the carriage return that belongs to a line ending.  The line is
held in reverse, so the carriage return is its head. -/
def dropReturn : List Char → List Char
  | '\r' :: rest => rest
  | line => line

/-- Split into lines; `current` is the open line in reverse. -/
def linesFrom (current : List Char) : List Char → List (List Char)
  | [] => if current.isEmpty then [] else [current.reverse]
  | c :: rest =>
    if c = '\n' then (dropReturn current).reverse :: linesFrom [] rest
    else linesFrom (c :: current) rest

/-- The lines of a text, without their endings. -/
def lines (text : String) : List String :=
  (linesFrom [] text.toList).map String.ofList

end ModelRuns
