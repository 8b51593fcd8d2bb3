import ModelRuns.Number.Digits
import ModelRuns.Path

namespace ModelRuns

/-!
# Tables of characters

The properties of characters that come from a standard are kept as tables.  A
table is a text of words with blanks or line breaks between them, and all of its
numbers are hexadecimal code points.  A set of characters has words such as `41`
and `41-5a`; an assignment has words such as `c0=41+300`, which assigns two
characters to one, `41-5a=61`, which assigns consecutive characters to a range,
and `100/12e=101`, which does the same with every second character of a range
and leaves those between alone.
-/

def tableWords (text : String) : List (List Char) :=
  (splitChars ' ' (text.toList.map fun c => if c = '\n' then ' ' else c)).filter (· ≠ [])

/-- A range of code points with both ends, or a single one. -/
def readRange (separator : Char) (word : List Char) : Option (Nat × Nat) :=
  match (splitChars separator word).mapM (numberIn? 16) with
  | some [point] => some (point, point)
  | some [first, last] => some (first, last)
  | _ => none

/-! ## Sets -/

/-- A set of characters, as ranges of code points with both ends. -/
structure CharSet where
  ranges : List (Nat × Nat)

namespace CharSet

/-- The set that a table lists. -/
def ofTable (text : String) : CharSet :=
  ⟨(tableWords text).filterMap (readRange '-')⟩

/-- Whether a character is in a set. -/
def contains (set : CharSet) (c : Char) : Bool :=
  set.ranges.any fun (first, last) => first ≤ c.toNat && c.toNat ≤ last

end CharSet

/-! ## Assignments -/

/-- The characters assigned to a range of characters. -/
structure CharSpan where
  first : Nat
  last : Nat
  /-- How far the characters of the range lie apart. -/
  step : Nat
  /-- What the first one is assigned.  For a later one the last code point is as
  much larger. -/
  target : List Nat

/-- Characters that some characters are assigned. -/
structure CharMap where
  spans : List CharSpan

namespace CharMap

/-- Read a word of a table. -/
def readSpan (word : List Char) : Option CharSpan :=
  match splitChars '=' word with
  | [source, target] => do
    let target ← (splitChars '+' target).mapM (numberIn? 16)
    let step := if source.contains '/' then 2 else 1
    let (first, last) ← readRange (if step = 2 then '/' else '-') source
    return ⟨first, last, step, target⟩
  | _ => none

/-- The assignment that a table lists. -/
def ofTable (text : String) : CharMap :=
  ⟨(tableWords text).filterMap readSpan⟩

/-- Count the last of some code points up. -/
def shiftLast (distance : Nat) : List Nat → List Nat
  | [] => []
  | [point] => [point + distance]
  | point :: rest => point :: shiftLast distance rest

/-- What a character is assigned. -/
def find? (map : CharMap) (c : Char) : Option (List Char) :=
  (map.spans.find? fun span =>
    span.first ≤ c.toNat && c.toNat ≤ span.last && (c.toNat - span.first) % span.step = 0).map
      fun span => (shiftLast (c.toNat - span.first) span.target).map Char.ofNat

end CharMap

end ModelRuns
