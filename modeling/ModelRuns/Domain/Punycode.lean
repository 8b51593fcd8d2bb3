import ModelRuns.Number.Power

namespace ModelRuns

/-!
# Characters in plain letters and digits

A label with characters outside ASCII is also written with letters, digits and
hyphens alone.  Its ASCII characters come first, and after a hyphen follows where
the others belong: each is a number that counts how far to go on from the place
and the code point of the one before.  Numbers have digits in base thirty-six,
the last of which is below a threshold that follows the size of the numbers read
so far.
-/

namespace Punycode

/-- The base of the numbers. -/
def base : Nat := 36

/-- The code point before which all characters stand for themselves. -/
def firstPoint : Nat := 0x80

/-- The threshold follows this before any number is read. -/
def firstBias : Nat := 72

/-- The value of a digit: letters of either case come before the figures. -/
def digitValue? (c : Char) : Option Nat :=
  if c.isDigit then some (c.toNat - '0'.toNat + 26)
  else if c.isAlpha then some (c.toLower.toNat - 'a'.toNat)
  else none

def digit (value : Nat) : Char :=
  Char.ofNat (if value < 26 then 'a'.toNat + value else '0'.toNat + value - 26)

/-- The threshold below which a digit is the last one.  `weight` counts the
digits in steps of the base. -/
def threshold (bias weight : Nat) : Nat :=
  if weight ≤ bias then 1 else if bias + 26 ≤ weight then 26 else weight - bias

theorem threshold_pos (bias weight : Nat) : 0 < threshold bias weight := by
  unfold threshold
  split
  · exact Nat.one_pos
  · split <;> omega

/-- Scale a number down to what the thresholds follow. -/
def damp (delta weight : Nat) : Nat :=
  if 455 < delta then damp (delta / 35) (weight + base)
  else weight + base * delta / (delta + 38)
termination_by delta
decreasing_by exact Nat.div_lt_self (by omega) (by decide)

/-- What the thresholds follow after a number.  `count` characters are known
then. -/
def adapt (delta count : Nat) (isFirst : Bool) : Nat :=
  let delta := if isFirst then delta / 700 else delta / 2
  damp (delta + delta / count) 0

/-! ## Reading -/

/-- No number may be larger. -/
def largestNumber : Nat := largestWord32

/-- Read a number and give what is left. -/
def readNumber (bias weight scale : Nat) (value : Nat) : List Char → Option (Nat × List Char)
  | [] => none
  | c :: rest =>
    match digitValue? c with
    | none => none
    | some digit =>
      let value := value + digit * scale
      let threshold := threshold bias weight
      if largestNumber < value then none
      else if digit < threshold then some (value, rest)
      else
        let scale := scale * (base - threshold)
        if largestNumber < scale then none
        else readNumber bias (weight + base) scale value rest

/-- A number takes at least one digit. -/
theorem length_of_readNumber {text rest : List Char} {bias weight scale value number : Nat}
    (read : readNumber bias weight scale value text = some (number, rest)) :
    rest.length < text.length := by
  induction text generalizing weight scale value with
  | nil => simp [readNumber] at read
  | cons c tail inductionHypothesis =>
    unfold readNumber at read
    split at read
    · simp at read
    · simp only at read
      split at read
      · simp at read
      · split at read
        · cases read
          simp
        · split at read
          · simp at read
          · have shorter := inductionHypothesis read
            simp only [List.length_cons]
            omega

/-- A character by its code point. -/
def charOf? (point : Nat) : Option Char :=
  if Nat.isValidChar point then some (Char.ofNat point) else none

/-- Put the characters of some numbers into a text.  `point` is the code point
of the last one and `place` the place after it, or zero before the first one. -/
def insertFrom (text : List Char) (point place bias : Nat) (digits : List Char) :
    Option (List Char) :=
  if digits.isEmpty then some text
  else match read : readNumber bias base 1 0 digits with
    | none => none
    | some (delta, rest) =>
      let count := text.length + 1
      let bias := adapt delta count (place = 0)
      let point := point + (place + delta) / count
      let place := (place + delta) % count
      (charOf? point).bind fun c =>
        insertFrom (text.take place ++ c :: text.drop place) point (place + 1) bias rest
termination_by digits.length
decreasing_by exact length_of_readNumber read

/-- The characters after the last hyphen. -/
def afterHyphen (text : List Char) : List Char :=
  (text.reverse.takeWhile (· ≠ '-')).reverse

/-- Read a label.  A hyphen that nothing stands before is none. -/
def decode (text : List Char) : Option (List Char) :=
  let digits := afterHyphen text
  match text.take (text.length - digits.length) with
  | ['-'] => none
  | front => insertFrom front.dropLast firstPoint 0 firstBias digits

/-! ## Writing -/

/-- The digits of a number. -/
def writeNumber (bias weight number : Nat) : List Char :=
  let lowest := threshold bias weight
  if number < lowest then [digit number]
  else
    digit (lowest + (number - lowest) % (base - lowest)) ::
      writeNumber bias (weight + base) ((number - lowest) / (base - lowest))
termination_by number
decreasing_by
  have positive := threshold_pos bias weight
  have smaller := Nat.div_le_self (number - threshold bias weight) (base - threshold bias weight)
  omega

/-- How far writing has come. -/
structure Progress where
  written : List Char
  /-- How far to go on from the character before. -/
  delta : Nat
  bias : Nat
  /-- The number of characters that are known. -/
  known : Nat

/-- Write where a character belongs, if it has the code point that is due.
`plain` is the number of ASCII characters. -/
def Progress.pass (plain point : Nat) (progress : Progress) (c : Char) : Progress :=
  if c.toNat < point then { progress with delta := progress.delta + 1 }
  else if c.toNat = point then
    { written := progress.written ++ writeNumber progress.bias base progress.delta
      delta := 0
      bias := adapt progress.delta (progress.known + 1) (progress.known = plain)
      known := progress.known + 1 }
  else progress

/-- Write where the characters of some code points belong.  `next` is the first
code point that was not looked for. -/
def Progress.write (text : List Char) (plain : Nat) (next : Nat) (progress : Progress) :
    List Nat → Progress
  | [] => progress
  | point :: points =>
    let ready := { progress with
      delta := progress.delta + (point - next) * (progress.known + 1) }
    let passed := text.foldl (Progress.pass plain point) ready
    Progress.write text plain (point + 1) { passed with delta := passed.delta + 1 } points

/-- The ASCII characters of a label. -/
def plainChars (text : List Char) : List Char := text.filter (·.toNat < firstPoint)

/-- The other code points of a label in order, each one once. -/
def otherPoints (text : List Char) : List Nat :=
  ((text.map Char.toNat).filter (firstPoint ≤ ·)).mergeSort.eraseReps

/-- Write a label. -/
def encode (text : List Char) : List Char :=
  let plain := plainChars text
  let start : Progress := ⟨[], 0, firstBias, plain.length⟩
  plain ++ (if plain.isEmpty then [] else ['-']) ++
    (start.write text plain.length firstPoint (otherPoints text)).written

end Punycode

end ModelRuns
