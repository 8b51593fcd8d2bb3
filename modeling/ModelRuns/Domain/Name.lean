import ModelRuns.Domain.Direction
import ModelRuns.Domain.Joiner
import ModelRuns.Domain.Punycode
import ModelRuns.Domain.Spelling
import ModelRuns.Text.Canonical

namespace ModelRuns

/-!
# Domain names

The name of a host has labels with dots between them.  `asciiName` brings it
into the form in which it is looked up: every character in its spelling, the
labels in their canonical form, and labels with characters outside ASCII in
letters, digits and hyphens.  A label may come in that last form already, and is
then held to the same rules.
-/

/-- Whether an ASCII character cannot stand in a name: blanks, controls and the
signs that part an address. -/
def isForbiddenInName (c : Char) : Bool :=
  c.toNat ≤ 0x20 || c.toNat = 0x7F ||
    ['#', '%', '/', ':', '<', '>', '?', '@', '[', '\\', ']', '^', '|'].contains c

/-- The canonical form of a name or a part of one. -/
def spellText (text : List Char) : Option (List Char) :=
  (text.mapM spell).map fun parts => canonicalForm parts.flatten

/-- What the written form of a label begins with. -/
def writtenMark : List Char := ['x', 'n', '-', '-']

/-- No label is longer than this. -/
def longestLabel : Nat := 1000

/-- No written form of a label is longer than this, its mark left out. -/
def longestWritten : Nat := 2000

/-- Whether a text is plain ASCII. -/
def isPlain (text : List Char) : Bool := text.all (·.toNat < Punycode.firstPoint)

/-- Whether a label may stand in a name. -/
def isLabel (label : List Char) : Bool :=
  isPlain label ||
    (!label.head?.any isMark && joinersFit [] label && label.length ≤ longestLabel)

/-- The label that a written form stands for.  There must be no other way to
spell it, and it must need to be written that way. -/
def readWritten (written : List Char) : Option (List Char) :=
  if isPlain written = false ∨ written.getLast? = some '-' ∨ written = [] ∨
      longestWritten < written.length then none
  else (Punycode.decode written).filter fun label => spellText label = some label

/-- The label that a part of a name stands for. -/
def readLabel (part : List Char) : Option (List Char) :=
  (if writtenMark.isPrefixOf part then readWritten (part.drop writtenMark.length)
    else some part).filter isLabel

/-- The form in which a label is looked up. -/
def writeLabel (label : List Char) : List Char :=
  if isPlain label then label else writtenMark ++ Punycode.encode label

/-- The form in which a name is looked up, if it is one. -/
def asciiName (name : List Char) : Option (List Char) := do
  let spelled ← spellText name
  let labels ← (splitChars '.' spelled).mapM readLabel
  if labels.any (·.any isForbiddenInName) || !Direction.fit labels then none
  else some (joinChars '.' (labels.map writeLabel))

end ModelRuns
