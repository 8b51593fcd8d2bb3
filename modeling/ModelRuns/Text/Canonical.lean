import ModelRuns.Text.CombiningClass
import ModelRuns.Text.Decomposition

namespace ModelRuns

/-!
# The canonical form of a text

Texts that mean the same may be spelled with whole characters or with their
parts, and their marks may come in different orders.  The canonical form takes
everything apart, puts the marks after each other by class, and then puts
together what can be put together.
-/

/-! ## The order of marks -/

/-- Put a character before a text whose marks are in order.  It goes behind the
marks of smaller classes. -/
def insertMark (c : Char) : List Char → List Char
  | [] => [c]
  | d :: rest =>
    if 0 < combiningClass d ∧ combiningClass d < combiningClass c then d :: insertMark c rest
    else c :: d :: rest

def orderMarks (text : List Char) : List Char :=
  text.foldr insertMark []

/-! ## Composition -/

/-- The pairs of characters that another character stands for. -/
def compositionPairs : List (List Nat × Char) :=
  decompositions.spans.filterMap fun span =>
    if span.target.length = 2 ∧ compositionExclusions.contains (Char.ofNat span.first) = false then
      some (span.target, Char.ofNat span.first)
    else none

/-- The character that stands for two others. -/
def joinPair (first second : Char) : Option Char :=
  match joinSyllable first second with
  | some syllable => some syllable
  | none =>
    (compositionPairs.find? fun (parts, _) => parts == [first.toNat, second.toNat]).map (·.2)

/-- Put a character and what follows it together.  `marks` holds the marks that
stay behind it, the last first; only a mark of a larger class than theirs can
still reach it. -/
def composeAfter (starter : Char) (marks : List Char) : List Char → List Char
  | [] => starter :: marks.reverse
  | c :: rest =>
    let reaches := marks.head?.all fun mark => combiningClass mark < combiningClass c
    match (if reaches then joinPair starter c else none) with
    | some whole => composeAfter whole marks rest
    | none =>
      if combiningClass c = 0 then starter :: marks.reverse ++ composeAfter c [] rest
      else composeAfter starter (c :: marks) rest

/-- Put the characters of a text together.  Marks at its beginning have nothing
to combine with. -/
def composeText : List Char → List Char
  | [] => []
  | c :: rest => if combiningClass c = 0 then composeAfter c [] rest else c :: composeText rest

def canonicalForm (text : List Char) : List Char :=
  composeText (orderMarks (text.flatMap decomposeChar))

end ModelRuns
