import ModelRuns.Json.Printer
import ModelRuns.Json.Reader

namespace ModelRuns

/-!
# Texts in documents

A text between quotes is read back as it was, whatever characters it holds and whatever
follows it: quotes, backslashes and control characters are escaped, and no other character
has a meaning inside.  There is one lemma for what the reader makes of one written
character, and the text follows by induction.
-/

theorem hexValue?_hexDigit (value : Nat) (small : value < 16) :
    hexValue? (hexDigit value) = some value := by
  have all : ∀ digit : Fin 16, hexValue? (hexDigit digit) = some digit.val := by decide
  exact all ⟨value, small⟩

/-- The digits of a control character are read back. -/
theorem readHex4_control {c : Char} (control : c.toNat < 0x20) (rest : List Char) :
    readHex4 ('0' :: '0' :: hexDigit (c.toNat / 16) :: hexDigit (c.toNat % 16) :: rest) =
      .ok (c.toNat, rest) := by
  have high := hexValue?_hexDigit (c.toNat / 16) (by omega)
  have low := hexValue?_hexDigit (c.toNat % 16) (by omega)
  have zero : hexValue? '0' = some 0 := rfl
  simp only [readHex4, zero, high, low, Except.ok.injEq, Prod.mk.injEq, and_true]
  omega

theorem readEscape_control {c : Char} (control : c.toNat < 0x20) (rest : List Char) :
    readEscape ('u' :: '0' :: '0' :: hexDigit (c.toNat / 16) :: hexDigit (c.toNat % 16) :: rest) =
      .ok (c, rest) := by
  have low : ¬(0xDC00 ≤ c.toNat ∧ c.toNat ≤ 0xDFFF) := by omega
  have high : ¬(0xD800 ≤ c.toNat ∧ c.toNat ≤ 0xDBFF) := by omega
  rw [readEscape, readNumberedEscape, readHex4_control control]
  simp only [low, high, if_false, Char.ofNat_toNat]

/-- The reader takes one written character off the front of a text. -/
theorem readText_escapeChar (turn : Char) (bound done : List Char) (c : Char)
    (rest : List Char) :
    readText (turn :: bound) done (escapeChar c ++ rest) = readText bound (c :: done) rest := by
  have numbered : ∀ value, c.toNat = value → c = Char.ofNat value := fun value same => by
    rw [← same, Char.ofNat_toNat]
  unfold escapeChar
  split
  next same => rw [same]; rfl
  split
  next same => rw [same]; rfl
  split
  next same => rw [same]; rfl
  split
  next same => rw [same]; rfl
  split
  next same => rw [same]; rfl
  split
  next same => rw [numbered 8 same]; rfl
  split
  next same => rw [numbered 12 same]; rfl
  split
  next control =>
    have read := readEscape_control control rest
    simp only [List.cons_append, List.nil_append, readText, read]
  next quote backslash _ _ _ _ _ plain =>
    simp only [List.singleton_append, readText, if_neg plain]

/-- A text between quotes is read back, and what follows it is left. -/
theorem readText_escaped (bound done text rest : List Char) (long : text.length < bound.length) :
    readText bound done (text.flatMap escapeChar ++ '"' :: rest) =
      .ok (String.ofList (done.reverse ++ text), rest) := by
  induction text generalizing bound done with
  | nil =>
    cases bound with
    | nil => simp at long
    | cons turn bound => simp [readText]
  | cons c text inductionHypothesis =>
    cases bound with
    | nil => simp at long
    | cons turn bound =>
      rw [List.flatMap_cons, List.append_assoc, readText_escapeChar, inductionHypothesis]
      · simp
      · simpa using long

theorem escapeChar_ne_nil (c : Char) : escapeChar c ≠ [] := by
  unfold escapeChar
  repeat' split
  all_goals exact List.cons_ne_nil _ _

theorem length_le_escaped (text : List Char) :
    text.length ≤ (text.flatMap escapeChar).length := by
  induction text with
  | nil => exact Nat.le_refl 0
  | cons c text inductionHypothesis =>
    have visible := List.length_pos_iff.mpr (escapeChar_ne_nil c)
    rw [List.flatMap_cons, List.length_append, List.length_cons]
    omega

theorem readQuoted_escaped (text : String) (rest : List Char) :
    readQuoted (text.toList.flatMap escapeChar ++ '"' :: rest) = .ok (text, rest) := by
  rw [readQuoted, readText_escaped, List.reverse_nil, List.nil_append, String.ofList_toList]
  have enough := length_le_escaped text.toList
  rw [List.length_append, List.length_cons]
  omega

end ModelRuns
