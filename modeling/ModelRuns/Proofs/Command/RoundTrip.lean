import ModelRuns.Command.Text

namespace ModelRuns

/-!
# A command and its text

The text of a command takes one line and gives the command back.  The reader has
three states, but the writer leaves it in only two of them: a harmless token is
read outside quotes, and every other token between double quotes.  The lemmas
below follow the open token through these two states, with any characters read
before it and any text behind it.
-/

namespace CommandText

/-! ## One line -/

/-- The characters that would end a line of a log or a field of it. -/
def breaksLine (c : Char) : Bool := ['\n', '\r', '\t'].contains c

theorem breaksLine_eq_false (c : Char) :
    breaksLine c = false ↔ c ≠ '\n' ∧ c ≠ '\r' ∧ c ≠ '\t' := by
  simp [breaksLine]

theorem escape_keeps_line (c other : Char) (member : other ∈ escape c) :
    breaksLine other = false := by
  unfold escape at member
  split at member
  case h_8 plain noEscape noQuote noDollar noTick noFeed noReturn noTab =>
    rw [List.mem_singleton] at member
    subst member
    exact (breaksLine_eq_false other).mpr ⟨noFeed, noReturn, noTab⟩
  all_goals
    simp only [List.mem_cons, List.not_mem_nil, or_false] at member
    rcases member with rfl | rfl <;> decide

theorem harmless_keeps_line (c : Char) (harmless : isHarmless c = true) :
    breaksLine c = false := by
  cases breaking : breaksLine c with
  | false => rfl
  | true =>
    have listed : c = '\n' ∨ c = '\r' ∨ c = '\t' := by simpa [breaksLine] using breaking
    rcases listed with rfl | rfl | rfl <;> exact absurd harmless (by decide)

theorem quoteChars_keeps_line (token : List Char) (c : Char) (member : c ∈ quoteChars token) :
    breaksLine c = false := by
  unfold quoteChars at member
  split at member
  case isTrue bare =>
    have harmless := (Bool.and_eq_true_iff.mp bare).2
    exact harmless_keeps_line c (List.all_eq_true.mp harmless c member)
  case isFalse =>
    rcases List.mem_append.mp member with front | last
    · rcases List.mem_cons.mp front with rfl | inside
      · rfl
      · rcases List.mem_flatMap.mp inside with ⟨original, _, escaped⟩
        exact escape_keeps_line original c escaped
    · rw [List.mem_singleton] at last
      subst last
      rfl

/-- A text of several tokens begins with its first token and a space. -/
theorem joinTokens_cons (first second : List Char) (rest : List (List Char)) :
    joinTokens (first :: second :: rest) = quoteChars first ++ ' ' :: joinTokens (second :: rest) :=
  rfl

theorem joinTokens_keeps_line (tokens : List (List Char)) (c : Char)
    (member : c ∈ joinTokens tokens) : breaksLine c = false := by
  induction tokens with
  | nil => cases member
  | cons first rest inductionHypothesis =>
    cases rest with
    | nil =>
      have inFirst : c ∈ quoteChars first := by simpa [joinTokens] using member
      exact quoteChars_keeps_line first c inFirst
    | cons second rest =>
      rw [joinTokens_cons] at member
      rcases List.mem_append.mp member with inFirst | later
      · exact quoteChars_keeps_line first c inFirst
      · rcases List.mem_cons.mp later with rfl | later
        · rfl
        · exact inductionHypothesis later

/-! ## Reading what was written -/

theorem scanDouble_plain (current : List Char) (c : Char) (rest : List Char)
    (noQuote : c ≠ '"') (noEscape : c ≠ '\\') :
    scanDouble current (c :: rest) = scanDouble (c :: current) rest := by
  rw [scanDouble]
  · exact noQuote
  · intro equal
    exact absurd equal noEscape
  · intro _ _ equal
    exact absurd equal noEscape

/-- Between double quotes an escape stands for its character. -/
theorem scanDouble_escape (current : List Char) (c : Char) (rest : List Char) :
    scanDouble current (escape c ++ rest) = scanDouble (c :: current) rest := by
  unfold escape
  split
  case h_8 plain noEscape noQuote noDollar noTick noFeed noReturn noTab =>
    exact scanDouble_plain current c rest noQuote noEscape
  all_goals rfl

theorem scanDouble_escapes (token current rest : List Char) :
    scanDouble current (token.flatMap escape ++ '"' :: rest) =
      scanBare (some (token.reverse ++ current)) rest := by
  induction token generalizing current with
  | nil => rfl
  | cons c token inductionHypothesis =>
    rw [List.flatMap_cons, List.append_assoc, scanDouble_escape, inductionHypothesis,
      List.reverse_cons, List.append_assoc, List.singleton_append]

theorem scanBare_plain (current : Option (List Char)) (c : Char) (rest : List Char)
    (notSpecial : ∀ special ∈ [' ', '\t', '\'', '"', '\\'], c ≠ special) :
    scanBare current (c :: rest) = scanBare (some (c :: current.getD [])) rest := by
  rw [scanBare]
  · exact notSpecial ' ' (by simp)
  · exact notSpecial '\t' (by simp)
  · exact notSpecial '\'' (by simp)
  · exact notSpecial '"' (by simp)
  · intro equal
    exact absurd equal (notSpecial '\\' (by simp))
  · intro _ _ equal
    exact absurd equal (notSpecial '\\' (by simp))

theorem scanBare_harmless_cons (current : Option (List Char)) (c : Char) (rest : List Char)
    (harmless : isHarmless c = true) :
    scanBare current (c :: rest) = scanBare (some (c :: current.getD [])) rest := by
  apply scanBare_plain
  intro special listed equal
  subst equal
  simp only [List.mem_cons, List.not_mem_nil, or_false] at listed
  rcases listed with rfl | rfl | rfl | rfl | rfl <;> exact absurd harmless (by decide)

theorem scanBare_harmless (token current rest : List Char)
    (harmless : token.all isHarmless = true) :
    scanBare (some current) (token ++ rest) = scanBare (some (token.reverse ++ current)) rest := by
  induction token generalizing current with
  | nil => rfl
  | cons c token inductionHypothesis =>
    have parts := Bool.and_eq_true_iff.mp (List.all_cons ▸ harmless)
    rw [List.cons_append, scanBare_harmless_cons _ c _ parts.1, inductionHypothesis _ parts.2,
      Option.getD_some, List.reverse_cons, List.append_assoc, List.singleton_append]

/-- Whichever way a token was written, reading it leaves it open. -/
theorem scanBare_quoteChars (token rest : List Char) :
    scanBare none (quoteChars token ++ rest) = scanBare (some token.reverse) rest := by
  unfold quoteChars
  split
  case isTrue bare =>
    rcases Bool.and_eq_true_iff.mp bare with ⟨nonempty, harmless⟩
    cases token with
    | nil => cases nonempty
    | cons c token =>
      have parts := Bool.and_eq_true_iff.mp (List.all_cons ▸ harmless)
      rw [List.cons_append, scanBare_harmless_cons none c _ parts.1,
        scanBare_harmless token _ rest parts.2, Option.getD_none, List.reverse_cons]
  case isFalse =>
    have opened : scanBare none ('"' :: token.flatMap escape ++ ['"'] ++ rest) =
        scanDouble [] (token.flatMap escape ++ '"' :: rest) := by
      simp [scanBare]
    rw [opened, scanDouble_escapes, List.append_nil]

theorem splitChars_joinTokens (tokens : List (List Char)) :
    splitChars (joinTokens tokens) = .ok tokens := by
  induction tokens with
  | nil => rfl
  | cons first rest inductionHypothesis =>
    cases rest with
    | nil =>
      have written : joinTokens [first] = quoteChars first ++ [] := by simp [joinTokens]
      rw [splitChars, written, scanBare_quoteChars]
      simp [scanBare, finished]
    | cons second rest =>
      rw [splitChars] at inductionHypothesis
      rw [splitChars, joinTokens_cons, scanBare_quoteChars]
      simp [scanBare, finished, inductionHypothesis, Except.map]

/-! ## Strings -/

theorem toList_join (tokens : List String) :
    (join tokens).toList = joinTokens (tokens.map String.toList) := by
  simp [join]

theorem join_keeps_line (tokens : List String) (c : Char) (member : c ∈ (join tokens).toList) :
    c ≠ '\n' ∧ c ≠ '\r' ∧ c ≠ '\t' := by
  rw [toList_join] at member
  exact (breaksLine_eq_false c).mp (joinTokens_keeps_line _ c member)

theorem join_reads_back (tokens : List String) : split (join tokens) = .ok tokens := by
  rw [split, toList_join, splitChars_joinTokens]
  simp

/-- A command takes one line, and the line gives the command back. -/
theorem split_join (tokens : List String) :
    (∀ c ∈ (join tokens).toList, c ≠ '\n' ∧ c ≠ '\r' ∧ c ≠ '\t') ∧
      split (join tokens) = .ok tokens :=
  ⟨join_keeps_line tokens, join_reads_back tokens⟩

end CommandText

end ModelRuns
