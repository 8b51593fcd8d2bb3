import ModelRuns.Proofs.Command.RoundTrip

namespace ModelRuns

/-!
# Commands with more text behind them

A line that reads as a command keeps its tokens when a space and more text are put behind
it.  This holds of every line the reader takes, and not only of those that were written as
the text of a command: single quotes, double quotes and bare backslashes may stand in any mix.

What carries it is where the reader stands behind such a line.  A line that ends between
quotes, or on a backslash, is refused, so behind a line that was taken the reader is outside
quotes and owes no escaped character.  Some tokens are complete and one may be open; the
space completes it, and the text behind is read as if it stood alone.
-/

namespace CommandText

/-! ## Where the reader stands -/

/-- If the reader takes a text, some tokens are complete behind it, one may be open, and
whatever follows is read on from there, outside quotes. -/
def ReadsOn (scan : List Char → Except Fault (List (List Char))) (text : List Char) : Prop :=
  ∀ tokens, scan text = .ok tokens →
    ∃ complete opened, tokens = complete ++ finished opened ∧
      ∀ rest, scan (text ++ rest) = (scanBare opened rest).map (complete ++ ·)

theorem map_nil_append (result : Except Fault (List (List Char))) :
    result.map ([] ++ ·) = result := by
  cases result <;> rfl

theorem map_append_append (complete before : List (List Char))
    (result : Except Fault (List (List Char))) :
    (result.map (before ++ ·)).map (complete ++ ·) = result.map (complete ++ before ++ ·) := by
  cases result with
  | error fault => rfl
  | ok tokens => exact congrArg Except.ok (List.append_assoc complete before tokens).symm

namespace ReadsOn

variable {scan next : List Char → Except Fault (List (List Char))} {text remaining : List Char}

theorem of_fault {fault : Fault} (refused : scan text = .error fault) : ReadsOn scan text := by
  intro tokens read
  rw [refused] at read
  cases read

theorem empty (current : Option (List Char)) : ReadsOn (scanBare current) [] := by
  intro tokens read
  cases read
  exact ⟨[], current, rfl, fun rest => (map_nil_append _).symm⟩

/-- A step of the reader that completes some tokens. -/
theorem behind (before : List (List Char))
    (step : ∀ rest, scan (text ++ rest) = (next (remaining ++ rest)).map (before ++ ·))
    (readsOn : ReadsOn next remaining) : ReadsOn scan text := by
  intro tokens read
  have first : scan text = (next remaining).map (before ++ ·) := by
    simpa using step []
  cases later : next remaining with
  | error fault =>
    rw [first, later] at read
    cases read
  | ok laterTokens =>
    rw [first, later] at read
    cases read
    obtain ⟨complete, opened, rfl, continued⟩ := readsOn laterTokens later
    refine ⟨before ++ complete, opened, (List.append_assoc _ _ _).symm, fun rest => ?_⟩
    rw [step, continued, map_append_append]

/-- A step of the reader that completes no token. -/
theorem within (step : ∀ rest, scan (text ++ rest) = next (remaining ++ rest))
    (readsOn : ReadsOn next remaining) : ReadsOn scan text :=
  readsOn.behind [] fun rest => (step rest).trans (map_nil_append _).symm

end ReadsOn

/-- A character with these two properties is no backslash; the reader looks for one with
nothing behind it and for one with a character behind it. -/
theorem ne_backslash {c : Char} {rest : List Char} (notLast : c = '\\' → rest = [] → False)
    (notEscape : ∀ escaped later, c = '\\' → rest = escaped :: later → False) : c ≠ '\\' := by
  intro equal
  cases rest with
  | nil => exact notLast equal rfl
  | cons escaped later => exact notEscape escaped later equal rfl

/-- By the recursion of the reader, with one statement for each of its three states. -/
theorem readsOn_scanBare (current : Option (List Char)) (text : List Char) :
    ReadsOn (scanBare current) text := by
  refine scanBare.induct (fun current text => ReadsOn (scanBare current) text)
    (fun current text => ReadsOn (scanDouble current) text)
    (fun current text => ReadsOn (scanSingle current) text)
    ?bareEnd ?space ?tab ?singleQuote ?doubleQuote ?bareLastBackslash ?bareEscape ?barePlain
    ?doubleEnd ?doubleClose ?doubleLastBackslash ?doubleEscape ?doublePlain
    ?singleEnd ?singleClose ?singlePlain current text
  case bareEnd =>
    intro current
    exact ReadsOn.empty current
  -- A separator completes the open token; nothing else does.
  case space =>
    intro current rest readsOn
    exact readsOn.behind (finished current) fun _ => rfl
  case tab =>
    intro current rest readsOn
    exact readsOn.behind (finished current) fun _ => rfl
  case singleQuote =>
    intro current rest readsOn
    exact readsOn.within fun _ => rfl
  case doubleQuote =>
    intro current rest readsOn
    exact readsOn.within fun _ => rfl
  -- A text behind would be read as the escaped character, so it matters that this line is
  -- refused; the same goes for a line that ends between quotes.
  case bareLastBackslash =>
    intro current
    exact ReadsOn.of_fault rfl
  case bareEscape =>
    intro current c rest readsOn
    exact readsOn.within fun _ => rfl
  case barePlain =>
    intro current c rest noSpace noTab noSingle noDouble notLast notEscape readsOn
    have notSpecial : ∀ special ∈ [' ', '\t', '\'', '"', '\\'], c ≠ special := by
      simpa using ⟨noSpace, noTab, noSingle, noDouble, ne_backslash notLast notEscape⟩
    exact readsOn.within fun behind => scanBare_plain current c (rest ++ behind) notSpecial
  case doubleEnd =>
    intro current
    exact ReadsOn.of_fault rfl
  case doubleClose =>
    intro current rest readsOn
    exact readsOn.within fun _ => rfl
  case doubleLastBackslash =>
    intro current
    exact ReadsOn.of_fault rfl
  case doubleEscape =>
    intro current c rest readsOn
    exact readsOn.within fun _ => rfl
  case doublePlain =>
    intro current c rest noQuote notLast notEscape readsOn
    exact readsOn.within fun behind =>
      scanDouble_plain current c (rest ++ behind) noQuote (ne_backslash notLast notEscape)
  case singleEnd =>
    intro current
    exact ReadsOn.of_fault rfl
  case singleClose =>
    intro current rest readsOn
    exact readsOn.within fun _ => rfl
  case singlePlain =>
    intro current c rest noQuote readsOn
    exact readsOn.within fun behind => by rw [List.cons_append, scanSingle]; exact noQuote

/-- Behind a text that was taken, a space separates it from all that follows. -/
theorem splitChars_append_space {text : List Char} {tokens : List (List Char)}
    (read : splitChars text = .ok tokens) (rest : List Char) :
    splitChars (text ++ ' ' :: rest) = (splitChars rest).map (tokens ++ ·) := by
  obtain ⟨complete, opened, rfl, continued⟩ := readsOn_scanBare none text tokens read
  calc splitChars (text ++ ' ' :: rest)
      = (scanBare opened (' ' :: rest)).map (complete ++ ·) := continued (' ' :: rest)
    _ = ((splitChars rest).map (finished opened ++ ·)).map (complete ++ ·) := rfl
    _ = (splitChars rest).map (complete ++ finished opened ++ ·) :=
        map_append_append complete (finished opened) (splitChars rest)

/-! ## Lines -/

theorem split_ok_iff (line : String) (tokens : List String) :
    split line = .ok tokens ↔ splitChars line.toList = .ok (tokens.map String.toList) := by
  unfold split
  cases splitChars line.toList with
  | error fault => simp
  | ok read =>
    constructor
    · intro same
      cases same
      simp
    · intro same
      cases same
      simp

/-- A line that is no command is refused for one of two reasons, in words that quote it. -/
theorem split_error_iff (line : String) (failure : Failure) :
    split line = .error failure ↔
      ∃ fault, splitChars line.toList = .error fault ∧
        failure = .corruptLog (fault.message line) := by
  unfold split
  cases splitChars line.toList with
  | error fault => simp [eq_comm]
  | ok read => simp

theorem splitChars_joined {first : String} {tokens : List String}
    (read : split first = .ok tokens) (second : String) :
    splitChars (first ++ " " ++ second).toList =
      (splitChars second.toList).map (tokens.map String.toList ++ ·) := by
  have spaced : (first ++ " " ++ second).toList = first.toList ++ ' ' :: second.toList := by
    simp
  rw [spaced, splitChars_append_space ((split_ok_iff first tokens).mp read)]

theorem split_joined_ok {first second : String} {tokens more : List String}
    (read : split first = .ok tokens) (readMore : split second = .ok more) :
    split (first ++ " " ++ second) = .ok (tokens ++ more) := by
  rw [split_ok_iff, splitChars_joined read, (split_ok_iff second more).mp readMore,
    List.map_append]
  rfl

/-- A line with two commands is refused for the reason for which the second one is, and its
words quote the whole line. -/
theorem split_joined_error {first second : String} {tokens : List String} {fault : Fault}
    (read : split first = .ok tokens) (refused : splitChars second.toList = .error fault) :
    split (first ++ " " ++ second) =
      .error (.corruptLog (fault.message (first ++ " " ++ second))) := by
  rw [split_error_iff]
  refine ⟨fault, ?_, rfl⟩
  rw [splitChars_joined read, refused]
  rfl

/-- A command that is read keeps its tokens when a space and more text are put behind it: the
tokens of that text follow if it is a command itself, as it is when it was written as one, and
otherwise the line is refused for the reason for which that text is. -/
theorem split_extended (first : String) (tokens : List String) (read : split first = .ok tokens) :
    (∀ second more, split second = .ok more →
      split (first ++ " " ++ second) = .ok (tokens ++ more)) ∧
    (∀ second failure, split second = .error failure →
      ∃ fault : Fault, failure = .corruptLog (fault.message second) ∧
        split (first ++ " " ++ second) =
          .error (.corruptLog (fault.message (first ++ " " ++ second)))) ∧
    ∀ more, split (first ++ " " ++ join more) = .ok (tokens ++ more) := by
  refine ⟨?commands, ?refusals, ?written⟩
  case commands =>
    intro second more readMore
    exact split_joined_ok read readMore
  case refusals =>
    intro second failure refused
    obtain ⟨fault, found, worded⟩ := (split_error_iff second failure).mp refused
    exact ⟨fault, worded, split_joined_error read found⟩
  case written =>
    intro more
    exact split_joined_ok read (join_reads_back more)

/-- A command as it may stand in a log that was edited by hand. -/
def handEdited : String := "bigmler 'my model' a\\ b"

/-- A quoted token may follow it, one whose quote is not closed is refused, and any token may
be written behind it. -/
theorem split_extended_handEdited :
    split handEdited = .ok ["bigmler", "my model", "a b"] ∧
    split "\"it's \\\"mine\\\"\" --debug" = .ok ["it's \"mine\"", "--debug"] ∧
    split (handEdited ++ " " ++ "\"it's \\\"mine\\\"\" --debug") =
      .ok ["bigmler", "my model", "a b", "it's \"mine\"", "--debug"] ∧
    split "'open" = .error (.corruptLog "unterminated quote in `'open`") ∧
    (∃ fault : Fault, Failure.corruptLog "unterminated quote in `'open`" =
        .corruptLog (fault.message "'open") ∧
      split (handEdited ++ " " ++ "'open") =
        .error (.corruptLog (fault.message (handEdited ++ " " ++ "'open")))) ∧
    split (handEdited ++ " " ++ join ["", "$HOME\n"]) =
      .ok ["bigmler", "my model", "a b", "", "$HOME\n"] := by
  have read : split handEdited = .ok ["bigmler", "my model", "a b"] := rfl
  have quoted : split "\"it's \\\"mine\\\"\" --debug" = .ok ["it's \"mine\"", "--debug"] :=
    rfl
  have refused : split "'open" = .error (.corruptLog "unterminated quote in `'open`") :=
    rfl
  rcases split_extended handEdited _ read with ⟨commands, refusals, written⟩
  exact ⟨read, quoted, commands _ _ quoted, refused, refusals _ _ refused, written _⟩

end CommandText

end ModelRuns
