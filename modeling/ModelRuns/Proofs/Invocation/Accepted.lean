import ModelRuns.Invocation.Reader

namespace ModelRuns

/-!
# Command lines that are accepted

A token of an accepted command line is the separator at its very end, the value
of the flag before it, or a flag.  `Accepted` lists these ways to go on, with what
is settled at each.  The reader accepts exactly such lines, and what it does with
a token does not depend on the tokens behind it; both are used where a command
line is edited.
-/

/-- The token behind which tokens belong to no flag. -/
def separatorToken : String := "--"

/-- The flag at a token needs no further token: it is a switch, or its value was
given with it. -/
def Flag.IsComplete (flag : Flag) (value : Option String) : Prop :=
  flag.form = .switch ∧ value = none ∨ flag.form ≠ .switch ∧ value.isSome = true

/-- Tokens behind those that gave `given` and left a flag open are accepted, and
give the result. -/
inductive Accepted (mode : Mode) : Given → OpenFlag → List String → Given → Prop
  | ended {given result : Given} {waiting : OpenFlag}
      (settled : settleOpen given waiting = .ok result) :
      Accepted mode given waiting [] result
  | separated {given result : Given} {waiting : OpenFlag}
      (settled : settleOpen given waiting = .ok result) :
      Accepted mode given waiting [separatorToken] result
  | value {given result : Given} {flag : Flag} {token text : String} {rest : List String}
      (plain : Token.classify mode token = .plain text)
      (behind : Accepted mode given (some (flag, some text)) rest result) :
      Accepted mode given (some (flag, none)) (token :: rest) result
  | complete {given settled more result : Given} {waiting : OpenFlag} {flag : Flag}
      {token : String} {text : Option String} {rest : List String}
      (found : Token.classify mode token = .flag flag text) (complete : flag.IsComplete text)
      (before : settleOpen given waiting = .ok settled)
      (here : settle settled flag text = .ok more) (behind : Accepted mode more none rest result) :
      Accepted mode given waiting (token :: rest) result
  | opened {given settled result : Given} {waiting : OpenFlag} {flag : Flag} {token : String}
      {rest : List String} (found : Token.classify mode token = .flag flag none)
      (takes : flag.form ≠ .switch) (before : settleOpen given waiting = .ok settled)
      (behind : Accepted mode settled (some (flag, none)) rest result) :
      Accepted mode given waiting (token :: rest) result

/-! ## One token -/

theorem classify_separatorToken (mode : Mode) :
    Token.classify mode separatorToken = .separator := rfl

theorem eq_separatorToken_of_classify {mode : Mode} {token : String}
    (separator : Token.classify mode token = .separator) : token = separatorToken := by
  have notHelp : ∀ value : Option String, value.elim Token.help Token.helpValue ≠ .separator := by
    rintro (none | value) <;> simp
  unfold Token.classify at separator
  split at separator
  next characters => exact String.toList_inj.mp characters
  next =>
    dsimp only at separator
    split at separator
    next => exact absurd separator (notHelp _)
    next => split at separator <;> cases separator
  all_goals cases separator

/-- A flag without a value is written as its token and in no other way. -/
theorem eq_token_of_classify {mode : Mode} {token : String} {flag : Flag}
    (bare : Token.classify mode token = .flag flag none) : token = flag.token := by
  have notHelp : ∀ value : Option String,
      value.elim Token.help Token.helpValue ≠ .flag flag none := by
    rintro (none | value) <;> simp
  unfold Token.classify at bare
  split at bare
  next => cases bare
  next rest _ characters =>
    dsimp only at bare
    split at bare
    next => exact absurd bare (notHelp _)
    next =>
      split at bare
      next found named =>
        injection bare with same noValue
        subst same
        have name : found.text = String.ofList (rest.takeWhile (· ≠ '=')) := by
          simpa using List.find?_some named
        have ended : rest.dropWhile (· ≠ '=') = [] := by
          cases value : rest.dropWhile (· ≠ '=') with
          | nil => rfl
          | cons c more =>
            rw [value] at noValue
            cases noValue
        have whole : rest.takeWhile (· ≠ '=') = rest := by
          have parts := List.takeWhile_append_dropWhile (p := (· ≠ '=')) (l := rest)
          rwa [ended, List.append_nil] at parts
        rw [← String.toList_inj, characters, Flag.token, name, whole]
        simp
      next => cases bare
  all_goals cases bare

section

variable {mode : Mode} {given settled more : Given} {waiting : OpenFlag} {flag : Flag}
  {token text : String} {value : Option String}

theorem readTokens_value (plain : Token.classify mode token = .plain text)
    (rest : List String) :
    readTokens mode given (some (flag, none)) (token :: rest) =
      readTokens mode given (some (flag, some text)) rest := by
  rw [readTokens.eq_def]
  simp only [plain]

theorem readTokens_complete (found : Token.classify mode token = .flag flag value)
    (complete : flag.IsComplete value) (before : settleOpen given waiting = .ok settled)
    (here : settle settled flag value = .ok more) (rest : List String) :
    readTokens mode given waiting (token :: rest) = readTokens mode more none rest := by
  rw [readTokens.eq_def]
  rcases complete with ⟨switch, rfl⟩ | ⟨valued, present⟩
  · simp [found, switch, before, here]
  · simp [found, valued, present, before, here]

theorem readTokens_opened (found : Token.classify mode token = .flag flag none)
    (takes : flag.form ≠ .switch) (before : settleOpen given waiting = .ok settled)
    (rest : List String) :
    readTokens mode given waiting (token :: rest) =
      readTokens mode settled (some (flag, none)) rest := by
  rw [readTokens.eq_def]
  simp [found, takes, before]

end

/-! ## All tokens -/

theorem accepted_of_readTokens {mode : Mode} {given result : Given} {waiting : OpenFlag}
    {tokens : List String} (read : readTokens mode given waiting tokens = .ok result) :
    Accepted mode given waiting tokens result := by
  induction tokens generalizing given waiting with
  | nil => exact .ended read
  | cons token rest inductionHypothesis =>
    rw [readTokens.eq_def] at read
    cases kind : Token.classify mode token with
    | separator =>
      simp only [kind] at read
      rw [eq_separatorToken_of_classify kind]
      cases rest with
      | nil => exact .separated read
      | cons next rest => cases read
    | help =>
      simp only [kind] at read
      split at read <;> cases read
    | helpValue value => simp [kind] at read
    | refused shown => simp [kind] at read
    | plain text =>
      simp only [kind] at read
      split at read
      next flag => exact .value kind (inductionHypothesis read)
      next => cases read
    | flag flag value =>
      simp only [kind] at read
      split at read
      next => cases read
      next fitting =>
        split at read
        next => cases read
        next settled before =>
          split at read
          next closed =>
            have complete : flag.IsComplete value := by
              cases value with
              | none => exact .inl ⟨by simpa using closed, rfl⟩
              | some text => exact .inr ⟨by simpa using fitting, rfl⟩
            split at read
            next => cases read
            next more here => exact .complete kind complete before here (inductionHypothesis read)
          next unfinished =>
            rcases not_or.mp unfinished with ⟨takes, absent⟩
            have none : value = none := by simpa using absent
            subst none
            exact .opened kind takes before (inductionHypothesis read)

theorem readTokens_of_accepted {mode : Mode} {given result : Given} {waiting : OpenFlag}
    {tokens : List String} (accepted : Accepted mode given waiting tokens result) :
    readTokens mode given waiting tokens = .ok result := by
  induction accepted with
  | ended settled => exact settled
  | separated settled =>
    rw [readTokens.eq_def]
    simpa only [classify_separatorToken] using settled
  | value plain _ inductionHypothesis => rw [readTokens_value plain, inductionHypothesis]
  | complete found complete before here _ inductionHypothesis =>
    rw [readTokens_complete found complete before here, inductionHypothesis]
  | opened found takes before _ inductionHypothesis =>
    rw [readTokens_opened found takes before, inductionHypothesis]

/-- The reader accepts exactly these command lines. -/
theorem readTokens_ok_iff (mode : Mode) (given result : Given) (waiting : OpenFlag)
    (tokens : List String) :
    readTokens mode given waiting tokens = .ok result ↔
      Accepted mode given waiting tokens result :=
  ⟨accepted_of_readTokens, readTokens_of_accepted⟩

namespace Accepted

variable {mode : Mode} {given result : Given} {waiting : OpenFlag} {token : String}
  {tokens rest : List String}

/-- An open flag that can be settled may be settled before the next token. -/
theorem settling {settled : Given} (before : settleOpen given waiting = .ok settled)
    (accepted : Accepted mode settled none tokens result) :
    Accepted mode given waiting tokens result := by
  cases accepted with
  | ended done =>
    cases done
    exact .ended before
  | separated done =>
    cases done
    exact .separated before
  | complete found complete done here behind =>
    cases done
    exact .complete found complete before here behind
  | opened found takes done behind =>
    cases done
    exact .opened found takes before behind

end Accepted

end ModelRuns
