import ModelRuns.Proofs.Invocation.Replay

namespace ModelRuns

/-!
# Switches seen without reading

Whether a run resumes, empties the logs or replays with debugging is decided before
its command line is read, by looking for a token anywhere in it.  The reader knows
more about a token: it may be the value of a flag, or stand behind the separator.

On a command line that is accepted both say the same.  A token that spells a switch
is never taken as a value, since it begins with a dash, and nothing is accepted
behind the separator; and a switch has no other spelling.
-/

/-! ## One token -/

/-- What a flag of the pipeline is written as is read as that flag, without a value. -/
theorem classify_token {mode : Mode} {flag : Flag} (known : flag ∈ Flag.ofMode mode) :
    Token.classify mode flag.token = .flag flag none := by
  have spelled : ∀ mode : Mode, ∀ flag ∈ Flag.ofMode mode,
      Token.classify mode flag.token = .flag flag none := by
    intro mode
    cases mode <;> decide +kernel
  exact spelled mode flag known

/-- A token that is read as anything else is not what the flag is written as. -/
theorem token_ne_of_classify {mode : Mode} {flag : Flag} {token : String} {kind : Token}
    (known : flag ∈ Flag.ofMode mode) (read : Token.classify mode token = kind)
    (other : kind ≠ .flag flag none) : flag.token ≠ token := by
  rintro rfl
  rw [classify_token known] at read
  exact other read.symm

/-! ## What is settled -/

section

variable {given settled : Given} {flag switch : Flag}

theorem has_settle {text : Option String} (done : settle given flag text = .ok settled) :
    Given.has settled switch = (flag == switch || Given.has given switch) := by
  unfold settle at done
  split at done
  next => cases done
  next =>
    split at done
    next => cases done
    next =>
      cases value : readFlagValue flag text with
      | error fault =>
        rw [value] at done
        cases done
      | ok value =>
        rw [value] at done
        cases done
        rfl

theorem has_settle_of_ne {text : Option String} (done : settle given flag text = .ok settled)
    (other : flag ≠ switch) : Given.has settled switch = Given.has given switch := by
  have missed : (flag == switch) = false := beq_eq_false_iff_ne.mpr other
  rw [has_settle done, missed, Bool.false_or]

theorem has_settleOpen {waiting : OpenFlag} (done : settleOpen given waiting = .ok settled)
    (other : ∀ text, waiting ≠ some (switch, text)) :
    Given.has settled switch = Given.has given switch := by
  cases waiting with
  | none =>
    cases done
    rfl
  | some pair =>
    apply has_settle_of_ne done
    intro same
    exact other pair.2 (by rw [← same])

end

/-! ## All tokens -/

/-- A switch of an accepted command line was given exactly if its token is there. -/
theorem Accepted.has_eq {mode : Mode} {given result : Given} {waiting : OpenFlag}
    {tokens : List String} {switch : Flag} (accepted : Accepted mode given waiting tokens result)
    (known : switch ∈ Flag.ofMode mode) (form : switch.form = .switch)
    (other : ∀ text, waiting ≠ some (switch, text)) :
    Given.has result switch = (Given.has given switch || tokens.contains switch.token) := by
  -- The open flag is never the switch, which takes no value: so neither settling the open flag
  -- nor giving it a value changes whether the switch was given.
  induction accepted with
  | ended settled => rw [has_settleOpen settled other, List.contains_nil, Bool.or_false]
  | @separated given result waiting settled =>
    have different := token_ne_of_classify known (classify_separatorToken mode) (by simp)
    rw [has_settleOpen settled other]
    simp [different]
  | @value given result flag token text rest plain _ inductionHypothesis =>
    have different := token_ne_of_classify known plain (by simp)
    have waits : ∀ value, some (flag, some text) ≠ some (switch, value) := by
      rintro _ ⟨⟩
      exact other none rfl
    rw [inductionHypothesis waits]
    simp [different]
  | @complete given settled more result waiting flag token text rest found complete before here _
      inductionHypothesis =>
    rw [inductionHypothesis (by simp)]
    by_cases same : flag = switch
    · subst same
      have bare : text = none := by
        rcases complete with ⟨_, none⟩ | ⟨valued, _⟩
        · exact none
        · exact absurd form valued
      subst bare
      have spelled : token = flag.token := eq_token_of_classify found
      rw [has_settle here]
      simp [spelled]
    · have different := token_ne_of_classify known found (by simp [same])
      rw [has_settle_of_ne here same, has_settleOpen before other]
      simp [different]
  | @opened given settled result waiting flag token rest found takes before _
      inductionHypothesis =>
    have same : flag ≠ switch := by
      rintro rfl
      exact takes form
    have different := token_ne_of_classify known found (by simp [same])
    rw [inductionHypothesis (by simp [same]), has_settleOpen before other]
    simp [different]

/-! ## Whole command lines -/

/-- No flag is written as the name of the program or the word for the mode, so looking among
the tokens that are read as options is looking anywhere. -/
theorem Mode.contains_optionTokens {arguments : List String} {token : String}
    (notProgram : ∀ program ∈ arguments.head?, program ≠ token) (notWord : token ≠ clusterWord) :
    ((Mode.ofArguments arguments).optionTokens arguments).contains token =
      arguments.contains token := by
  cases arguments with
  | nil =>
    cases Mode.ofArguments [] <;> rfl
  | cons program rest =>
    have first : token ≠ program := (notProgram program rfl).symm
    rw [Mode.ofArguments_cons]
    by_cases cluster : rest.head? = some clusterWord
    · rcases List.head?_eq_some_iff.mp cluster with ⟨more, rfl⟩
      simp [Mode.optionTokens, first, notWord]
    · simp [Mode.optionTokens, cluster, first]

/-- The flags of an accepted command line include a switch of both pipelines exactly if its
token is somewhere in the line. -/
theorem Invocation.given_of_read {arguments : List String} {invocation : Invocation}
    (read : Invocation.read arguments = .ok invocation) :
    ∃ given : Given, invocation.common = given.commonOptions ∧
      ∀ switch ∈ Flag.common, switch.form = .switch → switch.token ≠ clusterWord →
        (∀ program ∈ arguments.head?, program ≠ switch.token) →
        arguments.contains switch.token = Given.has given switch := by
  rcases (Invocation.read_ok_iff arguments invocation).mp read with ⟨given, accepted, _, rfl⟩
  refine ⟨given, ?_, ?_⟩
  · cases Mode.ofArguments arguments <;> rfl
  · intro switch known form notWord notProgram
    have listed : switch ∈ Flag.ofMode (Mode.ofArguments arguments) := by
      cases Mode.ofArguments arguments <;> exact List.mem_append_left _ known
    have walked := accepted.has_eq listed form (by simp)
    rw [Mode.contains_optionTokens notProgram notWord] at walked
    exact walked.symm

/-- On a command line that is accepted, and whose name for the program is none of the three
tokens, looking for a token anywhere says what the reader says: whether the run resumes,
whether it empties the logs and whether it is debugged. -/
theorem Invocation.contains_eq_of_read (arguments : List String) (invocation : Invocation)
    (read : Invocation.read arguments = .ok invocation)
    (named : ∀ program ∈ arguments.head?, program ∉ [resumeToken, clearLogsToken, debugToken]) :
    arguments.contains resumeToken = invocation.common.resume ∧
      arguments.contains clearLogsToken = invocation.common.clearLogs ∧
      (debugToken ∈ arguments ↔ invocation.common.debug = true) := by
  rcases Invocation.given_of_read read with ⟨given, common, agrees⟩
  have notProgram : ∀ token ∈ [resumeToken, clearLogsToken, debugToken],
      ∀ program ∈ arguments.head?, program ≠ token := by
    rintro token listed program first rfl
    exact named program first listed
  have resumes := agrees .resume (by decide) rfl (by decide) (notProgram resumeToken (by simp))
  have clears := agrees .clearLogs (by decide) rfl (by decide)
    (notProgram clearLogsToken (by simp))
  have debugs := agrees .debug (by decide) rfl (by decide) (notProgram debugToken (by simp))
  rw [common]
  refine ⟨resumes, clears, ?_⟩
  rw [← List.contains_iff_mem]
  exact Bool.eq_iff_iff.mp debugs

/-- A command line whose tokens hide what they ask for: the token to resume is there only as
the value of another flag, debugging stands where a flag could have its value, and the
separator ends the line. -/
def hiddenArguments : List String :=
  ["bigmler", "cluster", "--tag=--resume", "--cluster-datasets", "--debug", "--clear-logs", "--"]

/-- Of the three only resuming is not asked for there. -/
theorem Invocation.contains_eq_of_read_hidden :
    ∃ invocation, Invocation.read hiddenArguments = .ok invocation ∧
      invocation.common.tags = ["--resume"] ∧
      hiddenArguments.contains resumeToken = false ∧ invocation.common.resume = false ∧
      hiddenArguments.contains clearLogsToken = true ∧ invocation.common.clearLogs = true ∧
      debugToken ∈ hiddenArguments ∧ invocation.common.debug = true := by
  have read : Invocation.read hiddenArguments = .ok (.cluster (Given.clusterOptions
      [(.clearLogs, .on), (.debug, .on), (.clusterDatasets, .text ""),
        (.tag, .text "--resume")])) := rfl
  rcases Invocation.contains_eq_of_read hiddenArguments _ read (by decide) with
    ⟨resumes, clears, debugs⟩
  exact ⟨_, read, rfl, resumes.trans rfl, rfl, clears.trans rfl, rfl, debugs.mpr rfl, rfl⟩

end ModelRuns
