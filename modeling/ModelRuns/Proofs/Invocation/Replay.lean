import ModelRuns.Proofs.Command.Resumable
import ModelRuns.Proofs.Invocation.Accepted
import ModelRuns.Run.Invoke

namespace ModelRuns

/-!
# What a replayed command line means

Replaying edits tokens: those that ask for debugging are dropped, and one is put
behind the rest if the resuming command asks for it.  What the tokens mean is
decided by the walk over them, where a token may also be a value, end an optional
value, or stand behind the separator.

Dropping never changes the meaning, since no value begins with a dash and a
switch leaves no flag open.  Putting the token at the end changes nothing else
either, unless the command ends with the separator: behind it no token is a flag,
so such a command is refused when debugging is asked for.
-/

/-! ## Given flags -/

namespace Given

/-- The given flags without debugging. -/
def quiet (given : Given) : Given := given.filter fun entry => entry.1 != .debug

/-- The given flags with debugging as it is asked for. -/
def withDebug (given : Given) (debug : Bool) : Given :=
  if debug then (.debug, .on) :: given.quiet else given.quiet

variable (given : Given)

theorem quiet_keeps {flag : Flag} (other : flag ≠ .debug) (entry : Flag × FlagValue) :
    (entry.1 != .debug && entry.1 == flag) = (entry.1 == flag) := by
  by_cases same : entry.1 = flag
  · have kept : (entry.1 != Flag.debug) = true := by simpa [same] using other
    rw [kept, Bool.true_and]
  · have missed : (entry.1 == flag) = false := beq_eq_false_iff_ne.mpr same
    rw [missed, Bool.and_false]

theorem any_quiet {flag : Flag} (other : flag ≠ .debug) :
    given.quiet.any (·.1 == flag) = given.any (·.1 == flag) := by
  rw [quiet, List.any_filter]
  exact congrArg given.any (funext (quiet_keeps other))

theorem any_quiet_debug : given.quiet.any (·.1 == Flag.debug) = false := by
  rw [quiet, List.any_filter, List.any_eq_false]
  rintro entry _ both
  rcases Bool.and_eq_true_iff.mp both with ⟨different, same⟩
  exact absurd (beq_iff_eq.mp same) (by simpa using different)

variable (debug : Bool)

theorem has_withDebug {flag : Flag} (other : flag ≠ .debug) :
    has (given.withDebug debug) flag = has given flag := by
  have missed : (Flag.debug == flag) = false := beq_eq_false_iff_ne.mpr other.symm
  cases debug with
  | false => exact any_quiet given other
  | true =>
    rw [has, withDebug, if_pos rfl, List.any_cons, missed, Bool.false_or]
    exact any_quiet given other

theorem has_withDebug_debug : has (given.withDebug debug) .debug = debug := by
  cases debug with
  | false => exact any_quiet_debug given
  | true => rfl

theorem value?_withDebug {flag : Flag} (other : flag ≠ .debug) :
    value? (given.withDebug debug) flag = value? given flag := by
  have missed : (Flag.debug == flag) = false := beq_eq_false_iff_ne.mpr other.symm
  have found : given.quiet.find? (·.1 == flag) = given.find? (·.1 == flag) := by
    rw [quiet, List.find?_filter]
    apply congrArg (given.find? ·)
    funext entry
    rw [Bool.decide_and, Bool.decide_eq_true, Bool.decide_eq_true, quiet_keeps other]
  cases debug with
  | false => rw [value?, withDebug, if_neg Bool.false_ne_true, found, value?]
  | true => rw [value?, withDebug, if_pos rfl, List.find?_cons, missed, found, value?]

theorem texts_withDebug {flag : Flag} (other : flag ≠ .debug) :
    texts (given.withDebug debug) flag = texts given flag := by
  have kept : texts given.quiet flag = texts given flag := by
    rw [texts, texts, quiet, ← List.filter_reverse, List.filterMap_filter]
    apply congrArg (List.filterMap · given.reverse)
    funext ⟨found, value⟩
    by_cases dropped : found = .debug
    · subst dropped
      cases value <;> simp [other.symm]
    · simp [dropped]
  cases debug with
  | false => exact kept
  | true =>
    rw [← kept, withDebug, if_pos rfl, texts, List.reverse_cons, List.filterMap_append]
    simp [texts]

/-! ## Options -/

theorem commonOptions_withDebug :
    commonOptions (given.withDebug debug) = { commonOptions given with debug } := by
  simp [commonOptions, text?, path?, fraction?, natural?, has_withDebug, has_withDebug_debug,
    value?_withDebug, texts_withDebug]

theorem mainOptions_withDebug :
    mainOptions (given.withDebug debug) =
      { mainOptions given with common := { (mainOptions given).common with debug } } := by
  simp [mainOptions, commonOptions_withDebug, text?, path?, fraction?, natural?, has_withDebug,
    value?_withDebug]

theorem clusterOptions_withDebug :
    clusterOptions (given.withDebug debug) =
      { clusterOptions given with common := { (clusterOptions given).common with debug } } := by
  simp [clusterOptions, commonOptions_withDebug, text?, path?, natural?, has_withDebug,
    value?_withDebug]

/-- What is kept of the flags is the same if debugging is not kept. -/
theorem filter_withDebug (keep : Flag × FlagValue → Bool)
    (ignored : ∀ value, keep (.debug, value) = false) :
    (given.withDebug debug).reverse.filter keep = given.reverse.filter keep := by
  have quiet : given.quiet.reverse.filter keep = given.reverse.filter keep := by
    rw [Given.quiet, ← List.filter_reverse, List.filter_filter]
    apply congrArg (List.filter · given.reverse)
    funext ⟨flag, value⟩
    by_cases dropped : flag = .debug
    · rw [dropped, ignored, Bool.false_and]
    · have different : (flag != Flag.debug) = true := bne_iff_ne.mpr dropped
      rw [different, Bool.and_true]
  cases debug with
  | false => exact quiet
  | true =>
    rw [← quiet, withDebug, if_pos rfl, List.reverse_cons, List.filter_append,
      List.filter_cons_of_neg (Bool.eq_false_iff.mp (ignored .on)), List.filter_nil,
      List.append_nil]

theorem checkConflict_withDebug (checked : checkConflict given = .ok given) :
    checkConflict (given.withDebug debug) = .ok (given.withDebug debug) := by
  unfold checkConflict at checked ⊢
  rw [given.filter_withDebug debug _ fun _ => rfl]
  generalize List.filter _ given.reverse = conflicting at checked ⊢
  cases conflicting with
  | nil => rfl
  | cons first rest =>
    cases rest with
    | nil => rfl
    | cons second more => cases checked

end Given

/-! ## Settling flags -/

/-- The open flag is not debugging, which never waits for a value. -/
def OpenFlag.TakesValue (waiting : OpenFlag) : Prop :=
  ∀ flag text, waiting = some (flag, text) → flag ≠ .debug

theorem OpenFlag.takesValue_none : OpenFlag.TakesValue none := by
  intro flag text impossible
  cases impossible

theorem OpenFlag.takesValue_some {flag : Flag} (other : flag ≠ .debug) (text : Option String) :
    OpenFlag.TakesValue (some (flag, text)) := by
  rintro _ _ ⟨⟩
  exact other

theorem settle_quiet {given settled : Given} {flag : Flag} {text : Option String}
    (other : flag ≠ .debug) (done : settle given flag text = .ok settled) :
    settle given.quiet flag text = .ok settled.quiet := by
  unfold settle at done ⊢
  rw [Given.any_quiet given other]
  split at done
  next => cases done
  next present =>
    rw [if_neg present]
    split at done
    next => cases done
    next single =>
      rw [if_neg single]
      cases read : readFlagValue flag text with
      | error fault =>
        rw [read] at done
        cases done
      | ok value =>
        rw [read] at done
        cases done
        have kept : (flag != Flag.debug) = true := by simpa using other
        simp [Except.map, Given.quiet, kept]

theorem settleOpen_quiet {given settled : Given} {waiting : OpenFlag}
    (takes : waiting.TakesValue) (done : settleOpen given waiting = .ok settled) :
    settleOpen given.quiet waiting = .ok settled.quiet := by
  cases waiting with
  | none =>
    cases done
    rfl
  | some pair => exact settle_quiet (takes _ _ rfl) done

theorem quiet_of_settle_debug {given settled : Given} {text : Option String}
    (done : settle given .debug text = .ok settled) : settled.quiet = given.quiet := by
  unfold settle at done
  split at done
  next => cases done
  next =>
    split at done
    next => cases done
    next =>
      cases done
      rfl

theorem settle_debug_of_absent {given : Given} (absent : given.any (·.1 == Flag.debug) = false) :
    settle given .debug none = .ok ((.debug, .on) :: given) := by
  simp [settle, absent, lacksValue, Flag.form, readFlagValue, Except.map]

/-! ## Walks over edited tokens -/

theorem classify_debugToken (mode : Mode) :
    Token.classify mode debugToken = .flag .debug none := by
  cases mode <;> decide +kernel

namespace Accepted

variable {mode : Mode} {given result : Given} {waiting : OpenFlag} {tokens : List String}

/-- Dropping the tokens that ask for debugging drops debugging from what is
given. -/
theorem quiet (accepted : Accepted mode given waiting tokens result)
    (takes : waiting.TakesValue) :
    Accepted mode given.quiet waiting (tokens.filter (· ≠ debugToken)) result.quiet := by
  -- The open flag is never debugging itself: that takes no value, so it is not left open.
  induction accepted with
  | ended settled => exact .ended (settleOpen_quiet takes settled)
  | separated settled => exact .separated (settleOpen_quiet takes settled)
  | @value given result flag token text rest plain behind inductionHypothesis =>
    have kept : token ≠ debugToken := by
      rintro rfl
      rw [classify_debugToken] at plain
      cases plain
    have other := takes _ _ rfl
    rw [List.filter_cons_of_pos (by simpa using kept)]
    exact .value plain (inductionHypothesis (OpenFlag.takesValue_some other _))
  | @complete given settled more result waiting flag token text rest found complete before here
      behind inductionHypothesis =>
    have walked := inductionHypothesis OpenFlag.takesValue_none
    by_cases debugging : flag = .debug
    · subst debugging
      have bare : text = none := by
        rcases complete with ⟨_, none⟩ | ⟨valued, _⟩
        · exact none
        · exact absurd rfl valued
      subst bare
      have same : token = debugToken := eq_token_of_classify found
      subst same
      rw [List.filter_cons_of_neg (by simp)]
      rw [quiet_of_settle_debug here] at walked
      exact walked.settling (settleOpen_quiet takes before)
    · have kept : token ≠ debugToken := by
        rintro rfl
        rw [classify_debugToken] at found
        cases found
        exact debugging rfl
      rw [List.filter_cons_of_pos (by simpa using kept)]
      exact .complete found complete (settleOpen_quiet takes before) (settle_quiet debugging here)
        walked
  | @opened given settled result waiting flag token rest found takesMore before behind
      inductionHypothesis =>
    have other : flag ≠ .debug := by
      rintro rfl
      exact takesMore rfl
    have kept : token ≠ debugToken := by
      rintro rfl
      rw [classify_debugToken] at found
      cases found
      exact other rfl
    rw [List.filter_cons_of_pos (by simpa using kept)]
    exact .opened found takesMore (settleOpen_quiet takes before)
      (inductionHypothesis (OpenFlag.takesValue_some other _))

/-- Debugging behind an accepted command line is taken up, unless it stands behind
the separator. -/
theorem readTokens_debug (accepted : Accepted mode given waiting tokens result)
    (absent : result.any (·.1 == Flag.debug) = false) :
    readTokens mode given waiting (tokens ++ [debugToken]) =
      if separatorToken ∈ tokens then .error (.unexpectedArgument debugToken)
      else .ok ((.debug, .on) :: result) := by
  -- Behind the separator every token is refused; before the end of all others it is a switch
  -- that settles the open flag.
  have different : ∀ {token : String} {kind : Token}, Token.classify mode token = kind →
      kind ≠ .separator → separatorToken ≠ token := by
    rintro _ kind classified other rfl
    rw [classify_separatorToken] at classified
    exact other classified.symm
  induction accepted with
  | ended settled =>
    exact readTokens_complete (classify_debugToken mode) (.inl ⟨rfl, rfl⟩) settled
      (settle_debug_of_absent absent) []
  | separated settled =>
    rw [List.cons_append, readTokens.eq_def]
    simp [classify_separatorToken]
  | value plain _ inductionHypothesis =>
    have other := different plain (by simp)
    rw [List.cons_append, readTokens_value plain, inductionHypothesis absent]
    simp [other]
  | complete found complete before here _ inductionHypothesis =>
    have other := different found (by simp)
    rw [List.cons_append, readTokens_complete found complete before here,
      inductionHypothesis absent]
    simp [other]
  | opened found takes before _ inductionHypothesis =>
    have other := different found (by simp)
    rw [List.cons_append, readTokens_opened found takes before, inductionHypothesis absent]
    simp [other]

end Accepted

/-! ## Whole command lines -/

/-- The invocation with debugging as it is asked for, and all else as it was. -/
def Invocation.withDebug (debug : Bool) : Invocation → Invocation
  | .main options => .main { options with common := { options.common with debug } }
  | .cluster options => .cluster { options with common := { options.common with debug } }

/-- Debugging is nothing to object to. -/
theorem Invocation.check_withDebug (debug : Bool) (invocation : Invocation) :
    (invocation.withDebug debug).check = invocation.check := by
  cases invocation <;> rfl

/-- The tokens of a command line that are read as options. -/
def Mode.optionTokens (mode : Mode) (arguments : List String) : List String :=
  match mode with
  | .main => arguments.drop 1
  | .cluster => arguments.drop 2

/-- The invocation of a mode that flags were given for. -/
def Given.invocation (given : Given) : Mode → Invocation
  | .main => .main given.mainOptions
  | .cluster => .cluster given.clusterOptions

theorem Given.invocation_withDebug (given : Given) (debug : Bool) (mode : Mode) :
    (given.withDebug debug).invocation mode = (given.invocation mode).withDebug debug := by
  cases mode with
  | main => exact congrArg Invocation.main (given.mainOptions_withDebug debug)
  | cluster => exact congrArg Invocation.cluster (given.clusterOptions_withDebug debug)

theorem eq_of_checkConflict {given checked : Given} (done : checkConflict given = .ok checked) :
    checked = given := by
  unfold checkConflict at done
  split at done
  next => cases done
  next =>
    cases done
    rfl

theorem Invocation.read_ok_iff (arguments : List String) (invocation : Invocation) :
    Invocation.read arguments = .ok invocation ↔
      ∃ given, Accepted (Mode.ofArguments arguments) [] none
          ((Mode.ofArguments arguments).optionTokens arguments) given ∧
        checkConflict given = .ok given ∧
        invocation = given.invocation (Mode.ofArguments arguments) := by
  unfold Invocation.read
  constructor
  · intro read
    split at read <;> rename_i mode <;> rw [mode]
    all_goals
      split at read
      next => cases read
      next given walked =>
        have accepted := (readTokens_ok_iff _ _ _ _ _).mp walked
        cases checked : checkConflict given with
        | error fault =>
          rw [checked] at read
          cases read
        | ok same =>
          rw [eq_of_checkConflict checked] at checked
          rw [checked] at read
          cases read
          exact ⟨given, accepted, checked, rfl⟩
  · rintro ⟨given, accepted, checked, rfl⟩
    have walked := (readTokens_ok_iff _ _ _ _ _).mpr accepted
    split <;> rename_i mode <;> rw [mode] at walked <;> rw [mode]
    all_goals
      simp only [Mode.optionTokens] at walked
      rw [walked]
      simp only [checked]
      rfl

theorem Invocation.read_error_of_readTokens {arguments : List String} {fault : UsageFault}
    (refused : readTokens (Mode.ofArguments arguments) [] none
      ((Mode.ofArguments arguments).optionTokens arguments) = .error fault) :
    Invocation.read arguments = .error fault := by
  unfold Invocation.read
  split <;> rename_i mode <;> rw [mode] at refused
  all_goals
    simp only [Mode.optionTokens] at refused
    rw [refused]

/-- What is put behind the tokens of a command that is replayed. -/
def replayEnding (current : List String) : List String :=
  if current.contains debugToken then [debugToken] else []

theorem replayTokens_cons (first : String) (kept : first ≠ debugToken) (rest : List String)
    (current : List String) :
    replayTokens (first :: rest) current =
      first :: (rest.filter (· ≠ debugToken) ++ replayEnding current) := by
  rw [replayTokens, List.filter_cons_of_pos (by simpa using kept)]
  rfl

theorem Mode.ofArguments_cons (first : String) (rest : List String) :
    Mode.ofArguments (first :: rest) =
      if rest.head? = some clusterWord then .cluster else .main := by
  rw [Mode.ofArguments, List.head?_eq_getElem?]
  rfl

/-- A main command line never comes to begin with the word for the other mode. -/
theorem Accepted.head_ne_clusterWord {given result : Given} {tokens : List String}
    (accepted : Accepted .main given none tokens result) : tokens.head? ≠ some clusterWord := by
  have word : Token.classify .main clusterWord = .plain clusterWord := by decide +kernel
  intro head
  cases tokens with
  | nil => cases head
  | cons first rest =>
    cases head
    generalize first : clusterWord = token at accepted word
    cases accepted with
    | separated => exact absurd first (by decide)
    | complete found =>
      rw [found] at word
      cases word
    | opened found =>
      rw [found] at word
      cases word

/-- Replaying keeps the mode, and drops debugging from the option tokens. -/
theorem replayTokens_mode {rest current : List String} {result : Given}
    (accepted : Accepted (Mode.ofArguments (programName :: rest)) [] none
      ((Mode.ofArguments (programName :: rest)).optionTokens (programName :: rest)) result) :
    Mode.ofArguments (replayTokens (programName :: rest) current) =
        Mode.ofArguments (programName :: rest) ∧
      (Mode.ofArguments (programName :: rest)).optionTokens
          (replayTokens (programName :: rest) current) =
        ((Mode.ofArguments (programName :: rest)).optionTokens (programName :: rest)).filter
          (· ≠ debugToken) ++ replayEnding current := by
  have named : programName ≠ debugToken := by decide
  rw [replayTokens_cons programName named]
  by_cases cluster : rest.head? = some clusterWord
  · have mode : Mode.ofArguments (programName :: rest) = .cluster := by
      rw [Mode.ofArguments_cons, if_pos cluster]
    rcases List.head?_eq_some_iff.mp cluster with ⟨more, rfl⟩
    have word : clusterWord ≠ debugToken := by decide
    rw [mode, List.filter_cons_of_pos (by simpa using word), List.cons_append,
      Mode.ofArguments_cons]
    exact ⟨rfl, rfl⟩
  · have mode : Mode.ofArguments (programName :: rest) = .main := by
      rw [Mode.ofArguments_cons, if_neg cluster]
    rw [mode] at accepted ⊢
    have walked := accepted.quiet OpenFlag.takesValue_none
    have head := walked.head_ne_clusterWord
    refine ⟨?_, rfl⟩
    rw [Mode.ofArguments_cons, if_neg]
    change (rest.filter (· ≠ debugToken) ++ replayEnding current).head? ≠ some clusterWord
    change (rest.filter (· ≠ debugToken)).head? ≠ some clusterWord at head
    cases kept : rest.filter (· ≠ debugToken) with
    | nil =>
      rw [List.nil_append, replayEnding]
      split <;> decide
    | cons first more =>
      rw [kept] at head
      exact head

theorem separatorToken_mem_iff (rest : List String) :
    separatorToken ∈ ((Mode.ofArguments (programName :: rest)).optionTokens
        (programName :: rest)).filter (· ≠ debugToken) ↔
      separatorToken ∈ programName :: rest := by
  have named : separatorToken ≠ programName := by decide
  have word : separatorToken ≠ clusterWord := by decide
  have kept : separatorToken ≠ debugToken := by decide
  by_cases cluster : rest.head? = some clusterWord
  · rcases List.head?_eq_some_iff.mp cluster with ⟨more, rfl⟩
    rw [Mode.ofArguments_cons, if_pos cluster]
    simp [Mode.optionTokens, named, word, kept]
  · rw [Mode.ofArguments_cons, if_neg cluster]
    simp [Mode.optionTokens, named, kept]

/-- A recorded command that was accepted is accepted again when it is replayed, with
debugging as it is asked for and all else as it was.  The one exception is a command
with the separator: with debugging behind it, it is refused. -/
theorem Invocation.read_replayTokens (arguments current : List String) (invocation : Invocation)
    (accepted : Invocation.read (recordedTokens arguments) = .ok invocation) :
    Invocation.read (replayTokens (recordedTokens arguments) current) =
      if debugToken ∈ current ∧ separatorToken ∈ recordedTokens arguments then
        .error (.unexpectedArgument debugToken)
      else .ok (invocation.withDebug (current.contains debugToken)) := by
  unfold recordedTokens at accepted ⊢
  generalize arguments.drop 1 = rest at accepted ⊢
  rcases (Invocation.read_ok_iff _ _).mp accepted with ⟨given, walked, checked, rfl⟩
  rcases replayTokens_mode walked with ⟨mode, tokens⟩
  have quiet := walked.quiet OpenFlag.takesValue_none
  have accepts : Accepted (Mode.ofArguments (programName :: rest)) [] none
      ((Mode.ofArguments (programName :: rest)).optionTokens
        (replayTokens (programName :: rest) current))
      (given.withDebug (current.contains debugToken)) →
    Invocation.read (replayTokens (programName :: rest) current) =
      .ok ((given.invocation (Mode.ofArguments (programName :: rest))).withDebug
        (current.contains debugToken)) := by
    intro again
    have conflict := given.checkConflict_withDebug (current.contains debugToken) checked
    rw [← given.invocation_withDebug]
    refine (Invocation.read_ok_iff _ _).mpr ⟨_, ?_, conflict, ?_⟩
    · rw [mode]
      exact again
    · rw [mode]
  by_cases asked : current.contains debugToken = true
  · have member : debugToken ∈ current := by simpa using asked
    have ended : replayEnding current = [debugToken] := if_pos asked
    have behind := quiet.readTokens_debug given.any_quiet_debug
    rw [ended] at tokens
    rw [← tokens] at behind
    by_cases separated : separatorToken ∈ programName :: rest
    · rw [if_pos ⟨member, separated⟩]
      rw [if_pos ((separatorToken_mem_iff rest).mpr separated), ← mode] at behind
      exact read_error_of_readTokens behind
    · rw [if_neg fun both => separated both.2]
      rw [if_neg fun listed => separated ((separatorToken_mem_iff rest).mp listed)] at behind
      apply accepts
      rw [asked]
      exact (readTokens_ok_iff _ _ _ _ _).mp behind
  · have absent : ¬debugToken ∈ current := by simpa using asked
    have unasked : current.contains debugToken = false := Bool.eq_false_iff.mpr asked
    have ended : replayEnding current = [] := if_neg asked
    rw [ended, List.append_nil] at tokens
    rw [if_neg fun both => absent both.1]
    apply accepts
    rw [unasked, tokens]
    exact quiet

/-! ## Recalling a command line -/

/-- If the last recorded command is one that was accepted, it is recalled, and what is
recalled reads as the invocation it was, of the same mode and with the same options,
but for debugging, which is as the resuming command line asks for it.  The one
exception is a command that ends with the separator: recalled with debugging, it is
refused. -/
theorem Session.recall_reads_back (session : Session) (files : Path → Option String)
    (earlier trace : List Exchange) (others : List CommandRecord) (id : Option RunId)
    (time : Option Nat) (arguments current : List String) (default : Path)
    (invocation : Invocation) (outcome : Except Failure StoredCommand)
    (accepted : Invocation.read (recordedTokens arguments) = .ok invocation)
    (recorded : CommandRecord.ofLog
        ((textAfter session.commandLog (files session.commandLog) earlier).getD "") =
      .ok (others ++ [⟨id, time, recordedTokens arguments⟩]))
    (yields : (session.recall current default).Yields trace outcome)
    (reports : Throughout (Exchange.Reports files) earlier trace) :
    ∃ stored, outcome = .ok stored ∧
      Invocation.read stored.tokens =
        if debugToken ∈ current ∧ separatorToken ∈ recordedTokens arguments then
          .error (.unexpectedArgument debugToken)
        else .ok (invocation.withDebug (current.contains debugToken)) := by
  have recalls := Action.yields_recall session current default outcome yields reports
  rw [session.recalled_last current default _ _ others _ recorded (List.cons_ne_nil _ _)]
    at recalls
  exact ⟨_, recalls, Invocation.read_replayTokens arguments current invocation accepted⟩

/-- A session of the other pipeline, with the built-in names. -/
def clusterSession : Session := Session.of {} ⟨"/work"⟩ .cluster

/-- A command line with debugging where a flag could have its value, and with the separator. -/
def separatedArguments : List String := ["", "cluster", "--cluster-datasets", "--debug", "--"]

/-- The files when that command line is the only recorded one. -/
def separatedFiles : Path → Option String := fun path =>
  if path.same clusterSession.commandLog then
    some "r-0123456789abcdef\t7\tbigmler cluster --cluster-datasets --debug --\n"
  else none

/-- The optional value of a flag stays empty when the token behind it goes; with the
separator the command is recalled without debugging only. -/
theorem Session.recall_reads_back_clusterDatasets :
    (∃ trace stored options,
      (clusterSession.recall ["bigmler", "--resume"] ⟨"out"⟩).Yields trace (.ok stored) ∧
      Throughout (Exchange.Reports separatedFiles) [] trace ∧
      Invocation.read stored.tokens = .ok (.cluster options) ∧
      options.clusterDatasets = some "" ∧ options.common.debug = false) ∧
    ∃ trace stored,
      (clusterSession.recall ["bigmler", "--resume", "--debug"] ⟨"out"⟩).Yields trace (.ok stored) ∧
      Throughout (Exchange.Reports separatedFiles) [] trace ∧
      Invocation.read stored.tokens = .error (.unexpectedArgument debugToken) := by
  have reads : ∀ current, ∃ trace stored,
      (clusterSession.recall current ⟨"out"⟩).Yields trace (.ok stored) ∧
      Throughout (Exchange.Reports separatedFiles) [] trace ∧
      Invocation.read stored.tokens =
        if debugToken ∈ current ∧ separatorToken ∈ recordedTokens separatedArguments then
          .error (.unexpectedArgument debugToken)
        else .ok ((Given.invocation [(.debug, .on), (.clusterDatasets, .text "")]
          .cluster).withDebug (current.contains debugToken)) := by
    intro current
    rcases (clusterSession.recall current ⟨"out"⟩).exists_yields separatedFiles [] with
      ⟨trace, outcome, yields, reports⟩
    have logged : (separatedFiles clusterSession.commandLog).getD "" =
        "r-0123456789abcdef\t7\tbigmler cluster --cluster-datasets --debug --\n" := by
      decide +kernel
    rcases clusterSession.recall_reads_back separatedFiles [] trace []
      (some ⟨"r-0123456789abcdef"⟩) (some 7) separatedArguments current ⟨"out"⟩ _ outcome rfl
      (by rw [textAfter_nil, logged]; decide +kernel) yields reports with ⟨stored, rfl, read⟩
    exact ⟨trace, stored, yields, reports, read⟩
  constructor
  · rcases reads ["bigmler", "--resume"] with ⟨trace, stored, yields, reports, read⟩
    rw [if_neg (by decide)] at read
    exact ⟨trace, stored, _, yields, reports, read, rfl, rfl⟩
  · rcases reads ["bigmler", "--resume", "--debug"] with ⟨trace, stored, yields, reports, read⟩
    rw [if_pos (by decide)] at read
    exact ⟨trace, stored, yields, reports, read⟩

end ModelRuns
