import ModelRuns.Command.Recall
import ModelRuns.Proofs.Command.Records
import ModelRuns.Proofs.Trace.Texts

namespace ModelRuns

/-!
# When the last command can be recalled

Recording appends one line, and recalling reads the whole log before it takes the
last record.  So the record that was just written comes back only if the log
before it was in order: it must be terminated, or the new line would become the
end of an open one, and each of its lines must be readable, or none is read.
These two conditions are also enough.

`Session.recalled` is recalling as a function of the two texts.  What a run of
`Session.recall` gives is this function of the texts the two logs have.
-/

/-! ## Recalling as a function of the logs -/

/-- The failure to read a log. -/
def blamedFailure (path : Path) (failure : Failure) : Failure :=
  .corruptLog ("cannot read " ++ path.text ++ ": " ++ failure.message)

/-- The command that is recalled from the texts of the two logs. -/
def Session.recalled (session : Session) (current : List String) (default : Path)
    (commands directories : String) : Except Failure StoredCommand :=
  match CommandRecord.ofLog commands with
  | .error failure => .error (blamedFailure session.commandLog failure)
  | .ok records =>
    match records.getLast? with
    | none => .error (.corruptLog ("no previous command found in " ++ session.commandLog.text ++
        "; nothing to resume"))
    | some last =>
      if last.tokens.isEmpty then
        .error (.corruptLog ("last entry of " ++ session.commandLog.text ++ " is empty"))
      else .ok {
        runId := last.runId
        tokens := replayTokens last.tokens current
        outputDirectory := (findDirectory last.runId (DirectoryRecord.ofLog directories)).getD
          (session.resolve default) }

namespace Action

/-- Blaming a log changes the failure and nothing else. -/
theorem yields_blameLog_iff {α : Type} (path : Path) (action : Action α) (trace : List Exchange)
    (outcome : Except Failure α) :
    Yields (blameLog path action) trace outcome ↔
      ∃ result, Yields action trace result ∧ outcome = result.mapError (blamedFailure path) := by
  unfold Yields blameLog
  rw [ExceptT.run_tryCatch, Program.bind_eq, Program.runs_bind_iff]
  constructor
  · rintro ⟨front, back, result, rfl, runs, rest⟩
    cases result with
    | ok value =>
      have ended : back = [] ∧ outcome = .ok value := by simpa using rest
      rcases ended with ⟨rfl, rfl⟩
      exact ⟨.ok value, by simpa using runs, rfl⟩
    | error failure =>
      have ended : back = [] ∧ outcome = .error (blamedFailure path failure) := by
        simpa [blamedFailure] using rest
      rcases ended with ⟨rfl, rfl⟩
      exact ⟨.error failure, by simpa using runs, rfl⟩
  · rintro ⟨result, runs, rfl⟩
    refine ⟨trace, [], result, by simp, runs, ?_⟩
    cases result <;> simp [Except.mapError, blamedFailure]

variable {files : Path → Option String} {earlier trace : List Exchange}

/-- Looking whether a file is there and reading it gives its text, and changes no
file. -/
theorem yields_readIfThere (path : Path) (outcome : Except Failure String)
    (yields : Yields (readIfThere path) trace outcome)
    (reports : Throughout (Exchange.Reports files) earlier trace) :
    outcome = .ok ((textAfter path (files path) earlier).getD "") ∧
      ∀ other, textAfter other (files other) (earlier ++ trace) =
        textAfter other (files other) earlier := by
  unfold readIfThere at yields
  rcases (yields_asking_bind_iff (.file (.fileExists path)) _ _ _).mp yields with
    ⟨present, back, rfl, rest⟩
  have told : present = (textAfter path (files path) earlier).isSome := reports.1
  cases known : textAfter path (files path) earlier with
  | none =>
    have absent : present = false := by rw [told, known]; rfl
    subst absent
    have ended : back = [] ∧ outcome = .ok "" := by simpa using rest
    rcases ended with ⟨rfl, rfl⟩
    exact ⟨rfl, fun other => by rw [textAfter_append]; rfl⟩
  | some text =>
    have there : present = true := by rw [told, known]; rfl
    subst there
    simp only [if_true] at rest
    rcases (yields_asking_iff (.file (.read path)) id _ _).mp rest with ⟨answer, rfl, same⟩
    have unchanged : textAfter path (files path)
        (earlier ++ [⟨.file (.fileExists path), true⟩]) = some text := by
      rw [textAfter_append, known]
      rfl
    have told : answer = .ok text := reports.2.1 text unchanged
    exact ⟨same.trans told, fun other => by rw [textAfter_append]; rfl⟩

/-- Reading a log is reading its text, with the log blamed for a failure. -/
theorem yields_readLog {α : Type} (path : Path) (read : String → Except Failure α)
    (outcome : Except Failure α)
    (yields : Yields (blameLog path (readIfThere path >>= fun text => ofExcept (read text)))
      trace outcome)
    (reports : Throughout (Exchange.Reports files) earlier trace) :
    outcome = (read ((textAfter path (files path) earlier).getD "")).mapError
        (blamedFailure path) ∧
      ∀ other, textAfter other (files other) (earlier ++ trace) =
        textAfter other (files other) earlier := by
  rcases (yields_blameLog_iff _ _ _ _).mp yields with ⟨result, inner, rfl⟩
  rcases (yields_bind_iff _ _ _ _).mp inner with
    ⟨failure, failed, _⟩ | ⟨front, back, text, rfl, first, rest⟩
  · rcases yields_readIfThere path _ failed reports with ⟨impossible, _⟩
    cases impossible
  · rcases (yields_ofExcept_iff _ _ _).mp rest with ⟨rfl, rfl⟩
    rw [List.append_nil] at reports ⊢
    rcases yields_readIfThere path _ first reports with ⟨found, unchanged⟩
    cases found
    exact ⟨rfl, unchanged⟩

theorem yields_readDirectories (path : Path) (outcome : Except Failure (List DirectoryRecord))
    (yields : Yields (blameLog path (readDirectories path)) trace outcome)
    (reports : Throughout (Exchange.Reports files) earlier trace) :
    outcome = .ok (DirectoryRecord.ofLog ((textAfter path (files path) earlier).getD "")) := by
  have reading : readDirectories path = readIfThere path >>= fun text =>
      ofExcept (.ok (DirectoryRecord.ofLog text)) := rfl
  rw [reading] at yields
  exact (yields_readLog path _ _ yields reports).1

/-- A run of recalling gives what the texts of the two logs determine. -/
theorem yields_recall (session : Session) (current : List String) (default : Path)
    (outcome : Except Failure StoredCommand)
    (yields : Yields (session.recall current default) trace outcome)
    (reports : Throughout (Exchange.Reports files) earlier trace) :
    outcome = session.recalled current default
      ((textAfter session.commandLog (files session.commandLog) earlier).getD "")
      ((textAfter session.directoryLog (files session.directoryLog) earlier).getD "") := by
  unfold Session.recall at yields
  unfold Session.recalled
  rcases (yields_bind_iff _ _ _ _).mp yields with
    ⟨failure, failed, rfl⟩ | ⟨front, back, records, rfl, read, rest⟩
  · have result := (yields_readLog session.commandLog CommandRecord.ofLog _ failed reports).1
    split
    next other unreadable =>
      rw [unreadable] at result
      cases result
      rfl
    next records readable =>
      rw [readable] at result
      cases result
  rw [Throughout.append_iff] at reports
  rcases yields_readLog session.commandLog CommandRecord.ofLog _ read reports.1 with
    ⟨result, unchanged⟩
  split
  next other unreadable =>
    rw [unreadable] at result
    cases result
  next found readable =>
    rw [readable] at result
    cases result
    cases found : records.getLast? with
    | none =>
      simp only [found] at rest ⊢
      exact ((yields_throw_iff _ _ _).mp rest).2
    | some last =>
      simp only [found] at rest ⊢
      split at rest
      next empty =>
        rw [if_pos empty]
        rcases (yields_bind_iff _ _ _ _).mp rest with
          ⟨failure, failed, rfl⟩ | ⟨_, _, _, _, impossible, _⟩
        · cases ((yields_throw_iff _ _ _).mp failed).2
          rfl
        · cases ((yields_throw_iff _ _ _).mp impossible).2
      next present =>
        rw [if_neg present]
        rcases (yields_bind_iff _ _ _ _).mp rest with
          ⟨failure, failed, _⟩ | ⟨_, _, directories, rfl, read, ended⟩
        · cases yields_readDirectories session.directoryLog _ failed reports.2
        · rw [Throughout.append_iff] at reports
          have result := yields_readDirectories session.directoryLog _ read reports.2.1
          rw [unchanged] at result
          cases result
          exact ((yields_pure_iff _ _ _).mp ended).2

end Action

/-! ## Recalling behind a recorded command -/

/-- The lines of a log can all be read. -/
def LogIsReadable (text : String) : Prop :=
  ∀ line ∈ logLines text, ∃ record, CommandRecord.ofLine line = .ok record

theorem mapM_ok_iff {α β : Type} (read : α → Except Failure β) (values : List α) :
    (∃ results, values.mapM read = .ok results) ↔
      ∀ value ∈ values, ∃ result, read value = .ok result := by
  induction values with
  | nil => simp [pure, Except.pure]
  | cons value rest inductionHypothesis =>
    rw [List.forall_mem_cons, ← inductionHypothesis]
    cases first : read value with
    | error failure => simp [first, bind, Except.bind]
    | ok result =>
      cases others : rest.mapM read with
      | error failure => simp [first, others, bind, Except.bind]
      | ok results => simp [first, others, bind, Except.bind, pure, Except.pure]

theorem ofLog_ok_iff (text : String) :
    (∃ records, CommandRecord.ofLog text = .ok records) ↔ LogIsReadable text :=
  mapM_ok_iff CommandRecord.ofLine (logLines text)

/-- From a log that can be read the last record is recalled. -/
theorem Session.recalled_last (session : Session) (current : List String) (default : Path)
    (commands directories : String) (others : List CommandRecord) (last : CommandRecord)
    (read : CommandRecord.ofLog commands = .ok (others ++ [last])) (nonempty : last.tokens ≠ []) :
    session.recalled current default commands directories =
      .ok ⟨last.runId, replayTokens last.tokens current,
        (findDirectory last.runId (DirectoryRecord.ofLog directories)).getD
          (session.resolve default)⟩ := by
  have present : last.tokens.isEmpty = false := by simpa using nonempty
  simp [Session.recalled, read, present]

/-- The log that recording leaves. -/
def recordedLog (text : String) (record : CommandRecord) : String := text ++ record.line ++ "\n"

section

variable (id : RunId) (readable : id.IsReadable) (time : Nat) (tokens : List String)

include readable

theorem logLines_recordedLog (text : String) (terminated : Terminated text) :
    logLines (recordedLog text ⟨some id, some time, tokens⟩) =
      logLines text ++ [CommandRecord.line ⟨some id, some time, tokens⟩] := by
  have fits := CommandRecord.line_fitsLine id readable time tokens
  have shown := CommandRecord.line_not_blank id readable time tokens
  rw [logLines, recordedLog, lines_append_line text _ terminated fits, List.filter_append]
  simp [logLines, shown]

/-- Behind an open line the record is read together with that line. -/
theorem logLines_recordedLog_of_open (front rest : String) (terminated : Terminated front)
    (plain : '\n' ∉ rest.toList) :
    logLines (recordedLog (front ++ rest) ⟨some id, some time, tokens⟩) =
      logLines front ++ [rest ++ CommandRecord.line ⟨some id, some time, tokens⟩] := by
  have fits := CommandRecord.line_fitsLine id readable time tokens
  have shown := CommandRecord.line_not_blank id readable time tokens
  have nonempty : CommandRecord.line ⟨some id, some time, tokens⟩ ≠ "" := by
    intro empty
    rw [empty] at shown
    cases shown
  have shownWhole : allBlank (rest ++ CommandRecord.line ⟨some id, some time, tokens⟩) = false := by
    rw [allBlank] at shown ⊢
    rw [String.toList_append, List.all_append, shown, Bool.and_false]
  rw [logLines, recordedLog, lines_append_line_of_open front rest _ terminated plain nonempty fits,
    List.filter_append]
  simp [logLines, shownWhole]

/-- Behind a terminated and readable log the recorded command is read as the last. -/
theorem ofLog_recordedLog (text : String) (terminated : Terminated text)
    (inOrder : LogIsReadable text) (small : time ≤ largestWord64) :
    ∃ others, CommandRecord.ofLog (recordedLog text ⟨some id, some time, tokens⟩) =
      .ok (others ++ [⟨some id, some time, tokens⟩]) := by
  rcases (ofLog_ok_iff text).mpr inOrder with ⟨records, read⟩
  refine ⟨records, ?_⟩
  rw [CommandRecord.ofLog] at read ⊢
  rw [logLines_recordedLog id readable time tokens text terminated, List.mapM_append, read]
  simp [CommandRecord.ofLine_line id readable time small, bind, Except.bind, pure, Except.pure]

/-- Behind a terminated and readable log the recorded command comes back. -/
theorem recalled_recordedLog (session : Session) (current : List String) (default : Path)
    (text directories : String) (terminated : Terminated text) (inOrder : LogIsReadable text)
    (small : time ≤ largestWord64) (nonempty : tokens ≠ []) :
    session.recalled current default (recordedLog text ⟨some id, some time, tokens⟩) directories =
      .ok ⟨some id, replayTokens tokens current,
        (findDirectory (some id) (DirectoryRecord.ofLog directories)).getD
          (session.resolve default)⟩ := by
  rcases ofLog_recordedLog id readable time tokens text terminated inOrder small with
    ⟨others, whole⟩
  exact session.recalled_last current default _ directories others _ whole nonempty

end

theorem mapM_concat_ok {α β : Type} (read : α → Except Failure β) (front : List α) (last : α)
    (results : List β) (done : (front ++ [last]).mapM read = .ok results) :
    ∃ others result, read last = .ok result ∧ results = others ++ [result] := by
  rw [List.mapM_append] at done
  cases first : front.mapM read with
  | error failure => simp [first, bind, Except.bind] at done
  | ok others =>
    cases second : read last with
    | error failure => simp [first, second, bind, Except.bind] at done
    | ok result =>
      have joined : others ++ [result] = results := by
        simpa [first, second, bind, Except.bind, pure, Except.pure] using done
      exact ⟨others, result, rfl, joined.symm⟩

/-- What is recalled from a log whose last line is known is the record of that
line, and all other lines are readable as well. -/
theorem recalled_ok (session : Session) (current : List String) (default : Path)
    (commands directories : String) (stored : StoredCommand) (front : List String) (last : String)
    (whole : logLines commands = front ++ [last])
    (recalled : session.recalled current default commands directories = .ok stored) :
    LogIsReadable commands ∧
      ∃ record, CommandRecord.ofLine last = .ok record ∧ record.runId = stored.runId := by
  unfold Session.recalled at recalled
  split at recalled
  next => cases recalled
  next records read =>
    refine ⟨(ofLog_ok_iff commands).mp ⟨records, read⟩, ?_⟩
    rw [CommandRecord.ofLog, whole] at read
    rcases mapM_concat_ok _ _ _ _ read with ⟨others, result, readLast, rfl⟩
    simp only [List.getLast?_append, List.getLast?_singleton, Option.some_or] at recalled
    split at recalled
    next => cases recalled
    next =>
      cases recalled
      exact ⟨result, readLast, rfl⟩

/-! ## An open line spoils the record -/

theorem RunId.text_of_parse? (text : String) (id : RunId) (parsed : RunId.parse? text = some id) :
    id.text = text := by
  unfold RunId.parse? at parsed
  split at parsed
  next =>
    split at parsed
    next =>
      cases parsed
      rfl
    next => cases parsed
  next => cases parsed

/-- The identifier of a line stands before its first tab. -/
theorem parse?_of_splitTagged (line command : List Char) (id : RunId) (time : Nat)
    (fields : splitTagged line = some (id, time, command)) :
    RunId.parse? (String.ofList (line.takeWhile (· ≠ '\t'))) = some id := by
  unfold splitTagged at fields
  split at fields
  next => cases fields
  next first rest split =>
    have front : line.takeWhile (· ≠ '\t') = first := congrArg Prod.fst split
    rw [front]
    split at fields
    next => cases fields
    next =>
      split at fields
      next parsed _ =>
        cases fields
        exact parsed
      next => cases fields

theorem runId_ofLine (line : String) (record : CommandRecord) (id : RunId)
    (read : CommandRecord.ofLine line = .ok record) (tagged : record.runId = some id) :
    id.text.toList = line.toList.takeWhile (· ≠ '\t') := by
  unfold CommandRecord.ofLine at read
  split at read
  next found time command fields =>
    cases tokens : CommandText.split (String.ofList command) with
    | error failure => simp [tokens, Except.map] at read
    | ok split =>
      rw [tokens] at read
      cases read
      cases tagged
      have text := RunId.text_of_parse? _ _ (parse?_of_splitTagged _ _ _ _ fields)
      rw [text, String.toList_ofList]
  next =>
    cases tokens : CommandText.split line with
    | error failure => simp [tokens, Except.map] at read
    | ok split =>
      rw [tokens] at read
      cases read
      cases tagged

/-- A line that was open before a record keeps its own identifier, if it has
one. -/
theorem runId_behind_open (rest : String) (present : rest ≠ "") (id : RunId)
    (readable : id.IsReadable) (time : Nat) (tokens : List String) (record : CommandRecord)
    (read : CommandRecord.ofLine (rest ++ CommandRecord.line ⟨some id, some time, tokens⟩) =
      .ok record)
    (tagged : record.runId = some id) :
    id.text.toList = rest.toList.takeWhile (· ≠ '\t') := by
  have idPasses : ∀ c ∈ id.text.toList, decide (c ≠ '\t') = true := by
    intro c member
    exact decide_eq_true ((CommandText.breaksLine_eq_false c).mp (readable.keeps_line c member)).2.2
  have field := runId_ofLine _ _ id read tagged
  rw [String.toList_append, CommandRecord.toList_line] at field
  by_cases passes : ∀ c ∈ rest.toList, decide (c ≠ '\t') = true
  · rw [List.takeWhile_append_of_pos passes, List.takeWhile_append_of_pos idPasses] at field
    have none : rest = "" := by simpa using congrArg List.length field
    exact absurd none present
  · rw [List.takeWhile_append] at field
    have shorter : ¬ (rest.toList.takeWhile (· ≠ '\t')).length = rest.toList.length := by
      intro equal
      have whole : rest.toList.takeWhile (· ≠ '\t') = rest.toList :=
        (List.takeWhile_sublist _).eq_of_length equal
      apply passes
      intro c member
      rw [← whole] at member
      have passed := List.mem_takeWhile_imp member
      exact passed
    rw [if_neg shorter] at field
    exact field

/-! ## Exactly the logs behind which commands are resumable -/

/-- Every command that is recorded behind the logs given by `files` is recalled
right after that, without its debugging tokens.  No assumption is made about the
answers except that the files are as they are. -/
def Session.AlwaysResumes (session : Session) (files : Path → Option String) : Prop :=
  ∀ (tokens : List String) (command : String) (nanoseconds time : Nat) (current : List String)
    (default : Path) (recording recalling : List Exchange) (recorded : Option CommandRecord)
    (outcome : Except Failure StoredCommand),
    tokens ≠ [] → resumeToken ∉ tokens → time ≤ largestWord64 → debugToken ∉ current →
    (session.recordCommand tokens (RunId.derive command nanoseconds) time).Yields recording
      (.ok recorded) →
    Throughout (Exchange.Reports files) [] recording →
    (session.recall current default).Yields recalling outcome →
    Throughout (Exchange.Reports files) recording recalling →
    ∃ directory, outcome = .ok ⟨some (RunId.derive command nanoseconds),
      tokens.filter (· ≠ debugToken), directory⟩

/-- The text of the command log of a session. -/
def Session.loggedText (session : Session) (files : Path → Option String) : String :=
  (files session.commandLog).getD ""

/-- Recording appends the line of the record and does nothing else. -/
theorem Session.yields_recordCommand (session : Session) (tokens : List String) (id : RunId)
    (time : Nat) (fresh : resumeToken ∉ tokens) (trace : List Exchange)
    (recorded : Option CommandRecord) :
    (session.recordCommand tokens id time).Yields trace (.ok recorded) ↔
      trace = [⟨.file (.append session.commandLog
        (CommandRecord.line ⟨some id, some time, tokens⟩)), .ok ()⟩] ∧
        recorded = some ⟨some id, some time, tokens⟩ := by
  have absent : tokens.contains resumeToken = false := by simpa using fresh
  have appending : ∀ line, Action.appendLine session.commandLog line =
      Action.asking (.file (.append session.commandLog line)) fun answer => answer :=
    fun _ => rfl
  unfold Session.recordCommand
  simp only [absent, Bool.false_eq_true, if_false, appending]
  rw [Action.yields_bind_iff]
  constructor
  · rintro (⟨failure, _, impossible⟩ | ⟨front, back, value, rfl, appended, ended⟩)
    · cases impossible
    · rcases (Action.yields_asking_iff _ _ _ _).mp appended with ⟨answer, rfl, same⟩
      rcases (Action.yields_pure_iff _ _ _).mp ended with ⟨rfl, equal⟩
      cases same
      cases equal
      exact ⟨rfl, rfl⟩
  · rintro ⟨rfl, rfl⟩
    refine .inr ⟨_, [], (), (List.append_nil _).symm, ?_, ?_⟩
    · exact (Action.yields_asking_iff _ _ _ _).mpr ⟨.ok (), rfl, rfl⟩
    · exact (Action.yields_pure_iff _ _ _).mpr ⟨rfl, rfl⟩

theorem Session.loggedText_recorded (session : Session) (files : Path → Option String)
    (record : CommandRecord) :
    (textAfter session.commandLog (files session.commandLog)
      [⟨.file (.append session.commandLog record.line), .ok ()⟩]).getD "" =
      recordedLog (session.loggedText files) record := by
  simp [Exchange.applyTo, Session.loggedText, recordedLog]

/-- Times tell identifiers apart. -/
theorem derive_ne : RunId.derive "" 0 ≠ RunId.derive "" 1 := by decide +kernel

namespace Session.AlwaysResumes

variable {session : Session} {files : Path → Option String}

/-- If every command is recalled, a command without arguments is, whatever its
identifier. -/
theorem recalls (resumes : session.AlwaysResumes files) (nanoseconds : Nat) :
    ∃ directories stored, session.recalled [] ⟨""⟩
        (recordedLog (session.loggedText files)
          ⟨some (RunId.derive "" nanoseconds), some 0, ["bigmler"]⟩) directories = .ok stored ∧
      stored.runId = some (RunId.derive "" nanoseconds) := by
  have fresh : resumeToken ∉ ["bigmler"] := by decide
  have records := (session.yields_recordCommand ["bigmler"] (RunId.derive "" nanoseconds) 0
    fresh _ _).mpr ⟨rfl, rfl⟩
  rcases Program.exists_runs (reportedAnswer files) (session.recall [] ⟨""⟩).run
    [⟨.file (.append session.commandLog (CommandRecord.line
      ⟨some (RunId.derive "" nanoseconds), some 0, ["bigmler"]⟩)), .ok ()⟩] with
    ⟨recalling, outcome, runs, answered⟩
  have reports := answered.mono (reports_of_reportedAnswer files)
  have result := Action.yields_recall session [] ⟨""⟩ outcome runs reports
  rw [session.loggedText_recorded] at result
  rcases resumes _ _ _ _ _ _ _ _ _ _ (by decide) fresh (Nat.zero_le _) (by decide) records
    ⟨trivial, trivial⟩ runs reports with ⟨directory, succeeded⟩
  exact ⟨_, _, result.symm.trans succeeded, rfl⟩

/-- The line that holds a recorded command ends the log, and the log before it
can be read. -/
theorem inOrder (resumes : session.AlwaysResumes files) :
    Terminated (session.loggedText files) ∧ LogIsReadable (session.loggedText files) := by
  by_cases terminated : Terminated (session.loggedText files)
  · refine ⟨terminated, ?_⟩
    rcases resumes.recalls 0 with ⟨directories, stored, recalled, _⟩
    have whole := logLines_recordedLog _ (RunId.derive_isReadable "" 0) 0 ["bigmler"] _
      terminated
    have readable := (recalled_ok session [] ⟨""⟩ _ _ stored _ _ whole recalled).1
    intro line member
    exact readable line (whole ▸ List.mem_append_left _ member)
  · exfalso
    rcases exists_open_line _ terminated with ⟨front, rest, text, ended, present, plain⟩
    have field : ∀ nanoseconds, (RunId.derive "" nanoseconds).text.toList =
        rest.toList.takeWhile (· ≠ '\t') := by
      intro nanoseconds
      have readable := RunId.derive_isReadable "" nanoseconds
      rcases resumes.recalls nanoseconds with ⟨directories, stored, recalled, tagged⟩
      rw [text] at recalled
      have whole := logLines_recordedLog_of_open _ readable 0 ["bigmler"] front rest ended plain
      rcases recalled_ok session [] ⟨""⟩ _ _ stored _ _ whole recalled with
        ⟨_, record, read, same⟩
      exact runId_behind_open rest present _ readable 0 ["bigmler"] record read
        (same.trans tagged)
    have equal : (RunId.derive "" 0).text = (RunId.derive "" 1).text :=
      String.toList_inj.mp ((field 0).trans (field 1).symm)
    exact derive_ne (congrArg RunId.mk equal)

end Session.AlwaysResumes

/-- Commands recorded behind a log are recalled exactly if the log is terminated
and all of its lines can be read.  So one malformed line, or one line break that
is missing at the end, spoils every later command. -/
theorem Session.alwaysResumes_iff (session : Session) (files : Path → Option String) :
    session.AlwaysResumes files ↔
      Terminated (session.loggedText files) ∧ LogIsReadable (session.loggedText files) := by
  constructor
  · intro resumes
    exact resumes.inOrder
  · rintro ⟨terminated, inOrder⟩
    intro tokens command nanoseconds time current default recording recalling recorded outcome
      nonempty fresh small quiet records _ recalls reports
    rcases (session.yields_recordCommand _ _ _ fresh _ _).mp records with ⟨rfl, _⟩
    have result := Action.yields_recall session current default outcome recalls reports
    have readable := RunId.derive_isReadable command nanoseconds
    rw [session.loggedText_recorded, recalled_recordedLog _ readable _ _ _ _ _ _ _ terminated
      inOrder small nonempty] at result
    have notAsked : current.contains debugToken = false := by simpa using quiet
    simp only [replayTokens, notAsked] at result
    exact ⟨_, by simpa using result⟩

end ModelRuns
