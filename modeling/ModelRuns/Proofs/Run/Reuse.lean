import ModelRuns.Proofs.Run.Fresh
import ModelRuns.Proofs.Run.Resuming

namespace ModelRuns

/-!
# Working in the same directory again

A new run records its command and, later, its output directory.  Between the two it makes
the directory, removes old checkpoints and begins the session log.  A run that is cut short
behind both records is resumed in its own directory, at any time and any number of times.
One that is cut short between them is not: each run that resumes it works in a directory
named after its own time, even if the command names one.

A cut is a prefix of the trace: what a run did until it was killed, or until a request was
refused.  Runs that resume may be cut short as well.
-/

/-- The files after a trace. -/
def filesAfter (files : Path → Option String) (trace : List Exchange) : Path → Option String :=
  fun path => textAfter path (files path) trace

/-- A call that resumes a recorded command in a session.  Debugging is not asked for where
it would be put behind the separator. -/
structure Call.Resumes (call : Call) (session : Session) (recorded arguments : List String) :
    Prop where
  launch : call.launch.Resumes session.directory session.mode arguments
  replayable : debugToken ∈ arguments → separatorToken ∉ recorded
  runs : call.launch.invoke.Yields call.trace call.outcome
  reports : Throughout (Exchange.Reports call.files) [] call.trace

/-- Calls that resume, each cut short somewhere, lead from one state of the files to
another.  No result and no run log of theirs goes where a shared file is. -/
inductive Session.Leads (session : Session) (recorded : List String) :
    (Path → Option String) → (Path → Option String) → Prop
  | refl (files : Path → Option String) : Leads session recorded files files
  | resume {later : Path → Option String} (call : Call) (arguments : List String)
      (resumes : call.Resumes session recorded arguments)
      (kept : ∀ path ∈ session.sharedFiles, ∀ exchange ∈ call.trace, ¬exchange.Overwrites path)
      (cut : List Exchange) (stopped : cut <+: call.trace)
      (rest : Leads session recorded (filesAfter call.files cut) later) :
      Leads session recorded call.files later

/-- However often the command is resumed, each call that resumes it and can open its run
log works in the directory. -/
def Session.Reuses (session : Session) (recorded : List String) (files : Path → Option String)
    (output : Path) : Prop :=
  ∀ (call : Call) (arguments : List String), session.Leads recorded files call.files →
    call.Resumes session recorded arguments →
    (∀ file debug answer, (⟨.openRunLog file debug, answer⟩ : Exchange) ∈ call.trace →
      answer = .ok ()) →
    workDirectory? call.trace = some output

/-! ## Calls that resume -/

theorem Recallable.of_agree {files other : Path → Option String} {session : Session}
    {settings : Settings} {record : CommandRecord} {directories : String}
    (recallable : Recallable files [] session settings record directories)
    (agree : ∀ path ∈ session.sharedFiles, other path = files path) :
    Recallable other [] session settings record directories where
  loads := by
    rw [textAfter_nil, agree _ (by simp [Session.sharedFiles])]
    exact recallable.loads
  names := recallable.names
  commands := by
    rw [textAfter_nil, agree _ (by simp [Session.sharedFiles])]
    exact recallable.commands
  places := by
    rw [textAfter_nil, agree _ (by simp [Session.sharedFiles])]
    exact recallable.places

section

variable {session : Session} {settings : Settings} {given : List String} {time : Instant}
  {invocation : Invocation} (accepted : Invocation.read given = .ok invocation)

include accepted

theorem Call.Resumes.read {call : Call} {arguments : List String}
    (resumes : call.Resumes session (recordedTokens given) arguments) :
    Invocation.read (replayTokens (recordedTokens given) arguments) =
      .ok (invocation.withDebug (arguments.contains debugToken)) := by
  rw [← Invocation.read_recordedTokens] at accepted
  rw [Invocation.read_replayTokens given arguments invocation accepted,
    if_neg fun both => resumes.replayable both.1 both.2]

/-- A call that resumes works in the directory that was found, or in the one named after
the time. -/
theorem Call.Resumes.workDirectory? {call : Call} {arguments : List String} {directories : String}
    (resumes : call.Resumes session (recordedTokens given) arguments)
    (recallable : Recallable call.files [] session settings (freshRecord given time) directories)
    (checked : invocation.check = .ok ())
    (opens : ∀ file debug answer, (⟨.openRunLog file debug, answer⟩ : Exchange) ∈ call.trace →
      answer = .ok ()) :
    ∃ later, firstClock call.trace = some later ∧
      ModelRuns.workDirectory? call.trace = some (session.resolve
        ((findDirectory (some (freshId given time)) (DirectoryRecord.ofLog directories)).getD
          (session.resolve ⟨defaultDirectoryName later⟩))) := by
  have again := invocation.check_withDebug (arguments.contains debugToken)
  rw [checked] at again
  have nonempty : (freshRecord given time).tokens ≠ [] := List.cons_ne_nil _ _
  have read : Invocation.read (replayTokens (freshRecord given time).tokens arguments) =
      .ok (invocation.withDebug (arguments.contains debugToken)) := resumes.read accepted
  have works := workDirectory?_resume resumes.launch recallable nonempty read resumes.runs
    resumes.reports again opens
  exact works

/-- Calls that resume leave what they were recalled from. -/
theorem Session.Leads.recallable {files later : Path → Option String} {directories : String}
    {output : Path} (leads : session.Leads (recordedTokens given) files later)
    (found : findDirectory (some (freshId given time)) (DirectoryRecord.ofLog directories) =
      some output)
    (absolute : output.isAbsolute = true) (apart : session.SharesApart output)
    (recallable : Recallable files [] session settings (freshRecord given time) directories) :
    Recallable later [] session settings (freshRecord given time) directories := by
  induction leads with
  | refl files => exact recallable
  | resume call arguments resumes kept cut stopped rest inductionHypothesis =>
    -- The cut call left the shared files alone, so the next call finds what this one found.
    apply inductionHypothesis
    refine recallable.of_agree fun path shared => ?_
    have spares := spares_resume resumes.launch recallable (List.cons_ne_nil _ _)
      (resumes.read accepted) resumes.runs resumes.reports (by
        intro now _
        rw [show (freshRecord given time).runId = some (freshId given time) from rfl, found,
          Option.getD_some, session.resolve_of_isAbsolute absolute]
        exact apart.output path shared)
    have unchanged := changesAt_eq_nil path
      (fun exchange member => spares exchange (stopped.subset member))
      (fun exchange member => kept path shared exchange (stopped.subset member))
    exact textAfter_of_changesAt_nil path unchanged _

end

/-! ## What a cut leaves -/

/-- The logs can be read, each ends with a whole line, and no directory is recorded under
the identifier yet. -/
structure NewRun.FindsOrder (run : NewRun) : Prop where
  commands : Terminated ((run.files run.session.commandLog).getD "")
  readable : LogIsReadable ((run.files run.session.commandLog).getD "")
  directories : Terminated ((run.files run.session.directoryLog).getD "")
  unknown : findDirectory (some run.runId)
    (DirectoryRecord.ofLog ((run.files run.session.directoryLog).getD "")) = none

namespace NewRun.Valid

variable {run : NewRun} (valid : run.Valid) (apart : run.session.SharesApart run.output)
  {cut : List Exchange} (stopped : cut <+: run.trace)

include valid apart stopped

/-- From the files that a cut left, the command can be recalled. -/
theorem recallable (order : run.FindsOrder)
    (recorded : appending run.session.commandLog run.commandLine ∈ cut) :
    Recallable (filesAfter run.files cut) [] run.session run.settings
      (freshRecord run.arguments run.time)
      ((filesAfter run.files cut run.session.directoryLog).getD "") where
  loads := by
    have untouched : changesAt run.session.defaultsFile cut = [] := by
      rcases stopped with ⟨rest, split⟩
      have whole := valid.changesAt_defaultsFile apart
      rw [← split, changesAt_append] at whole
      exact (List.append_eq_nil_iff.mp whole).1
    rw [textAfter_nil, filesAfter, textAfter_of_changesAt_nil _ untouched]
    exact (Launch.opening_ok_iff _ _ _ _).mp valid.opened |>.2
  names := rfl
  commands := by
    rcases ((valid.appends_commandLog apart).of_cut stopped).text_of_mem
      (run.files run.session.commandLog) recorded with ⟨base, old, text⟩
    have inOrder : Terminated base ∧ LogIsReadable base := by
      rcases old with rfl | rfl
      · exact ⟨order.commands, order.readable⟩
      · exact ⟨terminated_empty, List.forall_mem_nil _⟩
    rw [textAfter_nil, filesAfter, text]
    exact ofLog_recordedLog run.runId (RunId.derive_isReadable _ _) _ _ base inOrder.1 inOrder.2
      valid.small
  places := rfl

theorem findDirectory_of_mem (order : run.FindsOrder) (fits : FitsLine run.output.text)
    (placed : appending run.session.directoryLog run.directoryLine ∈ cut) :
    findDirectory (some run.runId) (DirectoryRecord.ofLog
      ((filesAfter run.files cut run.session.directoryLog).getD "")) = some run.output := by
  rcases ((valid.appends_directoryLog apart).of_cut stopped).text_of_mem
    (run.files run.session.directoryLog) placed with ⟨base, old, text⟩
  have terminated : Terminated base := by
    rcases old with rfl | rfl
    · exact order.directories
    · exact terminated_empty
  rw [filesAfter, text, String.append_assoc]
  exact (findDirectory_recorded_iff run.runId (RunId.derive_isReadable _ _) run.output base
    terminated).mpr fits

theorem findDirectory_of_not_mem (order : run.FindsOrder)
    (unplaced : appending run.session.directoryLog run.directoryLine ∉ cut) :
    findDirectory (some run.runId) (DirectoryRecord.ofLog
      ((filesAfter run.files cut run.session.directoryLog).getD "")) = none := by
  rcases ((valid.appends_directoryLog apart).of_cut stopped).text_of_not_mem
    (run.files run.session.directoryLog) unplaced with same | same
  · rw [filesAfter, same]
    exact order.unknown
  · rw [filesAfter, same]
    rfl

end NewRun.Valid

/-! ## Resuming in two directories -/

/-- A command line that resumes in a mode. -/
def Mode.resumingArguments : Mode → List String
  | .main => [programName, resumeToken]
  | .cluster => [programName, clusterWord, resumeToken]

theorem Mode.resumingArguments_readable (mode : Mode) :
    (mode.resumingArguments.map encodeUtf8).mapM readArgument = .ok mode.resumingArguments := by
  cases mode <;> decide +kernel

namespace Session

variable (session : Session) (files : Path → Option String) (time : Instant)

/-- A call that resumes in the session at a time, with files as they are. -/
def resumingCall : Call :=
  (⟨session.mode.resumingArguments.map encodeUtf8, [], session.directory⟩ : Launch).call files time

theorem resumes_resumingCall (recorded : List String) :
    (session.resumingCall files time).Resumes session recorded session.mode.resumingArguments where
  launch := by
    refine ⟨rfl, session.mode.resumingArguments_readable, ?_, ?_, ?_⟩
    all_goals cases session.mode <;> decide
  replayable := by
    intro asked
    exact absurd asked (by cases session.mode <;> decide)
  runs := Program.runs_record _ _ _
  reports := (Launch.answered_call _ files time).mono (reports_of_timedAnswer files time)

theorem opens_resumingCall (file : Option Path) (debug : Bool) (answer : Except Failure Unit)
    (member : (⟨.openRunLog file debug, answer⟩ : Exchange) ∈
      (session.resumingCall files time).trace) : answer = .ok () :=
  (Launch.answered_call _ files time).forall_mem (Exchange.granted_of_timedAnswer files time) _
    member

theorem resolve_relative_inj {left right : Path} (relativeLeft : left.isAbsolute = false)
    (relativeRight : right.isAbsolute = false)
    (same : session.resolve left = session.resolve right) : left = right := by
  unfold resolve absolutize at same
  rw [if_neg (Bool.eq_false_iff.mp relativeLeft),
    if_neg (Bool.eq_false_iff.mp relativeRight)] at same
  exact Path.join_relative_inj relativeLeft relativeRight same

end Session

namespace NewRun.Valid

variable {run : NewRun} (valid : run.Valid) (apart : run.session.SharesApart run.output)
  {cut : List Exchange} (stopped : cut <+: run.trace) (order : run.FindsOrder)
  (recorded : appending run.session.commandLog run.commandLine ∈ cut)

include valid apart stopped order recorded

theorem reuses_of_mem (fits : FitsLine run.output.text)
    (placed : appending run.session.directoryLog run.directoryLine ∈ cut) :
    run.session.Reuses (recordedTokens run.arguments) (filesAfter run.files cut) run.output := by
  have absolute := valid.output_isAbsolute
  have found := valid.findDirectory_of_mem apart stopped order fits placed
  intro call arguments leads resumes opens
  have recallable := leads.recallable valid.read found absolute apart
    (valid.recallable apart stopped order recorded)
  rcases resumes.workDirectory? valid.read recallable (valid.checked (stopped.subset recorded))
    opens with ⟨_, _, works⟩
  unfold NewRun.runId at found
  rw [found, Option.getD_some, run.session.resolve_of_isAbsolute absolute] at works
  exact works

theorem not_reuses_of_not_mem
    (unplaced : appending run.session.directoryLog run.directoryLine ∉ cut) (output : Path) :
    ¬run.session.Reuses (recordedTokens run.arguments) (filesAfter run.files cut) output := by
  have found := valid.findDirectory_of_not_mem apart stopped order unplaced
  have recallable := valid.recallable apart stopped order recorded
  have checked := valid.checked (stopped.subset recorded)
  intro reuses
  -- Without a recorded directory a call works in the one named after its time, so two calls
  -- at different times cannot work in one.
  have works : ∀ time, output = run.session.resolve ⟨defaultDirectoryName time⟩ := by
    intro time
    have resumes := run.session.resumes_resumingCall (filesAfter run.files cut) time
      (recordedTokens run.arguments)
    have opens := run.session.opens_resumingCall (filesAfter run.files cut) time
    rcases resumes.workDirectory? valid.read recallable checked opens with ⟨later, clock, works⟩
    unfold NewRun.runId at found
    rw [found, Option.getD_none, Launch.firstClock_call _ _ _ clock] at works
    have absolute : (run.session.resolve ⟨defaultDirectoryName time⟩).isAbsolute = true :=
      Path.absolutize_isAbsolute valid.absolute _
    rw [run.session.resolve_of_isAbsolute absolute] at works
    exact Option.some.inj ((reuses _ _ (.refl _) resumes opens).symm.trans works)
  have same : run.session.resolve ⟨defaultDirectoryName ⟨0⟩⟩ =
      run.session.resolve ⟨defaultDirectoryName ⟨1000000000⟩⟩ :=
    (works ⟨0⟩).symm.trans (works ⟨1000000000⟩)
  have named := run.session.resolve_relative_inj (by decide +kernel) (by decide +kernel) same
  exact absurd named (by decide +kernel)

end NewRun.Valid

/-- A new run is cut short behind the record of its command.  There is a directory that it
is resumed in, whenever and however often it is resumed, exactly if it was cut behind the
record of its output directory as well; and then it is that directory. -/
theorem NewRun.reuses_iff (run : NewRun) (valid : run.Valid)
    (apart : run.session.SharesApart run.output) (order : run.FindsOrder)
    (fits : FitsLine run.output.text) (cut : List Exchange) (stopped : cut <+: run.trace)
    (recorded : appending run.session.commandLog run.commandLine ∈ cut) (directory : Path) :
    run.session.Reuses (recordedTokens run.arguments) (filesAfter run.files cut) directory ↔
      directory = run.output ∧ appending run.session.directoryLog run.directoryLine ∈ cut := by
  constructor
  · intro reuses
    have placed : appending run.session.directoryLog run.directoryLine ∈ cut := by
      by_contra unplaced
      exact valid.not_reuses_of_not_mem apart stopped order recorded unplaced _ reuses
    have own := valid.reuses_of_mem apart stopped order recorded fits placed
    have resumes := run.session.resumes_resumingCall (filesAfter run.files cut) ⟨0⟩
      (recordedTokens run.arguments)
    have opens := run.session.opens_resumingCall (filesAfter run.files cut) ⟨0⟩
    have same := (reuses _ _ (.refl _) resumes opens).symm.trans (own _ _ (.refl _) resumes opens)
    exact ⟨Option.some.inj same, placed⟩
  · rintro ⟨rfl, placed⟩
    exact valid.reuses_of_mem apart stopped order recorded fits placed

/-- The new command without anything to build, in a directory without files. -/
def namedRun : NewRun where
  toCall := namedCall
  arguments := ["bigmler", "--name", "x", "--output-dir", "out"]
  settings := {}
  invocation := Given.invocation [(.name, .text "x"), (.outputDir, .path ⟨"out"⟩)] .main
  time := ⟨0⟩

/-- The run overwrites no shared file, and leaves something in both logs.  Before its last record
only the command log has something. -/
theorem namedRun_facts :
    (∀ path ∈ namedRun.session.sharedFiles, ∀ exchange ∈ namedRun.trace,
        ¬exchange.Overwrites path) ∧
      (textAfter namedRun.session.commandLog none namedRun.trace).getD "" ≠ "" ∧
      (textAfter namedRun.session.directoryLog none namedRun.trace).getD "" ≠ "" ∧
      (textAfter namedRun.session.commandLog none (namedRun.trace.take 4)).getD "" ≠ "" ∧
      (textAfter namedRun.session.directoryLog none (namedRun.trace.take 4)).getD "" = "" := by
  decide +kernel

theorem valid_namedRun : namedRun.Valid where
  opened := by decide +kernel
  fresh := by decide
  read := rfl
  clock := by decide +kernel
  small := by decide
  absolute := by decide +kernel
  runs := regular_namedCall.runs
  reports := regular_namedCall.reports
  kept := namedRun_facts.1

/-- Cut short at its end, the run is resumed in its directory.  Cut short between the two
records, it is resumed in no directory again. -/
theorem reuses_namedRun :
    namedRun.session.Reuses (recordedTokens namedRun.arguments)
        (filesAfter namedRun.files namedRun.trace) ⟨"/work/out"⟩ ∧
      ∀ directory, ¬namedRun.session.Reuses (recordedTokens namedRun.arguments)
        (filesAfter namedRun.files (namedRun.trace.take 4)) directory := by
  have apart : namedRun.session.SharesApart namedRun.output :=
    Session.sharesApart_builtIn rfl ⟨"/work"⟩ .main _
  have output : namedRun.output = ⟨"/work/out"⟩ := by decide +kernel
  have order : namedRun.FindsOrder :=
    ⟨terminated_empty, List.forall_mem_nil _, terminated_empty, rfl⟩
  have fits : FitsLine namedRun.output.text := by
    rw [output]
    decide +kernel
  have commands := valid_namedRun.appends_commandLog apart
  have directories := valid_namedRun.appends_directoryLog apart
  have reuses := namedRun.reuses_iff valid_namedRun apart order fits
  rcases namedRun_facts with ⟨_, recorded, placed, recordedBefore, unplaced⟩
  constructor
  · refine (reuses _ (List.prefix_refl _) (commands.mem_iff_text_ne.mpr recorded) _).mpr ?_
    exact ⟨output.symm, directories.mem_iff_text_ne.mpr placed⟩
  · intro directory again
    have stopped := List.take_prefix 4 namedRun.trace
    have placedBefore := ((reuses _ stopped
      ((commands.of_cut stopped).mem_iff_text_ne.mpr recordedBefore) _).mp again).2
    exact (directories.of_cut stopped).mem_iff_text_ne.mp placedBefore unplaced

end ModelRuns
