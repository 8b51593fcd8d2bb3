import ModelRuns.Proofs.Invocation.Replay
import ModelRuns.Proofs.Run.Opening

namespace ModelRuns

/-!
# Where a resumed run works

The first directory that a run makes is its output directory.  A run that resumes has it
from the logs: it is the directory that was recorded under the identifier of the last
command, and without one it is named after the time.

It changes none of the files it was recalled from, so the next one that resumes finds what
this one found.
-/

/-! ## The output directory of a trace -/

/-- The directory that an exchange was to make. -/
def Exchange.directory? : Exchange → Option Path
  | ⟨.file (.makeDirectory path), _⟩ => some path
  | _ => none

/-- The directory that a run works in: the first that it makes. -/
def workDirectory? (trace : List Exchange) : Option Path := trace.findSome? Exchange.directory?

theorem workDirectory?_append {front : List Exchange}
    (homeless : ∀ exchange ∈ front, exchange.directory? = none) (back : List Exchange) :
    workDirectory? (front ++ back) = workDirectory? back := by
  rw [workDirectory?, List.findSome?_append, List.findSome?_eq_none_iff.mpr homeless,
    Option.none_or, workDirectory?]

theorem workDirectory?_append_of_looks {front : List Exchange}
    (looks : ∀ exchange ∈ front, exchange.asked.Looks) (back : List Exchange) :
    workDirectory? (front ++ back) = workDirectory? back := by
  refine workDirectory?_append (fun exchange member => ?_) back
  have looked := looks exchange member
  rcases exchange with ⟨asked, answer⟩
  rcases looked with inspects | now
  · cases asked with
    | file request =>
      cases request with
      | makeDirectory path => exact absurd inspects id
      | _ => rfl
    | _ => rfl
  · cases now
    rfl

theorem yields_prepareOutput {session : Session} {invocation : Invocation} {resuming : Bool}
    {output : Path} {trace : List Exchange} {outcome : Except Failure Unit}
    (yields : (prepareOutput session invocation resuming output).Yields trace outcome) :
    ∃ answer rest, trace = ⟨.file (.makeDirectory output), answer⟩ :: rest := by
  rcases (Action.yields_bind_iff _ _ _ _).mp yields with
    ⟨failure, failed, _⟩ | ⟨front, back, _, rfl, made, _⟩
  · rcases (Action.yields_asking_iff (.file (.makeDirectory output)) id _ _).mp failed with
      ⟨answer, rfl, _⟩
    exact ⟨answer, [], rfl⟩
  · rcases (Action.yields_asking_iff (.file (.makeDirectory output)) id _ _).mp made with
      ⟨answer, rfl, _⟩
    exact ⟨answer, back, rfl⟩

/-- A run works in the output directory that its places name. -/
theorem workDirectory?_carryOut {settings : Settings} {environment : Environment}
    {session : Session} {clearing : Bool} {fallback : Path} {command : EffectiveCommand}
    {invocation : Invocation} {runId : Option RunId} {trace : List Exchange}
    {outcome : Except Failure Nat}
    (yields : (carryOut settings environment session clearing fallback command invocation
      runId).Yields trace outcome) :
    workDirectory? trace = some (command.paths session invocation fallback).output := by
  rcases (Action.yields_asking_bind_iff (.note _) _ _ _).mp yields with ⟨_, back, rfl, rest⟩
  rcases (Action.yields_bind_iff _ _ _ _).mp rest with
    ⟨failure, failed, _⟩ | ⟨front, behind, _, rfl, prepared, _⟩
  · rcases yields_prepareOutput failed with ⟨answer, rest, rfl⟩
    rfl
  · rcases yields_prepareOutput prepared with ⟨answer, rest, rfl⟩
    rfl

/-! ## A run that resumes -/

/-- A launch that resumes in a directory and a mode, and does not ask for empty logs. -/
structure Launch.Resumes (launch : Launch) (directory : Path) (mode : Mode)
    (arguments : List String) : Prop where
  place : launch.directory = directory
  readable : launch.arguments.mapM readArgument = .ok arguments
  inMode : Mode.ofArguments arguments = mode
  resumes : resumeToken ∈ arguments
  keeps : clearLogsToken ∉ arguments

/-- The recalled command, in the directory that was found or in the one named after the
time. -/
def recalledCommand (session : Session) (arguments : List String) (record : CommandRecord)
    (directories : String) (time : Instant) : EffectiveCommand :=
  ⟨replayTokens record.tokens arguments, true, record.runId,
    some ((findDirectory record.runId (DirectoryRecord.ofLog directories)).getD
      (session.resolve ⟨defaultDirectoryName time⟩))⟩

/-- What a run that resumes finds: settings for its defaults file, a command log whose last
record can be replayed, and the text of the directory log. -/
structure Recallable (files : Path → Option String) (earlier : List Exchange)
    (session : Session) (settings : Settings) (record : CommandRecord) (directories : String) :
    Prop where
  loads : Settings.ofDefaults (textAfter session.defaultsFile (files session.defaultsFile)
    earlier) = .ok settings
  names : session = Session.of settings session.directory session.mode
  commands : ∃ others, CommandRecord.ofLog
    ((textAfter session.commandLog (files session.commandLog) earlier).getD "") =
      .ok (others ++ [record])
  places : (textAfter session.directoryLog (files session.directoryLog) earlier).getD "" =
    directories

section

variable {launch : Launch} {session : Session} {arguments : List String}
  {files : Path → Option String} {earlier trace : List Exchange} {outcome : Except Failure Nat}
  {settings : Settings} {record : CommandRecord} {directories : String} {invocation : Invocation}

/-- The arguments and the settings that the run goes on with. -/
theorem Recallable.opening_eq
    (recallable : Recallable files earlier session settings record directories)
    (resumes : launch.Resumes session.directory session.mode arguments) :
    launch.opening (textAfter (launch.directory.child defaultsFileName)
      (files (launch.directory.child defaultsFileName)) earlier) = .ok (arguments, settings) := by
  have file : launch.directory.child defaultsFileName = session.defaultsFile := by
    rw [resumes.place, recallable.names]
    rfl
  rw [file, Launch.opening, resumes.readable, recallable.loads]
  rfl

theorem Recallable.session_eq
    (recallable : Recallable files earlier session settings record directories)
    (resumes : launch.Resumes session.directory session.mode arguments) :
    launch.session settings arguments = session := by
  rw [Launch.session, resumes.place, resumes.inMode, ← recallable.names]

/-- What changes no file leaves a run recallable. -/
theorem Recallable.append
    (recallable : Recallable files earlier session settings record directories)
    {since : List Exchange} (unchanged : ∀ path, changesAt path since = []) :
    Recallable files (earlier ++ since) session settings record directories := by
  have same : ∀ path text, textAfter path text (earlier ++ since) = textAfter path text earlier := by
    intro path text
    rw [textAfter_append, textAfter_of_changesAt_nil path (unchanged path)]
  constructor
  · rw [same]
    exact recallable.loads
  · exact recallable.names
  · rw [same]
    exact recallable.commands
  · rw [same]
    exact recallable.places

/-- The last command is recalled, with the directory that was found for it. -/
theorem Recallable.recall_eq
    (recallable : Recallable files earlier session settings record directories)
    (nonempty : record.tokens ≠ []) {fallback : Path} {reading : List Exchange}
    {result : Except Failure StoredCommand}
    (recalls : (session.recall arguments fallback).Yields reading result)
    (reports : Throughout (Exchange.Reports files) earlier reading) :
    result = .ok ⟨record.runId, replayTokens record.tokens arguments,
      (findDirectory record.runId (DirectoryRecord.ofLog directories)).getD
        (session.resolve fallback)⟩ := by
  rcases recallable.commands with ⟨others, read⟩
  rw [Action.yields_recall session arguments _ result recalls reports, recallable.places]
  exact session.recalled_last arguments _ _ _ others record read nonempty

variable
  (resumes : launch.Resumes session.directory session.mode arguments)
  (recallable : Recallable files earlier session settings record directories)
  (nonempty : record.tokens ≠ [])
  (accepted : Invocation.read (replayTokens record.tokens arguments) = .ok invocation)
  (yields : launch.invoke.Yields trace outcome)
  (reports : Throughout (Exchange.Reports files) earlier trace)

include resumes recallable nonempty accepted yields reports

/-- A run that resumes looks at files and the clock, and then carries out the recalled
command, unless the run log is refused or the options are objected to. -/
theorem yields_resume :
    ∃ front time answer back, firstClock trace = some time ∧
      trace = front ++ ⟨.openRunLog (invocation.common.logFile.map session.resolve)
        invocation.common.debug, answer⟩ :: back ∧
      (∀ exchange ∈ front, exchange.asked.Looks) ∧
      (((∃ failure, answer = .error failure) ∨ invocation.check ≠ .ok ()) ∧ back = [] ∨
        invocation.check = .ok () ∧
          (carryOut settings (readEnvironment launch.environment) session false
            ⟨defaultDirectoryName time⟩ (recalledCommand session arguments record directories time)
            invocation record.runId).Yields back outcome) := by
  rcases Launch.yields_invoke yields reports with
    ⟨failure, refused, _⟩ | ⟨_, _, front, back, opened, rfl, inspects, ran⟩
  · rw [recallable.opening_eq resumes] at refused
    cases refused
  rw [recallable.opening_eq resumes] at opened
  cases opened
  rw [recallable.session_eq resumes] at ran
  have absent : arguments.contains clearLogsToken = false := by simpa using resumes.keeps
  rcases yields_runArguments ran with
    ⟨failure, failed, _⟩ | ⟨cleared, time, rest, rfl, begun, goesOn⟩
  · rw [absent] at failed
    cases ((Action.yields_pure_iff _ _ _).mp failed).2
  rw [absent] at begun goesOn
  rcases (Action.yields_pure_iff _ _ _).mp begun with ⟨rfl, _⟩
  rw [effectiveCommand_resuming session _ resumes.resumes, bind_assoc] at goesOn
  -- Nothing has changed since the defaults file was read.
  have unchanged : ∀ path, changesAt path (front ++ [⟨.now, time⟩]) = [] := by
    intro path
    rw [changesAt_append, changesAt_of_inspects inspects path]
    rfl
  have still := recallable.append unchanged
  rw [List.nil_append, ← List.singleton_append, ← List.append_assoc, Throughout.append_iff]
    at reports
  rcases (Action.yields_bind_iff _ _ _ _).mp goesOn with
    ⟨failure, failed, _⟩ | ⟨reading, behind, stored, rfl, recalled, ran⟩
  · cases still.recall_eq nonempty failed reports.2
  cases still.recall_eq nonempty recalled ((Throughout.append_iff _ _ _).mp reports.2).1
  rw [pure_bind] at ran
  have proceeds : (runInvocation settings (readEnvironment launch.environment) session false time
      ⟨defaultDirectoryName time⟩ (recalledCommand session arguments record directories time)
      invocation).Yields behind outcome := by
    have command := ran
    unfold runCommand at command
    rw [show (StoredCommand.effective _).tokens = replayTokens record.tokens arguments from rfl,
      accepted] at command
    exact command
  rcases yields_runInvocation_resuming rfl proceeds with ⟨answer, back, rfl, carried⟩
  have looking := Action.asks_recall _ _ _ _ _ recalled
  refine ⟨front ++ ⟨.now, time⟩ :: reading, time, answer, back, ?_, by simp, ?_, carried⟩
  · rw [List.nil_append, firstClock_append_of_inspects inspects]
    rfl
  · intro exchange member
    rcases List.mem_append.mp member with before | behind
    · exact .inl (inspects exchange before)
    rcases List.mem_cons.mp behind with rfl | later
    · exact .inr rfl
    · exact .inl (looking exchange later)

/-- A run that resumes and gets past its run log works in the directory that was found, or
in the one named after the time. -/
theorem workDirectory?_resume (checked : invocation.check = .ok ())
    (opens : ∀ file debug answer, (⟨.openRunLog file debug, answer⟩ : Exchange) ∈ trace →
      answer = .ok ()) :
    ∃ time, firstClock trace = some time ∧
      workDirectory? trace = some (session.resolve
        ((findDirectory record.runId (DirectoryRecord.ofLog directories)).getD
          (session.resolve ⟨defaultDirectoryName time⟩))) := by
  rcases yields_resume resumes recallable nonempty accepted yields reports with
    ⟨front, time, answer, back, clock, rfl, looks, ⟨refused, _⟩ | ⟨_, carried⟩⟩
  · rcases refused with ⟨failure, rfl⟩ | objected
    · cases opens _ _ _ (List.mem_append_right _ List.mem_cons_self)
    · exact absurd checked objected
  · refine ⟨time, clock, ?_⟩
    have works := workDirectory?_carryOut carried
    rw [workDirectory?_append_of_looks looks]
    exact works

/-- A run that resumes spares a file that its output directory has no use for. -/
theorem spares_resume {path : Path}
    (off : ∀ time, firstClock trace = some time → session.KeepsOff (session.resolve
      ((findDirectory record.runId (DirectoryRecord.ofLog directories)).getD
        (session.resolve ⟨defaultDirectoryName time⟩))) path) :
    ∀ exchange ∈ trace, exchange.asked.Spares path := by
  rcases yields_resume resumes recallable nonempty accepted yields reports with
    ⟨front, time, answer, back, clock, rfl, looks, rest⟩
  have spared : ∀ exchange ∈ back, exchange.asked.Spares path := by
    rcases rest with ⟨_, rfl⟩ | ⟨_, carried⟩
    · exact List.forall_mem_nil _
    · exact spares_carryOut _ _ _ _ _ _ _ _ (off time clock) (.inl rfl) _ _ carried
  intro exchange member
  rcases List.mem_append.mp member with before | behind
  · rcases looks exchange before with inspects | now
    · exact Request.spares_of_inspects inspects
    · rw [now]
      trivial
  · rcases List.mem_cons.mp behind with rfl | later
    · trivial
    · exact spared exchange later

end

end ModelRuns
