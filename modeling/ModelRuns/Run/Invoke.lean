import ModelRuns.Command.Recall
import ModelRuns.Invocation.Preflight
import ModelRuns.Invocation.Reader
import ModelRuns.Pipeline.Clusters
import ModelRuns.Settings.Defaults

namespace ModelRuns

/-!
# A whole invocation

An invocation reads the settings, empties the logs if that is asked for, recalls
the last command if it resumes one, reads and checks its options, and records
itself; all this comes before the service is reached.  Then it prepares the
output directory, and runs the pipeline if there is anything to build.

The session log is closed whether the pipeline succeeds or fails.
-/

/-- A text as the system hands it over, which need not be readable. -/
abbrev RawText := List UInt8

/-- What an invocation is given from outside. -/
structure Launch where
  /-- All arguments, the name of the program first. -/
  arguments : List RawText
  environment : List (RawText × RawText)
  directory : Path

/-- The name of the program in recorded commands. -/
def programName : String := "bigmler"

/-- The exit code of an invocation that did not fail. -/
def exitSuccess : Nat := 0

def readArgument (argument : RawText) : Except Failure String :=
  match decodeUtf8? argument with
  | some text => .ok text
  | none => .error (.commandLine ("argument is not valid UTF-8: " ++ decodeLossy argument))

/-- The readable part of an environment. -/
def readEnvironment (environment : List (RawText × RawText)) : Environment :=
  environment.filterMap fun (name, value) =>
    match decodeUtf8? name, decodeUtf8? value with
    | some name, some value => some (name, value)
    | _, _ => none

/-- A command as it is recorded, under the name of the program. -/
def recordedTokens (arguments : List String) : List String :=
  programName :: arguments.drop 1

/-- Empty the logs of a session, and say if one could not be emptied. -/
def clearSessionLogs (session : Session) : Action Unit := do
  let targets := [session.commandLog, session.directoryLog]
  let cleared ← ExceptT.lift (clearLogs targets)
  Action.when (cleared.length < targets.length)
    (Action.printErrorLine "Some logs could not be cleared.")

/-- Copy the defaults file into the output directory.  That it cannot be copied
is only noted. -/
def copyDefaults (session : Session) (output : Path) : Action Unit := do
  if ← Action.fileExists session.defaultsFile then
    match session.defaultsFile.fileName? with
    | none => return ()
    | some name =>
      let copy : Action Unit := do
        let text ← Action.readText session.defaultsFile
        Action.writeFile (output.child name) text
      match ← ExceptT.lift copy.attempt with
      | .ok () => return ()
      | .error failure =>
        Action.note "warn" "defaults.copy_failed" [("error", .text failure.message)]

/-- A command to run: its tokens, and what is known of an earlier run of it. -/
structure EffectiveCommand where
  tokens : List String
  resuming : Bool
  runId : Option RunId
  output : Option Path

/-- The command to run: the given one, or the last recorded one. -/
def effectiveCommand (session : Session) (arguments : List String) (fallback : Path) :
    Action EffectiveCommand := do
  if arguments.contains resumeToken then
    let stored ← session.recall arguments fallback
    return ⟨stored.tokens, true, stored.runId, some stored.outputDirectory⟩
  else return ⟨recordedTokens arguments, false, none, none⟩

/-- The identifier of a run.  A new command is recorded under a new one; a
resumed command without an identifier stays without. -/
def identify (session : Session) (command : EffectiveCommand) (time : Instant) :
    Action (Option RunId) := do
  if command.runId.isSome || command.resuming then return command.runId
  else
    let id := RunId.derive (CommandText.join command.tokens) time.recordNanoseconds
    let _ ← session.recordCommand command.tokens id time.recordSeconds
    return some id

/-- Make the output directory ready, and remove what earlier runs left there
unless this one resumes. -/
def prepareOutput (session : Session) (invocation : Invocation) (resuming : Bool)
    (output : Path) : Action Unit := do
  Action.makeDirectory output
  Action.when (!resuming) (Checkpoint.reset output (invocation.inputFiles.map session.resolve))

/-- Remove what earlier sessions logged.  That it cannot be removed is only noted. -/
def emptyLog (log : SessionLog) : Action Unit := do
  match ← ExceptT.lift log.clear.attempt with
  | .ok () => return ()
  | .error _ => Action.note "warn" "session_log.clear_failed" [("path", .text log.path.text)]

/-- Record the output directory of a run that has an identifier. -/
def recordOutput (session : Session) (runId : Option RunId) (output : Path) : Action Unit :=
  match runId with
  | some id => session.recordDirectory id output
  | none => return ()

/-- Begin the session log.  A new run also copies the defaults file and records
its output directory. -/
def beginLog (session : Session) (log : SessionLog) (clearing resuming : Bool)
    (command : String) (runId : Option RunId) (output : Path) : Action Unit := do
  Action.when clearing (emptyLog log)
  if resuming then log.step ("Resuming: " ++ command)
  else
    log.raw command
    copyDefaults session output
    recordOutput session runId output

/-- The places of a command.  The directory of an earlier run counts more than the
one asked for. -/
def EffectiveCommand.paths (command : EffectiveCommand) (session : Session)
    (invocation : Invocation) (fallback : Path) : RunPaths :=
  RunPaths.resolve session.directory (command.output <|> invocation.common.outputDirectory)
    invocation.common.predictions invocation.defaultOutputName fallback

def RunContext.runPipeline (run : RunContext) : Invocation → Step Unit
  | .main options => run.runMain options
  | .cluster options => run.runCluster options

/-- Run the pipeline and say why it failed, if it did.  The log is closed in
that case; that it cannot be is of no account any more. -/
def RunContext.perform (run : RunContext) (invocation : Invocation) (resuming : Bool) :
    Action Unit := do
  let (outcome, progress) ←
    ExceptT.lift ((run.runPipeline invocation).run.run (Progress.start resuming))
  match outcome with
  | .ok () => return ()
  | .error failure =>
    let reason := progress.cursor.failureReason.getD failure.message
    Action.note "error" "run.failed" [("reason", .text reason)]
    let _ ← ExceptT.lift (run.log.step ("Run failed at " ++ reason)).attempt
    let _ ← ExceptT.lift run.log.close.attempt
    throw failure

/-- Build what the options ask for, with a connection to the service if there is
anything to build. -/
def build (settings : Settings) (environment : Environment) (invocation : Invocation)
    (command : EffectiveCommand) (runId : Option RunId) (paths : RunPaths) (log : SessionLog) :
    Action Unit := do
  if invocation.hasWork then
    let api ← Action.ofExcept (settings.resolveApi environment invocation.common.username
      invocation.common.apiKey)
    Action.connect api
    let run : RunContext :=
      { log, paths, settings := api
        runId := runId.map RunId.text
        command := CommandText.join command.tokens }
    run.perform invocation command.resuming
  else log.step "No training or test data given; nothing to build."

/-- What an invocation does once its command is recorded. -/
def carryOut (settings : Settings) (environment : Environment) (session : Session)
    (clearing : Bool) (fallback : Path) (command : EffectiveCommand) (invocation : Invocation)
    (runId : Option RunId) : Action Nat := do
  let text := CommandText.join command.tokens
  Action.note "info" "run.started"
    [("run_id", .ofOption .text (runId.map RunId.text)), ("resume", .bool command.resuming),
      ("mode", .text session.mode.text)]
  let paths := command.paths session invocation fallback
  prepareOutput session invocation command.resuming paths.output
  let log : SessionLog :=
    ⟨session.sessionLogIn paths.output, 0 < invocation.common.verbosity⟩
  beginLog session log clearing command.resuming text runId paths.output
  build settings environment invocation command runId paths log
  Action.note "info" "run.completed" [("output_dir", .text paths.output.text)]
  log.close
  return exitSuccess

/-- Run an invocation that could be read. -/
def runInvocation (settings : Settings) (environment : Environment) (session : Session)
    (clearing : Bool) (time : Instant) (fallback : Path) (command : EffectiveCommand)
    (invocation : Invocation) : Action Nat := do
  let common := invocation.common
  Action.openRunLog (common.logFile.map session.resolve) common.debug
  Action.ofExcept (invocation.check.mapError Failure.objection)
  let runId ← identify session command time
  carryOut settings environment session clearing fallback command invocation runId

/-- Read the options of a command, and run it. -/
def runCommand (settings : Settings) (environment : Environment) (session : Session)
    (clearing : Bool) (time : Instant) (fallback : Path) (command : EffectiveCommand) :
    Action Nat :=
  match Invocation.read command.tokens with
  | .error .helpRequested => do
    Action.printHelp
    return exitSuccess
  | .error fault => throw (.commandLine fault.message)
  | .ok invocation =>
    runInvocation settings environment session clearing time fallback command invocation

/-- Run a command line in a session. -/
def runArguments (settings : Settings) (environment : Environment) (session : Session)
    (arguments : List String) : Action Nat := do
  let clearing := arguments.contains clearLogsToken
  Action.when clearing (clearSessionLogs session)
  let time ← Action.now
  let fallback : Path := ⟨defaultDirectoryName time⟩
  let command ← effectiveCommand session arguments fallback
  runCommand settings environment session clearing time fallback command

/-- Run an invocation, and give its exit code. -/
def Launch.invoke (launch : Launch) : Action Nat := do
  let arguments ← Action.ofExcept (launch.arguments.mapM readArgument)
  let settings ← Settings.load launch.directory
  runArguments settings (readEnvironment launch.environment)
    (Session.of settings launch.directory (Mode.ofArguments arguments)) arguments

end ModelRuns
