import ModelRuns.Command.Log

namespace ModelRuns

/-!
# Recalling the last command

A run that resumes replays the last recorded command in the directory where that
command worked.  The directory is found by the identifier of the run, whatever
other runs recorded in between.  Debugging is not replayed: it is on when the
resuming command line asks for it.
-/

/-- A command to replay and the directory it works in. -/
structure StoredCommand where
  runId : Option RunId
  tokens : List String
  outputDirectory : Path
deriving DecidableEq, Repr

/-- The directory of a run among the recorded ones: the last with its
identifier, and for a command without one the last of all. -/
def findDirectory (id : Option RunId) (records : List DirectoryRecord) : Option Path :=
  let candidates := match id with
    | some id => records.filter (fun (record : DirectoryRecord) => record.runId == some id)
    | none => records
  candidates.getLast?.map DirectoryRecord.path

/-- The tokens to replay: those recorded, with debugging as it is asked for
now. -/
def replayTokens (recorded current : List String) : List String :=
  recorded.filter (· ≠ debugToken) ++
    (if current.contains debugToken then [debugToken] else [])

/-- Name the log that could not be read. -/
def blameLog (path : Path) (action : Action α) : Action α :=
  tryCatch action fun failure =>
    throw (.corruptLog ("cannot read " ++ path.text ++ ": " ++ failure.message))

/-- Recall the last command.  Without a recorded directory it works in the
default one. -/
def Session.recall (session : Session) (current : List String) (default : Path) :
    Action StoredCommand := do
  let records ← blameLog session.commandLog (readCommands session.commandLog)
  match records.getLast? with
  | none =>
    throw (.corruptLog ("no previous command found in " ++ session.commandLog.text ++
      "; nothing to resume"))
  | some last =>
    if last.tokens.isEmpty then
      throw (.corruptLog ("last entry of " ++ session.commandLog.text ++ " is empty"))
    let directories ← blameLog session.directoryLog (readDirectories session.directoryLog)
    return {
      runId := last.runId
      tokens := replayTokens last.tokens current
      outputDirectory :=
        (findDirectory last.runId directories).getD (session.resolve default) }

end ModelRuns
