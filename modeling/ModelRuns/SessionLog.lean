import ModelRuns.Program.Action
import ModelRuns.Time.Civil

namespace ModelRuns

/-!
# The session log

The output directory of a run holds a log for people to read: the command, then
one dated line for each step, then a line of underscores.  Steps are also shown
on the terminal unless the run is to be silent.
-/

/-- A session log: its file, and whether steps are shown on the terminal. -/
structure SessionLog where
  path : Path
  echo : Bool
deriving DecidableEq, Repr

/-- The line that ends a session. -/
def separator : String := String.ofList (List.replicate 80 '_')

/-- A message with the time before it. -/
def dated (time : Instant) (message : String) : String :=
  "[" ++ time.civil.stamp ++ "] " ++ message

/-- The name of an output directory when none is given, from the time. -/
def defaultDirectoryName (time : Instant) : String := time.civil.shortName

namespace SessionLog

variable (log : SessionLog)

/-- Log a step with its time. -/
def step (message : String) : Action Unit := do
  let line := dated (← Action.now) message
  Action.appendLine log.path line
  if log.echo then Action.printLine line

/-- Log a text as it is. -/
def raw (text : String) : Action Unit := Action.appendLine log.path text

/-- End the session. -/
def close : Action Unit := Action.appendLine log.path separator

/-- Remove what earlier sessions logged. -/
def clear : Action Unit := Action.truncateFile log.path

end SessionLog

end ModelRuns
