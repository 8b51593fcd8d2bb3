import ModelRuns.Resource.Request
import ModelRuns.RunLog.Event
import ModelRuns.Settings.Basic
import ModelRuns.Time.Instant

namespace ModelRuns

/-!
# What a run asks of its surroundings

A run reads and changes files, talks to the service, looks at the clock, writes
lines to the terminal and records events.  Each of these is a request with a
type of answers.  What answers them is left open: a disk and a service, or a
store and a service in memory.
-/

/-- A request about files. -/
inductive FileRequest
  | read (path : Path)
  | write (path : Path) (text : String)
  /-- Append a line and its line break. -/
  | append (path : Path) (line : String)
  /-- Make the file empty, also when there is none yet. -/
  | truncate (path : Path)
  /-- Make a directory and those above it. -/
  | makeDirectory (path : Path)
  | remove (path : Path)
  /-- The files of a directory, in the order of paths. -/
  | list (path : Path)
  | fileExists (path : Path)
deriving DecidableEq

/-- The answer to a request about files. -/
abbrev FileRequest.Answer : FileRequest → Type
  | .read _ => Except Failure String
  | .write _ _ => Except Failure Unit
  | .append _ _ => Except Failure Unit
  | .truncate _ => Except Failure Unit
  | .makeDirectory _ => Except Failure Unit
  | .remove _ => Except Failure Unit
  | .list _ => Except Failure (List Path)
  | .fileExists _ => Bool

/-- A request of a run. -/
inductive Request
  | file (request : FileRequest)
  | api (request : ApiRequest)
  | connect (settings : ApiSettings)
  | now
  | sleepUntil (deadline : Instant)
  | printLine (line : String)
  | printErrorLine (line : String)
  | printHelp
  /-- Choose the destination of events; a file is emptied first. -/
  | openRunLog (file : Option Path) (debug : Bool)
  | note (event : RunEvent)

abbrev Request.Answer : Request → Type
  | .file request => request.Answer
  | .api request => request.Answer
  | .connect _ => Except Failure Unit
  | .now => Instant
  | .sleepUntil _ => Unit
  | .printLine _ => Except Failure Unit
  | .printErrorLine _ => Except Failure Unit
  | .printHelp => Unit
  | .openRunLog _ _ => Except Failure Unit
  | .note _ => Unit

end ModelRuns
