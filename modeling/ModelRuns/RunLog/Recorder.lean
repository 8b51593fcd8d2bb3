import ModelRuns.RunLog.Event
import ModelRuns.Path

namespace ModelRuns

/-!
# Where events go

A recorder knows the file of the run log, if there is one, and whether the run
is being debugged.  Events of the debug level count only then, and are shown on
the terminal as well.
-/

/-- The destination of events. -/
structure Recorder where
  file : Option Path
  debug : Bool
deriving DecidableEq, Repr

namespace Recorder

variable (recorder : Recorder)

/-- Whether an event is recorded at all. -/
def accepts (event : RunEvent) : Bool := event.level != debugLevel || recorder.debug

/-- The line shown on the terminal for an event. -/
def echo (event : RunEvent) : Option String :=
  if event.level = debugLevel ∧ recorder.debug = true then some event.console else none

/-- The file and the line an event adds to it. -/
def entry (event : RunEvent) : Option (Path × String) :=
  if recorder.accepts event then recorder.file.map (·, event.line payloadLimit) else none

end Recorder

end ModelRuns
