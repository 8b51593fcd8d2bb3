import ModelRuns.Program.Basic

namespace ModelRuns

/-!
# Actions

An action is a program that may fail.  The functions here ask the single
requests; a failure of one ends the action unless it is attempted.
-/

/-- A program that may fail. -/
abbrev Action := ExceptT Failure Program

namespace Action

variable {α β : Type}

/-- The action of a program whose value may be a failure. -/
def ofProgram (program : Program (Except Failure α)) : Action α := ExceptT.mk program

/-- The value of a computation that asks nothing. -/
def ofExcept : Except Failure α → Action α
  | .ok value => pure value
  | .error failure => throw failure

/-- An action that is left out unless a condition holds. -/
def when (condition : Bool) (action : Action Unit) : Action Unit :=
  if condition then action else pure ()

/-- The outcome of an action, success or failure, as a value. -/
def attempt (action : Action α) : Program (Except Failure α) := action.run

/-! ## Files -/

/-- Read a file. -/
def readText (path : Path) : Action String := ofProgram (.request (.file (.read path)))

/-- Write a file anew. -/
def writeFile (path : Path) (text : String) : Action Unit :=
  ofProgram (.request (.file (.write path text)))

/-- Append a line to a file. -/
def appendLine (path : Path) (line : String) : Action Unit :=
  ofProgram (.request (.file (.append path line)))

/-- Make a file empty. -/
def truncateFile (path : Path) : Action Unit := ofProgram (.request (.file (.truncate path)))

/-- Make a directory and those above it. -/
def makeDirectory (path : Path) : Action Unit :=
  ofProgram (.request (.file (.makeDirectory path)))

def removeFile (path : Path) : Action Unit := ofProgram (.request (.file (.remove path)))

/-- The files of a directory. -/
def listFiles (path : Path) : Action (List Path) := ofProgram (.request (.file (.list path)))

/-- Whether a file or directory is there. -/
def fileExists (path : Path) : Action Bool :=
  ExceptT.lift (Program.request (.file (.fileExists path)))

/-! ## The service -/

def create (creation : Creation) : Action Resource := ofProgram (.request (.api (.create creation)))

/-- Look at a resource. -/
def get (id : ResourceId) (query : Option String) : Action Resource :=
  ofProgram (.request (.api (.get id query)))

/-- Change fields of a resource. -/
def update (id : ResourceId) (changes : Json) : Action Resource :=
  ofProgram (.request (.api (.update id changes)))

/-- Download the values of a resource. -/
def download (id : ResourceId) : Action String := ofProgram (.request (.api (.download id)))

/-- Upload a report, and learn where it is kept. -/
def uploadReport (url : String) (report : Json) : Action String :=
  ofProgram (.request (.api (.uploadReport url report)))

/-- Connect to the service. -/
def connect (settings : ApiSettings) : Action Unit := ofProgram (.request (.connect settings))

/-! ## Clock, terminal and run log -/

/-- The time. -/
def now : Action Instant := ExceptT.lift (Program.request .now)

/-- Wait until an instant. -/
def sleepUntil (deadline : Instant) : Action Unit :=
  ExceptT.lift (Program.request (.sleepUntil deadline))

/-- Show a line on the terminal. -/
def printLine (line : String) : Action Unit := ofProgram (.request (.printLine line))

/-- Show a line among the errors of the terminal. -/
def printErrorLine (line : String) : Action Unit := ofProgram (.request (.printErrorLine line))

/-- Show the help. -/
def printHelp : Action Unit := ExceptT.lift (Program.request .printHelp)

/-- Choose the destination of events. -/
def openRunLog (file : Option Path) (debug : Bool) : Action Unit :=
  ofProgram (.request (.openRunLog file debug))

/-- Record an event. -/
def note (level type : String) (payload : Fields) : Action Unit :=
  ExceptT.lift (Program.request (.note ⟨level, type, .ofFields payload⟩))

end Action

end ModelRuns
