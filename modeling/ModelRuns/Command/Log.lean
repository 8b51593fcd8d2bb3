import ModelRuns.Command.Text
import ModelRuns.Digest
import ModelRuns.Number.Power
import ModelRuns.Program.Action
import ModelRuns.Resource.Id
import ModelRuns.Text.Lines
import ModelRuns.Text.Utf8

namespace ModelRuns

/-!
# The command log and the directory log

Two logs are shared by all runs in a working directory.  Each run appends the
command it was started with to one and its output directory to the other, and
both lines carry the identifier of the run, so they belong together wherever
they stand.  Lines without an identifier are read as well: they hold nothing
but a command or a path.
-/

/-! ## Identifiers of runs -/

/-- The identifier of a run. -/
structure RunId where
  text : String
deriving DecidableEq, Repr

namespace RunId

/-- What every identifier of a run begins with. -/
def mark : List Char := ['r', '-']

/-- The number of hexadecimal digits after the mark. -/
def digitCount : Nat := 16

/-- Bytes in hexadecimal digits. -/
def hexChars (bytes : List UInt8) : List Char :=
  bytes.flatMap fun byte => [hexDigit (byte.toNat / 16), hexDigit (byte.toNat % 16)]

/-- The identifier of a command started at a time: the first eight bytes of the
digest of the command followed by the time in sixteen bytes. -/
def derive (command : String) (nanoseconds : Nat) : RunId :=
  let digest := Digest.sha256 (encodeUtf8 command ++ Digest.bigEndian 16 nanoseconds)
  ⟨String.ofList (mark ++ hexChars (digest.take 8))⟩

/-- Read an identifier, which must be the whole text. -/
def parse? (text : String) : Option RunId :=
  match text.toList with
  | 'r' :: '-' :: digits =>
    if digits.length = digitCount ∧ digits.all ResourceId.isHexDigit = true then some ⟨text⟩
    else none
  | _ => none

end RunId

/-! ## Records and their lines -/

/-- A recorded command.  One without an identifier has no time either. -/
structure CommandRecord where
  runId : Option RunId
  timestamp : Option Nat
  tokens : List String
deriving DecidableEq, Repr

/-- A recorded output directory. -/
structure DirectoryRecord where
  runId : Option RunId
  path : Path
deriving DecidableEq, Repr

/-- Split at the first occurrence of a character; the second part is missing
when there is none. -/
def splitFirst (separator : Char) (text : List Char) : List Char × Option (List Char) :=
  (text.takeWhile (· ≠ separator), (text.dropWhile (· ≠ separator)).tail?)

/-- Read a time in seconds: digits after an optional plus sign, at most
sixty-four bits. -/
def readTimestamp (text : List Char) : Option Nat :=
  let digits := match text with
    | '+' :: rest => rest
    | rest => rest
  let value := digits.foldl (fun value c => value * 10 + (c.toNat - '0'.toNat)) 0
  if !digits.isEmpty && digits.all Char.isDigit && value ≤ largestWord64 then some value else none

/-- The line of a command: identifier, time and text, separated by tabs. -/
def CommandRecord.line (record : CommandRecord) : String :=
  let command := CommandText.join record.tokens
  match record.runId with
  | some id => id.text ++ "\t" ++ toString (record.timestamp.getD 0) ++ "\t" ++ command
  | none => command

/-- The line of an output directory: identifier and path, separated by a tab. -/
def DirectoryRecord.line (record : DirectoryRecord) : String :=
  match record.runId with
  | some id => id.text ++ "\t" ++ record.path.text
  | none => record.path.text

/-- The identifier and time at the front of a line, and the text after them. -/
def splitTagged (line : List Char) : Option (RunId × Nat × List Char) :=
  match splitFirst '\t' line with
  | (_, none) => none
  | (first, some rest) =>
    match splitFirst '\t' rest with
    | (_, none) => none
    | (second, some command) =>
      match RunId.parse? (String.ofList first), readTimestamp second with
      | some id, some timestamp => some (id, timestamp, command)
      | _, _ => none

/-- Read the line of a command.  A line without identifier and time is a command
as a whole. -/
def CommandRecord.ofLine (line : String) : Except Failure CommandRecord :=
  match splitTagged line.toList with
  | some (id, timestamp, command) =>
    (CommandText.split (String.ofList command)).map (⟨some id, some timestamp, ·⟩)
  | none => (CommandText.split line).map (⟨none, none, ·⟩)

/-- Read the line of an output directory. -/
def DirectoryRecord.ofLine (line : String) : DirectoryRecord :=
  match splitFirst '\t' line.toList with
  | (first, some path) =>
    match RunId.parse? (String.ofList first) with
    | some id => ⟨some id, ⟨String.ofList path⟩⟩
    | none => ⟨none, ⟨line⟩⟩
  | (_, none) => ⟨none, ⟨line⟩⟩

/-- The lines of a log that are not blank. -/
def logLines (text : String) : List String :=
  (lines text).filter (fun line => !allBlank line)

def CommandRecord.ofLog (text : String) : Except Failure (List CommandRecord) :=
  (logLines text).mapM CommandRecord.ofLine

/-- The output directories of a log. -/
def DirectoryRecord.ofLog (text : String) : List DirectoryRecord :=
  (logLines text).map DirectoryRecord.ofLine

/-! ## Tokens that matter before a command line is read -/

/-- The token that asks to resume. -/
def resumeToken : String := "--resume"

/-- The token that asks for empty logs. -/
def clearLogsToken : String := "--clear-logs"

/-- The token that asks for debugging. -/
def debugToken : String := "--debug"

/-! ## Reading and appending -/

namespace Session

variable (session : Session)

/-- Append a command to the log, unless it resumes another one.  The logs thus
hold only commands that can be replayed. -/
def recordCommand (tokens : List String) (id : RunId) (timestamp : Nat) :
    Action (Option CommandRecord) := do
  if tokens.contains resumeToken then return none
  let record : CommandRecord := ⟨some id, some timestamp, tokens⟩
  Action.appendLine session.commandLog record.line
  return some record

/-- Append an output directory to the log. -/
def recordDirectory (id : RunId) (path : Path) : Action Unit :=
  Action.appendLine session.directoryLog
    (DirectoryRecord.line ⟨some id, session.resolve path⟩)

end Session

/-- Make each log empty that can be made empty, and name those. -/
def clearLogs : List Path → Program (List Path)
  | [] => return []
  | path :: rest => do
    match ← (Action.truncateFile path).attempt with
    | .ok _ => return path :: (← clearLogs rest)
    | .error _ => clearLogs rest

/-- The text of a file, and no text when there is no file. -/
def readIfThere (path : Path) : Action String := do
  if ← Action.fileExists path then Action.readText path else return ""

/-- The commands of a log file. -/
def readCommands (path : Path) : Action (List CommandRecord) := do
  Action.ofExcept (CommandRecord.ofLog (← readIfThere path))

/-- The output directories of a log file. -/
def readDirectories (path : Path) : Action (List DirectoryRecord) := do
  return DirectoryRecord.ofLog (← readIfThere path)

end ModelRuns
