import ModelRuns.Http.Client
import ModelRuns.Run.Invoke
import ModelRuns.RunLog.Recorder
import Std.Time.DateTime.Timestamp

namespace ModelRuns

/-!
# The command line

The program of an invocation is performed on the disk, the clock and the
terminal of the machine.  This layer decides nothing: it carries requests out
and puts the errors of the system into words.

This layer has no transport to the service, so a request that would be sent has
no response.
-/

/-! ## Errors of the system -/

/-- The wording of an error of the system, with its number. -/
def systemMessage : IO.Error → String
  | .alreadyExists _ code details => numbered code details
  | .otherError code details => numbered code details
  | .resourceBusy code details => numbered code details
  | .resourceVanished code details => numbered code details
  | .unsupportedOperation code details => numbered code details
  | .hardwareFault code details => numbered code details
  | .unsatisfiedConstraints code details => numbered code details
  | .illegalOperation code details => numbered code details
  | .protocolError code details => numbered code details
  | .timeExpired code details => numbered code details
  | .interrupted _ code details => numbered code details
  | .noFileOrDirectory _ code details => numbered code details
  | .invalidArgument _ code details => numbered code details
  | .permissionDenied _ code details => numbered code details
  | .resourceExhausted _ code details => numbered code details
  | .inappropriateType _ code details => numbered code details
  | .noSuchThing _ code details => numbered code details
  | .unexpectedEof => "unexpected end of file"
  | .userError text => text
where
  /-- A text with the number of the error. -/
  numbered (code : UInt32) (details : String) : String :=
    details ++ " (os error " ++ toString code.toNat ++ ")"

/-- The outcome of an operation of the system. -/
def guardSystem (operation : IO α) : IO (Except Failure α) := do
  try return .ok (← operation)
  catch error => return .error (.io (systemMessage error))

/-- The outcome of an operation on a file, with the path in front of an error. -/
def guardFile (path : Path) (operation : IO α) : IO (Except Failure α) := do
  try return .ok (← operation)
  catch error => return .error (.io (path.text ++ ": " ++ systemMessage error))

/-! ## Files -/

/-- Append bytes to a file. -/
def appendBytes (path : Path) (bytes : ByteArray) : IO Unit := do
  let handle ← IO.FS.Handle.mk path.text .append
  handle.write bytes
  handle.flush

/-- Append a line to a file. -/
def appendTo (path : Path) (line : String) : IO Unit := appendBytes path (line ++ "\n").toUTF8

/-- Make a directory and those above it; the empty path needs none. -/
def makeDirectories (path : Path) : IO Unit := do
  unless path.text.isEmpty do IO.FS.createDirAll path.text

/-- Whether something is there. -/
def isThere (path : Path) : IO Bool := do
  try
    let _ ← IO.FS.realPath path.text
    return true
  catch _ => return false

/-- The files of a directory. -/
def filesOf (path : Path) : IO (List Path) := do
  let directory ← IO.FS.realPath path.text
  let mut names := []
  for entry in ← directory.readDir do
    if (← entry.path.metadata).type == .file then names := names ++ [entry.fileName]
  return Path.sort (names.map path.child)

/-- Carry out a request about files. -/
def answerFile : (request : FileRequest) → IO request.Answer
  | .read path => do
    match ← guardFile path (IO.FS.readBinFile path.text) with
    | .error failure => return .error failure
    | .ok bytes =>
      match decodeUtf8? bytes.toList with
      | some text => return .ok text
      | none => return .error (.io (path.text ++ ": stream did not contain valid UTF-8"))
  | .write path text => guardFile path (IO.FS.writeBinFile path.text text.toUTF8)
  | .append path line => guardFile path (appendTo path line)
  | .truncate path => guardFile path (IO.FS.writeBinFile path.text ByteArray.empty)
  | .makeDirectory path => guardFile path (makeDirectories path)
  | .remove path => guardFile path (IO.FS.removeFile path.text)
  | .list path => guardFile path (filesOf path)
  | .fileExists path => isThere path

/-! ## The machine -/

/-- The time of the machine. -/
def machineTime : IO Instant := do
  return ⟨(← Std.Time.Timestamp.now).toNanosecondsSinceUnixEpoch.toInt⟩

/-- What a running invocation keeps: where events go, and the connection. -/
structure Machine where
  recorder : IO.Ref Recorder
  connection : IO.Ref (Option ApiSettings)

namespace Machine

variable (machine : Machine)

/-- Empty a run log. -/
def clearRunLog (path : Path) : IO Unit := do
  if let some parent := path.parent? then makeDirectories parent
  IO.FS.writeBinFile path.text ByteArray.empty

/-- Record an event.  That the run log cannot be written is of no account. -/
def note (event : RunEvent) : IO Unit := do
  let recorder ← machine.recorder.get
  if let some line := recorder.echo event then IO.eprintln line
  if let some (path, line) := recorder.entry event then
    let _ ← guardSystem do
      if let some parent := path.parent? then makeDirectories parent
      appendTo path line

/-- Choose the destination of events. -/
def openRunLog (file : Option Path) (debug : Bool) : IO (Except Failure Unit) := do
  let cleared ← match file with
    | some path => guardSystem (clearRunLog path)
    | none => pure (.ok ())
  if let .ok () := cleared then machine.recorder.set ⟨file, debug⟩
  return cleared

/-- Ask the service. -/
def ask (request : ApiRequest) : IO request.Answer := do
  if let some event := request.event? then machine.note event
  match ← machine.connection.get with
  | none => return request.fail notConnected
  | some settings =>
    let check := fun (path : Path) => guardFile path (do
      let _ ← IO.FS.Handle.mk path.text .read)
    settings.answer check (fun _ => pure none) request

/-- Wait until an instant. -/
def sleepUntil (deadline : Instant) : IO Unit := do
  let now ← machineTime
  IO.sleep ((deadline.nanoseconds - now.nanoseconds).toNat / 1000000).toUInt32

/-- Carry out a request. -/
def answer : (request : Request) → IO request.Answer
  | .file request => answerFile request
  | .api request => machine.ask request
  | .connect settings => do
    machine.connection.set (some settings)
    return .ok ()
  | .now => machineTime
  | .sleepUntil deadline => sleepUntil deadline
  | .printLine line => guardSystem (IO.println line)
  | .printErrorLine line => guardSystem (IO.eprintln line)
  | .printHelp => IO.println "Usage: bigmler [cluster] [OPTIONS]"
  | .openRunLog file debug => machine.openRunLog file debug
  | .note event => machine.note event

end Machine

/-- The variables an invocation looks at. -/
def credentialVariables : IO (List (RawText × RawText)) := do
  let mut found := []
  for name in [usernameVariable, apiKeyVariable] do
    if let some value ← IO.getEnv name then
      found := found ++ [(encodeUtf8 name, encodeUtf8 value)]
  return found

/-- Run an invocation on the machine, and give its exit code. -/
def runMachine (arguments : List String) : IO UInt32 := do
  let launch : Launch := {
    arguments := (programName :: arguments).map encodeUtf8
    environment := ← credentialVariables
    directory := ⟨(← IO.currentDir).toString⟩ }
  let machine : Machine := ⟨← IO.mkRef ⟨none, false⟩, ← IO.mkRef none⟩
  match ← Program.perform machine.answer launch.invoke.attempt with
  | .ok code => return code.toUInt32
  | .error failure =>
    IO.eprintln failure.message
    return 1

end ModelRuns

/-- The command line. -/
def main (arguments : List String) : IO UInt32 := ModelRuns.runMachine arguments
