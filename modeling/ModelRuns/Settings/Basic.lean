import ModelRuns.Failure
import ModelRuns.Path
import ModelRuns.Text.Blank
import ModelRuns.Invocation.Options

namespace ModelRuns

/-!
# Settings

A defaults file in the working directory may change where logs are kept and how
the service is reached.  `Session` holds the places of one invocation, and
`ApiSettings` what a connection needs; credentials come from the command line,
the environment or the defaults file, in this order.
-/

structure LogNames where
  commandLog : String := ".bigmler"
  directoryLog : String := ".bigmler_dir_stack"
  clusterCommandLog : String := ".bigmler_cluster"
  clusterDirectoryLog : String := ".bigmler_cluster_dir_stack"
  sessionsLog : String := "bigmler_sessions"
deriving DecidableEq, Repr

/-- How the service is reached. -/
structure ApiOptions where
  baseUrl : String := "https://bigml.io/andromeda/"
  username : Option String := none
  apiKey : Option String := none
  pollIntervalMs : Nat := 1000
  maxPolls : Nat := 3600
deriving DecidableEq, Repr

/-- Everything a defaults file may set.  The built-in values hold where it is
silent. -/
structure Settings where
  logs : LogNames := {}
  api : ApiOptions := {}
  uploadUrl : Option String := none
deriving DecidableEq, Repr

/-- The names of logs with the keys that set them. -/
def LogNames.named (logs : LogNames) : List (String × String) :=
  [("logs.command_log", logs.commandLog), ("logs.dir_log", logs.directoryLog),
    ("logs.cluster_command_log", logs.clusterCommandLog),
    ("logs.cluster_dir_log", logs.clusterDirectoryLog),
    ("logs.sessions_log", logs.sessionsLog)]

/-- Refuse settings no run could work with. -/
def Settings.check (settings : Settings) : Except Failure Unit :=
  match settings.logs.named.find? (fun (_, name) => allBlank name) with
  | some (key, _) => .error (.invalidConfig (key ++ " must not be empty"))
  | none =>
    if settings.api.maxPolls = 0 then
      .error (.invalidConfig "api.max_polls must be greater than zero")
    else if settings.api.baseUrl.toList.getLast? ≠ some '/' then
      .error (.invalidConfig "api.base_url must end with `/`")
    else .ok ()

/-! ## Places -/

def defaultsFileName : String := ".bigmler_defaults"

/-- A path as seen from a directory. -/
def absolutize (base path : Path) : Path := if path.isAbsolute then path else base.join path

/-- The places one invocation works with. -/
structure Session where
  mode : Mode
  directory : Path
  commandLog : Path
  directoryLog : Path
  sessionsLogName : String
  defaultsFile : Path
deriving DecidableEq, Repr

namespace Session

/-- The places of an invocation in a working directory.  Each mode has logs of
its own. -/
def of (settings : Settings) (directory : Path) (mode : Mode) : Session :=
  let names := match mode with
    | .main => (settings.logs.commandLog, settings.logs.directoryLog)
    | .cluster => (settings.logs.clusterCommandLog, settings.logs.clusterDirectoryLog)
  { mode, directory
    commandLog := absolutize directory ⟨names.1⟩
    directoryLog := absolutize directory ⟨names.2⟩
    sessionsLogName := settings.logs.sessionsLog
    defaultsFile := directory.child defaultsFileName }

variable (session : Session)

def sessionLogIn (output : Path) : Path := output.child session.sessionsLogName

/-- A path as seen from the working directory. -/
def resolve (path : Path) : Path := absolutize session.directory path

end Session

/-! ## Connections -/

/-- What a connection to the service needs. -/
structure ApiSettings where
  baseUrl : String
  username : String
  apiKey : String
  pollIntervalMs : Nat
  maxPolls : Nat
  uploadUrl : Option String
deriving DecidableEq, Repr

/-- Names and values of the environment; of two values of one name the later
counts. -/
abbrev Environment := List (String × String)

/-- The value of a name. -/
def Environment.get? (environment : Environment) (name : String) : Option String :=
  (environment.reverse.find? (·.1 == name)).map (·.2)

/-- The name of the variable that holds the user name. -/
def usernameVariable : String := "BIGML_USERNAME"

/-- The name of the variable that holds the key. -/
def apiKeyVariable : String := "BIGML_API_KEY"

/-- The first value that is set.  It must not be blank; a blank one hides those
after it. -/
def firstSet (values : List (Option String)) (missing : String) : Except Failure String :=
  match values.findSome? id with
  | some value => if allBlank value then .error (.invalidConfig missing) else .ok value
  | none => .error (.invalidConfig missing)

/-- The settings of a connection. -/
def Settings.resolveApi (settings : Settings) (environment : Environment)
    (username apiKey : Option String) : Except Failure ApiSettings := do
  let username ← firstSet [username, environment.get? usernameVariable, settings.api.username]
    ("missing API username: pass --username or set " ++ usernameVariable)
  let apiKey ← firstSet [apiKey, environment.get? apiKeyVariable, settings.api.apiKey]
    ("missing API key: pass --api-key or set " ++ apiKeyVariable)
  return {
    baseUrl := settings.api.baseUrl
    username, apiKey
    pollIntervalMs := settings.api.pollIntervalMs
    maxPolls := settings.api.maxPolls
    uploadUrl := settings.uploadUrl }

end ModelRuns
