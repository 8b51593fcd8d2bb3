import ModelRuns.Json.Record
import ModelRuns.Number.Power
import ModelRuns.Settings.Basic

namespace ModelRuns

/-!
# Settings as documents

The settings as a whole, in three sections as in a defaults file.  Unlike a
defaults file a document must be complete.
-/

/-- The keys of a document of settings. -/
def Settings.keys : List String := ["logs", "api", "reports"]

def LogNames.keys : List String :=
  ["command_log", "dir_log", "cluster_command_log", "cluster_dir_log", "sessions_log"]

/-- The keys of the options of the service. -/
def ApiOptions.keys : List String :=
  ["base_url", "username", "api_key", "poll_interval_ms", "max_polls"]

/-- The keys of the options of reports. -/
def reportKeys : List String := ["upload_url"]

/-- An object with the given keys and values, one for each. -/
def keyed (keys : List String) (values : List Json) : Json := .ofFields (keys.zip values)

/-! ## Writing -/

/-- The names of logs as a document. -/
def LogNames.toJson (logs : LogNames) : Json :=
  keyed LogNames.keys
    ([logs.commandLog, logs.directoryLog, logs.clusterCommandLog, logs.clusterDirectoryLog,
      logs.sessionsLog].map .text)

/-- The options of the service as a document. -/
def ApiOptions.toJson (api : ApiOptions) : Json :=
  keyed ApiOptions.keys [.text api.baseUrl, .ofOption .text api.username,
    .ofOption .text api.apiKey, .ofNat api.pollIntervalMs, .ofNat api.maxPolls]

/-- The settings as a document. -/
def Settings.toJson (settings : Settings) : Json :=
  keyed Settings.keys [settings.logs.toJson, settings.api.toJson,
    keyed reportKeys [.ofOption .text settings.uploadUrl]]

/-! ## Reading -/

def LogNames.ofJson? (document : Json) : Option LogNames :=
  match document.parts? LogNames.keys with
  | some [command, directory, clusterCommand, clusterDirectory, sessions] => do
    return {
      commandLog := ← Json.needed Json.text? command
      directoryLog := ← Json.needed Json.text? directory
      clusterCommandLog := ← Json.needed Json.text? clusterCommand
      clusterDirectoryLog := ← Json.needed Json.text? clusterDirectory
      sessionsLog := ← Json.needed Json.text? sessions }
  | _ => none

/-- Read the options of the service. -/
def ApiOptions.ofJson? (document : Json) : Option ApiOptions :=
  match document.parts? ApiOptions.keys with
  | some [baseUrl, username, apiKey, interval, polls] => do
    return {
      baseUrl := ← Json.needed Json.text? baseUrl
      username := ← Json.optional Json.text? username
      apiKey := ← Json.optional Json.text? apiKey
      pollIntervalMs := ← Json.needed (Json.upTo? largestWord64) interval
      maxPolls := ← Json.needed (Json.upTo? largestWord32) polls }
  | _ => none

/-- Read the options of reports: the address for uploads. -/
def readReports (document : Json) : Option (Option String) :=
  match document.parts? reportKeys with
  | some [uploadUrl] => Json.optional Json.text? uploadUrl
  | _ => none

def Settings.ofJson? (document : Json) : Option Settings :=
  match document.parts? Settings.keys with
  | some [logs, api, reports] => do
    return {
      logs := ← Json.needed LogNames.ofJson? logs
      api := ← Json.needed ApiOptions.ofJson? api
      uploadUrl := ← Json.needed readReports reports }
  | _ => none

end ModelRuns
