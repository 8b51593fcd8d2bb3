import ModelRuns.Number.Power
import ModelRuns.Program.Action
import ModelRuns.Settings.Basic
import ModelRuns.Toml.Reader

namespace ModelRuns

/-!
# The defaults file

A defaults file has up to three tables.  Keys that are missing leave the
built-in settings in place, and keys that are not known are ignored.  A table
may also be given as an array of all its values in the order of its keys, or as
a date, which counts as a table without any known key.
-/

/-- The value of a key in a table, or the value at its place in an array.
Nothing of the outer kind means that the value cannot be found where it must
be; nothing of the inner kind that it is not given. -/
structure SettingsPart where
  find : (index : Nat) → (key : String) → Option (Option TomlItem)

def SettingsPart.ofItem : TomlItem → Option SettingsPart
  | .table _ _ entries => some ⟨fun _ key => some (tomlItem? key entries)⟩
  | .inline entries => some ⟨fun _ key => some (tomlItem? key entries)⟩
  | .date => some ⟨fun _ _ => some none⟩
  | .array items => some ⟨fun index _ => items[index]?.map some⟩
  | .tables elements => some ⟨fun index _ => (elements[index]?.map (.table false false)).map some⟩
  | _ => none

namespace SettingsPart

variable (part : SettingsPart)

/-- A setting with its default; a value of the wrong kind is refused. -/
def get (index : Nat) (key : String) (default : α) (read : TomlItem → Option α) : Option α :=
  match part.find index key with
  | none => none
  | some none => some default
  | some (some item) => read item

def readText : TomlItem → Option String
  | .text value => some value
  | _ => none

/-- A natural number up to a limit. -/
def readNatural (limit : Nat) : TomlItem → Option Nat
  | .integer (.ofNat value) => if value ≤ limit then some value else none
  | _ => none

end SettingsPart

/-- The names of logs with those of a part put in. -/
def LogNames.withPart (logs : LogNames) (part : SettingsPart) : Option LogNames := do
  return {
    commandLog := ← part.get 0 "command_log" logs.commandLog SettingsPart.readText
    directoryLog := ← part.get 1 "dir_log" logs.directoryLog SettingsPart.readText
    clusterCommandLog :=
      ← part.get 2 "cluster_command_log" logs.clusterCommandLog SettingsPart.readText
    clusterDirectoryLog :=
      ← part.get 3 "cluster_dir_log" logs.clusterDirectoryLog SettingsPart.readText
    sessionsLog := ← part.get 4 "sessions_log" logs.sessionsLog SettingsPart.readText }

/-- The ways to the service with those of a part put in. -/
def ApiOptions.withPart (api : ApiOptions) (part : SettingsPart) : Option ApiOptions := do
  let optional := fun item => (SettingsPart.readText item).map some
  return {
    baseUrl := ← part.get 0 "base_url" api.baseUrl SettingsPart.readText
    username := ← part.get 1 "username" api.username optional
    apiKey := ← part.get 2 "api_key" api.apiKey optional
    pollIntervalMs :=
      ← part.get 3 "poll_interval_ms" api.pollIntervalMs (SettingsPart.readNatural largestWord64)
    maxPolls := ← part.get 4 "max_polls" api.maxPolls (SettingsPart.readNatural largestWord32) }

/-- Put a part in, if the document has it. -/
def withSection (entries : TomlEntries) (key : String) (value : α)
    (change : α → SettingsPart → Option α) : Option α :=
  match tomlItem? key entries with
  | none => some value
  | some item => (SettingsPart.ofItem item).bind (change value)

/-- The built-in settings with those of a document put in. -/
def Settings.ofToml (entries : TomlEntries) : Option Settings := do
  let settings : Settings := {}
  return {
    logs := ← withSection entries "logs" settings.logs LogNames.withPart
    api := ← withSection entries "api" settings.api ApiOptions.withPart
    uploadUrl := ← withSection entries "reports" settings.uploadUrl fun uploadUrl part =>
      part.get 0 "upload_url" uploadUrl fun item => (SettingsPart.readText item).map some }

/-- The settings of the text of a defaults file. -/
def Settings.ofText (text : String) : Except Failure Settings :=
  match (Toml.read text).bind Settings.ofToml with
  | some settings => .ok settings
  | none => .error (.configParse "the defaults file cannot be read")

/-- The settings for a defaults file with this text, or for none. -/
def Settings.ofDefaults (text : Option String) : Except Failure Settings := do
  let settings ← (text.map Settings.ofText).getD (.ok {})
  settings.check
  return settings

/-- The settings that hold in a working directory. -/
def Settings.load (directory : Path) : Action Settings := do
  let file := directory.child defaultsFileName
  if ← Action.fileExists file then
    Action.ofExcept (Settings.ofDefaults (some (← Action.readText file)))
  else Action.ofExcept (Settings.ofDefaults none)

end ModelRuns
