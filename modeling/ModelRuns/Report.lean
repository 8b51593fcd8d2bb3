import ModelRuns.Json.Record
import ModelRuns.SessionLog

namespace ModelRuns

/-!
# The report of a run

At its end a run lists the files it generated, and may write and upload a
summary of the resources it worked with.
-/

/-- What a run did. -/
structure RunSummary where
  runId : Option String
  command : String
  outputDirectory : String
  /-- Identifiers by the name of their stage. -/
  resources : List (String × List String)
  generatedFiles : List String
deriving DecidableEq, Repr

namespace RunSummary

variable (summary : RunSummary)

/-- The parts of a summary in the order of its file. -/
def parts : Fields :=
  [("run_id", .ofOption .text summary.runId), ("command", .text summary.command),
    ("output_dir", .text summary.outputDirectory),
    ("resources", .ofFields (summary.resources.map fun (stage, ids) => (stage, .ofTexts ids))),
    ("generated_files", .ofTexts summary.generatedFiles)]

/-- A summary as a document. -/
def toJson : Json := .ofFields summary.parts

/-- Read the identifiers of each stage. -/
def readResources (document : Json) : Option (List (String × List String)) :=
  document.fields?.bind (·.mapM fun (stage, ids) => ids.texts?.map (stage, ·))

def ofJson? (document : Json) : Option RunSummary :=
  match document.parts? ["run_id", "command", "output_dir", "resources", "generated_files"] with
  | some [runId, command, output, resources, files] => do
    return {
      runId := ← Json.optional Json.text? runId
      command := ← Json.needed Json.text? command
      outputDirectory := ← Json.needed Json.text? output
      resources := ← Json.needed readResources resources
      generatedFiles := ← Json.needed Json.texts? files }
  | _ => none

end RunSummary

/-- The name of the directory of reports. -/
def reportsDirectory : String := "reports"

/-- The name of the file of a summary. -/
def summaryFile : String := "summary.json"

/-- Log a line for each of a list of names. -/
def logNames (log : SessionLog) : List String → Action Unit
  | [] => return ()
  | name :: rest => do
    log.raw (" - " ++ name)
    logNames log rest

/-- Log the files of the output directory, and give their names. -/
def listGenerated (log : SessionLog) (output : Path) : Action (List String) := do
  let names := (← Action.listFiles output).filterMap Path.fileName?
  log.raw ""
  log.raw ("Generated files in " ++ output.text ++ ":")
  logNames log names
  return names

/-- Write the summary into the output directory. -/
def writeSummary (output : Path) (summary : RunSummary) : Action Path := do
  let directory := output.child reportsDirectory
  Action.makeDirectory directory
  let path := directory.child summaryFile
  Action.writeFile path (prettyRecord summary.parts)
  return path

/-- Upload the summary, and learn where it is kept. -/
def uploadSummary (url : Option String) (summary : RunSummary) : Action String :=
  match url with
  | none =>
    throw (.invalidConfig "--upload needs [reports] upload_url in .bigmler_defaults")
  | some url => do
    let location ← Action.uploadReport url summary.toJson
    Action.note "info" "report.uploaded" [("location", .text location)]
    return location

end ModelRuns
