import ModelRuns.Pipeline.Basic
import ModelRuns.Invocation.Options
import ModelRuns.Report

namespace ModelRuns

/-!
# The last stage

Every run ends by listing the files it generated.  A summary is written when
reports are asked for, and also before it is uploaded.
-/

namespace RunContext

variable (run : RunContext) (options : CommonOptions)

def summary (progress : Progress) (files : List String) : RunSummary where
  runId := run.runId
  command := run.command
  outputDirectory := run.paths.output.text
  resources := progress.resources
  generatedFiles := files

/-- List the files, and write and upload the summary as asked for. -/
def reportStage : Step Unit := do
  let files ← Stateful.act (listGenerated run.log run.paths.output)
  if options.reports || options.upload then
    let summary := run.summary (← get) files
    let path ← Stateful.act (writeSummary run.paths.output summary)
    run.say ("Report written to " ++ path.text ++ ".")
    if options.upload then
      let location ← Stateful.act (uploadSummary run.settings.uploadUrl summary)
      run.say ("Report uploaded to " ++ location ++ ".")

end RunContext

end ModelRuns
