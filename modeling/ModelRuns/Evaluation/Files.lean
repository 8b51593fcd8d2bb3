import ModelRuns.Evaluation.Metrics
import ModelRuns.Program.Action

namespace ModelRuns

/-!
# Files of evaluations

A result is written twice: as a document, and as a text with one metric a line.
-/

def crossValidationName : String := "cross_validation"

def metricsText (result : Json) : String :=
  "\n".intercalate (metricTexts "" result) ++ "\n"

/-- Write a result as a document and as a text. -/
def writeResult (base : Path) (result : Json) : Action (List Path) := do
  let document := base.withSuffix ".json"
  let text := base.withSuffix ".txt"
  Action.writeFile document result.pretty
  Action.writeFile text (metricsText result)
  return [document, text]

/-- Write the result of an evaluation. -/
def writeEvaluation (base : Path) (evaluation : Resource) : Action (List Path) :=
  writeResult base ((evaluation.body.field? "result").getD .null)

/-- Write the average of the results of several evaluations. -/
def writeCrossValidation (directory : Path) (evaluations : List Resource) :
    Action (List Path) :=
  let results := evaluations.filterMap (fun evaluation =>
    evaluation.body.descend? ["result", "model"])
  writeResult (directory.child crossValidationName) (averageResults results)

end ModelRuns
