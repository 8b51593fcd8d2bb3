import ModelRuns.Pipeline.Training

namespace ModelRuns

/-!
# Test data

The test data is the part held out from the training data, or the datasets named
by the user, or a dataset built from a test source.
-/

namespace RunContext

variable (run : RunContext) (options : CommonOptions)

/-- The arguments of test data, which is named after the run. -/
def testArguments : Json :=
  options.argumentsWith [("name", .text (options.name ++ " - test"))]

/-- The source of the test data: the one named, or the uploaded file. -/
def testSource : Step (Option Resource) := do
  match options.testSource, options.testSet with
  | some text, _ =>
    let id ← namedId text .source
    return some (← run.fetch .testData (.unresolved id))
  | none, none => return none
  | none, some path =>
    return some (← run.obtainOne .testData .testSource
      ⟨.source, .localFile (run.resolvePath path), testArguments options⟩)

/-- The test datasets. -/
def testDataStage (training : TrainingData) : Step (List Resource) := do
  match training.heldOut with
  | some test => return [test]
  | none =>
    match ← run.fetchGiven .testData .dataset options.testDataset options.testDatasets with
    | [] =>
      match ← run.testSource options with
      | none => return []
      | some source =>
        return [← run.obtainOne .testData .testDataset
          ⟨.dataset, .resource source.id, testArguments options⟩]
    | given => return given

end RunContext

end ModelRuns
