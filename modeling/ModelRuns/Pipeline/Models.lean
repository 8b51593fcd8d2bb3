import ModelRuns.Evaluation.Files
import ModelRuns.Pipeline.Reporting
import ModelRuns.Pipeline.TestData

namespace ModelRuns

/-!
# The main pipeline

From a source to datasets, from datasets to models or an ensemble, and then one
action: a cross-validation, an evaluation or predictions, the first of these
that is asked for.
-/

/-- What predicts: an ensemble, or models. -/
structure Predictor where
  ensemble : Option Resource
  models : List Resource

namespace Predictor

/-- Nothing that predicts. -/
def none : Predictor := ⟨.none, []⟩

/-- The ensemble if there is one, and else the first model. -/
def primary? (predictor : Predictor) : Option Resource :=
  predictor.ensemble <|> predictor.models.head?

/-- Everything that predicts. -/
def resources (predictor : Predictor) : List Resource :=
  predictor.ensemble.toList ++ predictor.models

end Predictor

/-- What a run does with its models. -/
inductive ModelAction
  | none
  | predict
  | evaluate
  | crossValidate
deriving DecidableEq, Repr

namespace MainOptions

variable (options : MainOptions)

/-- Whether a cross-validation is asked for. -/
def crossValidates : Bool := 0.0 < options.crossValidationRate

/-- The action of a run: the first that applies. -/
def action (hasTest : Bool) : ModelAction :=
  if options.crossValidates then .crossValidate
  else if options.evaluate then .evaluate
  else if hasTest then .predict
  else .none

/-- The limit of the categories, if there is one. -/
def categoryLimit : Option CategoryLimit :=
  if 0 < options.maxCategories then options.common.objective.map (⟨·, options.maxCategories⟩)
  else Option.none

/-- The arguments of models and ensembles. -/
def modelArguments : Fields :=
  mergeFields options.common.baseArguments
    (optionalField "objective_field" .text options.common.objective ++
      optionalField "sample_rate" .ofFloat options.common.sampleRate)

/-- The request for an ensemble. -/
def ensembleCreation (datasets : List ResourceId) : Creation :=
  ⟨.ensemble, datasetOrigin datasets, .object (mergeFields options.modelArguments
    (("number_of_models", .ofNat options.numberOfModels) ::
      optionalField "seed" .text options.common.seed))⟩

/-- The request for the model of one category.  It keeps the limit of the
categories, and has the field of that limit as its objective. -/
def categoryModelCreation (metadata : Fields) (dataset : ResourceId) : Creation :=
  ⟨.model, .resource dataset, .object (mergeFields options.modelArguments
    (("user_metadata", .object metadata) ::
      optionalField "objective_field" id (getField? "objective_field" metadata)))⟩

/-- The seed of one of the models of a run; only several models have numbers. -/
def modelSeed (index : Nat) : Option String :=
  options.common.seed.map fun seed =>
    if 1 < options.numberOfModels then seed ++ " - " ++ toString index else seed

/-- The request for one of the models of a run. -/
def modelCreation (datasets : List ResourceId) (index : Nat) : Creation :=
  ⟨.model, datasetOrigin datasets, .object (mergeFields options.modelArguments
    (optionalField "seed" .text (options.modelSeed index)))⟩

/-- The requests for all models of a run. -/
def modelCreations (training : TrainingData) : List Creation :=
  let datasets := training.datasets.map Resource.id
  match training.categoryMetadata with
  | some metadata => datasets.map (options.categoryModelCreation metadata)
  | Option.none => (List.range options.numberOfModels).map (options.modelCreation datasets)

/-- The rate of the samples of a cross-validation. -/
def foldRate : Json := .ofFloat (1.0 - options.crossValidationRate)

/-- The seed of a sample of a cross-validation. -/
def foldSeed (index : Nat) : Json :=
  .text (options.common.seed.getD defaultSeed ++ " - " ++ toString index)

/-- The request for a model of a cross-validation. -/
def foldModelCreation (dataset : ResourceId) (index : Nat) : Creation :=
  ⟨.model, .resource dataset, options.common.argumentsWith
    [("name", .text (options.common.name ++ " - cross-validation " ++ toString index)),
      ("sample_rate", options.foldRate), ("seed", options.foldSeed index)]⟩

/-- The request for an evaluation of a cross-validation, on what the sample of
its model leaves out. -/
def foldEvaluationCreation (dataset : ResourceId) (model : ResourceId) (index : Nat) :
    Creation :=
  ⟨.evaluation, .pair model dataset, options.common.argumentsWith
    [("sample_rate", options.foldRate), ("seed", options.foldSeed index),
      ("out_of_bag", .bool true)]⟩

end MainOptions

namespace RunContext

variable (run : RunContext) (options : MainOptions)

/-- Refuse a run that lacks what its action needs. -/
def needed (found : Option α) (missing : String) : Step α :=
  Stateful.act (Action.ofExcept (match found with
    | some value => .ok value
    | Option.none => .error (.invalidConfig missing)))

/-- Build an ensemble or models. -/
def buildPredictor (training : TrainingData) : Step Predictor := do
  if options.ensembles then
    let ensemble ← run.obtainOne .model .ensembles
      (options.ensembleCreation (training.datasets.map Resource.id))
    return ⟨some ensemble, []⟩
  else
    return ⟨.none, ← run.obtainMany .model .models (options.modelCreations training)⟩

/-- The models named by the user, or new ones.  Only new ones are published. -/
def modelStage (training : TrainingData) : Step Predictor := do
  match options.ensemble with
  | some text =>
    let id ← namedId text .ensemble
    return ⟨some (← run.fetch .model (.unresolved id)), []⟩
  | .none =>
    match ← run.fetchGiven .model .model options.model options.models with
    | [] =>
      if training.datasets.isEmpty then return Predictor.none
      let predictor ← run.buildPredictor options training
      run.publish (options.common.publishChanges options.blackBox options.whiteBox)
        predictor.resources "Model sharing settings updated."
      if let some primary := predictor.primary? then
        run.say ("Primary predictor: " ++ primary.id.text ++ ".")
      return predictor
    | models => return ⟨.none, models⟩

/-- The request for the predictions of one test dataset. -/
def predictionCreation (primary dataset : ResourceId) : Creation :=
  ⟨.batchPrediction, .pair primary dataset, options.common.argumentsWith
    [("header", .bool true), ("confidence", .bool true)]⟩

/-- Predict for every test dataset, and save the predictions. -/
def predict (predictor : Predictor) (tests : List Resource) : Step Unit := do
  let primary ← needed predictor.primary? "no model or ensemble available to predict with"
  let batches ← run.obtainMany .action .batchPrediction
    (tests.map fun test => predictionCreation options primary.id test.id)
  run.saveNumbered run.paths.predictions 0 batches

/-- Evaluate on the first test dataset, or on the training data if there is no
test data. -/
def evaluate (predictor : Predictor) (training : TrainingData) (tests : List Resource) :
    Step Unit := do
  let primary ← needed predictor.primary? "no model or ensemble available to evaluate"
  let dataset ← needed (tests.head? <|> training.datasets.head?)
    "no dataset available to evaluate against"
  let evaluation ← run.obtainOne .action .evaluations
    ⟨.evaluation, .pair primary.id dataset.id, .object options.common.baseArguments⟩
  run.saySaved "Evaluation"
    (← Stateful.act (writeEvaluation run.paths.predictions evaluation))

/-- Build models on samples of the first dataset, evaluate each on what its
sample leaves out, and save the average. -/
def crossValidate (training : TrainingData) : Step Unit := do
  let dataset ← needed training.datasets.head? "cross-validation needs a training dataset"
  let models ← run.obtainMany .action .crossValidationModels
    ((List.range options.numberOfEvaluations).map (options.foldModelCreation dataset.id))
  let evaluations ← run.obtainMany .action .crossValidationEvaluations
    (models.zipIdx.map fun (model, index) =>
      options.foldEvaluationCreation dataset.id model.id index)
  run.saySaved "Cross-validation"
    (← Stateful.act (writeCrossValidation run.paths.output evaluations))

/-- Run an action. -/
def act (action : ModelAction) (predictor : Predictor) (training : TrainingData)
    (tests : List Resource) : Step Unit :=
  match action with
  | .none => pure ()
  | .predict => run.predict options predictor tests
  | .evaluate => run.evaluate options predictor training tests
  | .crossValidate => run.crossValidate options training

/-- Run a stage if it is due, and have its default value otherwise. -/
def stageIf (due : Bool) (stage : Stage) (default : α) (body : Step α) : Step α :=
  if due then Stateful.inStage stage body else pure default

/-- The main pipeline. -/
def runMain : Step Unit := do
  let common := options.common
  let hasDatasets := common.dataset.isSome || common.datasets.isSome
  let source ← stageIf (!hasDatasets && !options.hasModels) .source .none
    (run.sourceStage common)
  let training ← stageIf (source.isSome || hasDatasets) .dataset .none
    (run.datasetStage common source options.categoryLimit)
  let predictor ← stageIf (!options.crossValidates || options.hasModels) .model .none
    (run.modelStage options training)
  let hasTest := common.hasTest || training.heldOut.isSome
  let action := options.action hasTest
  let tests ← stageIf ((action == .predict || action == .evaluate) && hasTest) .testData []
    (run.testDataStage common training)
  stageIf (action != .none) .action () (run.act options action predictor training tests)
  Stateful.inStage .report (run.reportStage common)

end RunContext

end ModelRuns
