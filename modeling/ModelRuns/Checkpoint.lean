import ModelRuns.Program.Action
import ModelRuns.Text.Lines

namespace ModelRuns

/-!
# Checkpoints

An output directory holds one file of identifiers for each kind of request a run
may send.  The identifier of a new resource is appended as soon as the service
has given it, so that a later run can take up the same resource.  A fresh run
removes the checkpoints of earlier ones, except files it takes as inputs.
-/

/-- What a request creates, as far as resuming is concerned. -/
inductive Checkpoint
  | source
  | dataset
  | datasetTrain
  | datasetTest
  | datasetGenerated
  | datasetMerged
  | categoryDatasets
  | models
  | ensembles
  | clusters
  | testSource
  | testDataset
  | batchPrediction
  | batchCentroid
  | evaluations
  | crossValidationModels
  | crossValidationEvaluations
  | clusterDatasets
deriving DecidableEq, Repr

namespace Checkpoint

/-- Every checkpoint, in the order in which they are removed. -/
def all : List Checkpoint :=
  [.source, .dataset, .datasetTrain, .datasetTest, .datasetGenerated, .datasetMerged,
    .categoryDatasets, .models, .ensembles, .clusters, .testSource, .testDataset,
    .batchPrediction, .batchCentroid, .evaluations, .crossValidationModels,
    .crossValidationEvaluations, .clusterDatasets]

def fileName : Checkpoint → String
  | .source => "source"
  | .dataset => "dataset"
  | .datasetTrain => "dataset_train"
  | .datasetTest => "dataset_test"
  | .datasetGenerated => "dataset_gen"
  | .datasetMerged => "dataset_multi"
  | .categoryDatasets => "datasets"
  | .models => "models"
  | .ensembles => "ensembles"
  | .clusters => "clusters"
  | .testSource => "test_source"
  | .testDataset => "test_dataset"
  | .batchPrediction => "batch_prediction"
  | .batchCentroid => "batch_centroid"
  | .evaluations => "evaluations"
  | .crossValidationModels => "cross_validation_models"
  | .crossValidationEvaluations => "cross_validation_evaluations"
  | .clusterDatasets => "cluster_datasets"

def ofFileName? (name : String) : Option Checkpoint := all.find? (·.fileName == name)

/-- The file of a checkpoint in an output directory. -/
def path (directory : Path) (checkpoint : Checkpoint) : Path :=
  directory.child checkpoint.fileName

/-- The lines of a file of identifiers: trimmed, without blank ones. -/
def idLines (text : String) : List String :=
  ((lines text).map trim).filter (fun line => line ≠ "")

/-- The identifiers of the text of a checkpoint.  A line that is none makes the
file unreadable. -/
def ofText (file : Path) (text : String) : Except Failure (List ResourceId) :=
  (idLines text).mapM fun line =>
    match ResourceId.parse line with
    | .ok id => .ok id
    | .error failure => .error (.corruptLog (file.text ++ ": " ++ failure.message))

variable (directory : Path)

/-- The identifiers of a checkpoint; a missing file holds none. -/
def read (checkpoint : Checkpoint) : Action (List ResourceId) := do
  let file := path directory checkpoint
  if ← Action.fileExists file then
    Action.ofExcept (ofText file (← Action.readText file))
  else return []

/-- The first identifier of a checkpoint. -/
def first? (checkpoint : Checkpoint) : Action (Option ResourceId) := do
  return (← read directory checkpoint).head?

/-- Append the identifier of a new resource. -/
def append (checkpoint : Checkpoint) (id : ResourceId) : Action Unit :=
  Action.appendLine (path directory checkpoint) id.text

/-- Remove each of the given checkpoints that is there and is no input. -/
def removeAll (inputs : List Path) : List Checkpoint → Action Unit
  | [] => return ()
  | checkpoint :: rest => do
    let file := path directory checkpoint
    if ← Action.fileExists file then
      if !inputs.any (fun input => input.same file) then Action.removeFile file
    removeAll inputs rest

/-- Remove the checkpoints that earlier runs left, so that resuming finds only
what this run creates. -/
def reset (inputs : List Path) : Action Unit := removeAll directory inputs all

end Checkpoint

end ModelRuns
