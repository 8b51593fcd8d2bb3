import ModelRuns.Pipeline.Clusters

namespace ModelRuns

/-!
# The requests of a run

A run sends few kinds of requests, and what it sends is fixed by its options up
to the identifiers it was given.  `Sends` lists the creations with the checkpoint
each is recorded in, and `MayAsk` everything else except looking at resources and
reading its inputs and checkpoints.  That nothing else is asked is what the
structure of the pipelines shows.
-/

namespace RunContext

/-- A run creates a resource for a checkpoint with this request. -/
inductive Sends (run : RunContext) : Invocation → Checkpoint → Creation → Prop
  | source (invocation : Invocation) (path : Path)
      (given : invocation.common.trainingSet = some path) :
      Sends run invocation .source
        ⟨.source, .localFile (run.resolvePath path), .object invocation.common.baseArguments⟩
  | dataset (invocation : Invocation) (source : ResourceId) :
      Sends run invocation .dataset
        ⟨.dataset, .resource source, .object invocation.common.baseArguments⟩
  | datasetGenerated (invocation : Invocation) (first : ResourceId) (fields : Json)
      (asked : invocation.common.newFields.isSome = true) :
      Sends run invocation .datasetGenerated
        ⟨.dataset, .resource first, invocation.common.argumentsWith [("new_fields", fields)]⟩
  | datasetMerged (invocation : Invocation) (datasets : List ResourceId)
      (asked : invocation.common.multiDataset = true) (several : 1 < datasets.length) :
      Sends run invocation .datasetMerged
        ⟨.dataset, .resources datasets, .object invocation.common.baseArguments⟩
  | datasetTrain (invocation : Invocation) (dataset : Resource)
      (asked : 0.0 < invocation.common.testSplit) :
      Sends run invocation .datasetTrain (splitCreation invocation.common dataset false)
  | datasetTest (invocation : Invocation) (dataset : Resource)
      (asked : 0.0 < invocation.common.testSplit) :
      Sends run invocation .datasetTest (splitCreation invocation.common dataset true)
  | categoryDataset (options : MainOptions) (limit : CategoryLimit)
      (limited : options.categoryLimit = some limit) (dataset : Resource)
      (filter : CategoryFilter) :
      Sends run (.main options) .categoryDatasets (filterCreation options.common dataset filter)
  | ensemble (options : MainOptions) (asked : options.ensembles = true)
      (datasets : List ResourceId) :
      Sends run (.main options) .ensembles (options.ensembleCreation datasets)
  | model (options : MainOptions) (single : options.ensembles = false) (training : TrainingData)
      (creation : Creation) (member : creation ∈ options.modelCreations training) :
      Sends run (.main options) .models creation
  | cluster (options : ClusterOptions) (datasets : List ResourceId) :
      Sends run (.cluster options) .clusters
        ⟨.cluster, datasetOrigin datasets, clusterArguments options⟩
  | testSource (invocation : Invocation) (path : Path)
      (given : invocation.common.testSet = some path) :
      Sends run invocation .testSource
        ⟨.source, .localFile (run.resolvePath path), testArguments invocation.common⟩
  | testDataset (invocation : Invocation) (source : ResourceId) :
      Sends run invocation .testDataset
        ⟨.dataset, .resource source, testArguments invocation.common⟩
  | prediction (options : MainOptions) (primary dataset : ResourceId) :
      Sends run (.main options) .batchPrediction (predictionCreation options primary dataset)
  | evaluation (options : MainOptions) (primary dataset : ResourceId) :
      Sends run (.main options) .evaluations
        ⟨.evaluation, .pair primary dataset, .object options.common.baseArguments⟩
  | foldModel (options : MainOptions) (dataset : ResourceId) (index : Nat) :
      Sends run (.main options) .crossValidationModels (options.foldModelCreation dataset index)
  | foldEvaluation (options : MainOptions) (dataset model : ResourceId) (index : Nat) :
      Sends run (.main options) .crossValidationEvaluations
        (options.foldEvaluationCreation dataset model index)
  | batchCentroid (options : ClusterOptions) (cluster dataset : ResourceId) :
      Sends run (.cluster options) .batchCentroid (batchCentroidCreation options cluster dataset)
  | centroidDataset (options : ClusterOptions) (cluster : ResourceId) (centroid : Centroid) :
      Sends run (.cluster options) .clusterDatasets (centroidDatasetCreation cluster centroid)

/-- A run writes a result into this file. -/
inductive Writes (run : RunContext) : Invocation → Path → Prop
  | exported (invocation : Invocation) (name : String)
      (asked : invocation.common.toCsv = some name) :
      Writes run invocation (run.paths.output.child name)
  | predictions (options : MainOptions) (trained : options.crossValidates = false)
      (predicting : options.evaluate = false) (index : Nat) :
      Writes run (.main options) (numberedOutput run.paths.predictions index)
  | centroids (options : ClusterOptions) (index : Nat) :
      Writes run (.cluster options) (numberedOutput run.paths.predictions index)
  | evaluation (options : MainOptions) (asked : options.evaluate = true) (suffix : String)
      (member : suffix ∈ [".json", ".txt"]) :
      Writes run (.main options) (run.paths.predictions.withSuffix suffix)
  | crossValidation (options : MainOptions) (asked : options.crossValidates = true)
      (suffix : String) (member : suffix ∈ [".json", ".txt"]) :
      Writes run (.main options) ((run.paths.output.child crossValidationName).withSuffix suffix)
  | summary (invocation : Invocation) :
      Writes run invocation ((run.paths.output.child reportsDirectory).child summaryFile)

/-- A run changes a resource in this way when it publishes or shares it. -/
def Publishes : Invocation → Json → Prop
  | .main options, changes =>
    options.common.publishChanges options.common.publicDataset false = some changes ∨
      options.common.publishChanges options.blackBox options.whiteBox = some changes
  | .cluster options, changes =>
    options.common.publishChanges options.common.publicDataset false = some changes ∨
      options.common.publishChanges options.publicCluster false = some changes

/-- A run asks this besides creating resources, looking at them and reading
files. -/
def MayAsk (run : RunContext) (invocation : Invocation) : Request → Prop
  | .file (.append path _) => path = run.log.path
  | .file (.write path _) => run.Writes invocation path
  | .file (.makeDirectory path) => path = run.paths.output.child reportsDirectory
  | .file (.list path) => path = run.paths.output
  | .api (.update _ changes) => Publishes invocation changes
  | .api (.download _) => True
  | .api (.uploadReport url _) => run.settings.uploadUrl = some url
  | .now => True
  | .printLine _ => True
  | .note _ => True
  | _ => False

/-- A file a run reads its inputs from. -/
def Reads (run : RunContext) (invocation : Invocation) (path : Path) : Prop :=
  ∃ input ∈ invocation.inputFiles, path = run.resolvePath input

end RunContext

/-- The place of a checkpoint in the order in which a run comes to it.  A run
comes to no more than one of the checkpoints at a place. -/
def Checkpoint.turn : Checkpoint → Nat
  | .source => 0
  | .dataset => 1
  | .datasetGenerated => 2
  | .datasetMerged => 3
  | .datasetTrain => 4
  | .datasetTest => 5
  | .categoryDatasets => 6
  | .models => 7
  | .ensembles => 7
  | .clusters => 7
  | .testSource => 8
  | .testDataset => 9
  | .batchPrediction => 10
  | .evaluations => 10
  | .crossValidationModels => 10
  | .batchCentroid => 10
  | .crossValidationEvaluations => 11
  | .clusterDatasets => 11

end ModelRuns
