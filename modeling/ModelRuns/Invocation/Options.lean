import ModelRuns.Path
import ModelRuns.Text.Blank

namespace ModelRuns

/-!
# Options of an invocation

There are two pipelines: the main one builds models and predictions, the other
builds clusters and centroids.  They share most of their options.  An
`Invocation` is the meaning of a command line, whatever the order and spelling
of its flags.
-/

/-- Which pipeline an invocation runs. -/
inductive Mode
  | main
  | cluster
deriving DecidableEq, Repr

/-- The name of a mode in logs. -/
def Mode.text : Mode → String
  | .main => "main"
  | .cluster => "cluster"

/-- The options both pipelines have. -/
structure CommonOptions where
  /-- Local training data to upload. -/
  trainingSet : Option Path
  /-- Identifiers of an existing source and dataset, and a file of datasets. -/
  source : Option String
  dataset : Option String
  datasets : Option Path
  /-- The same for test data. -/
  testSet : Option Path
  testSource : Option String
  testDataset : Option String
  testDatasets : Option Path
  outputDirectory : Option Path
  predictions : Option Path
  /-- Replay the last logged command, using again what it created. -/
  resume : Bool
  /-- Empty the command and directory logs first. -/
  clearLogs : Bool
  debug : Bool
  verbosity : Nat
  logFile : Option Path
  username : Option String
  apiKey : Option String
  name : String
  description : Option String
  tags : List String
  objective : Option String
  publicDataset : Bool
  shared : Bool
  unshared : Bool
  /-- The fraction of the dataset held out as test data. -/
  testSplit : Float
  newFields : Option Path
  multiDataset : Bool
  /-- The name of a file for the dataset as comma-separated values. -/
  toCsv : Option String
  seed : Option String
  sampleRate : Option Float
  remote : Bool
  reports : Bool
  upload : Bool

/-- The options of the main pipeline. -/
structure MainOptions where
  common : CommonOptions
  /-- Existing models: an identifier, a file of identifiers, an ensemble. -/
  model : Option String
  models : Option Path
  ensemble : Option String
  numberOfModels : Nat
  /-- Build one ensemble instead of independent models. -/
  ensembles : Bool
  maxCategories : Nat
  blackBox : Bool
  whiteBox : Bool
  evaluate : Bool
  crossValidationRate : Float
  numberOfEvaluations : Nat

/-- The options of the cluster pipeline. -/
structure ClusterOptions where
  common : CommonOptions
  /-- Existing clusters: an identifier, a file of identifiers, a local file. -/
  cluster : Option String
  clusters : Option Path
  clusterFile : Option Path
  k : Option Nat
  publicCluster : Bool
  /-- Names of centroids to build datasets for, separated by commas. -/
  clusterDatasets : Option String

/-- What a command line asks for. -/
inductive Invocation
  | main (options : MainOptions)
  | cluster (options : ClusterOptions)

/-! ## What the options say -/

namespace CommonOptions

variable (options : CommonOptions)

/-- Whether sharing is asked for or refused. -/
def sharedFlag : Option Bool :=
  if options.shared then some true else if options.unshared then some false else none

/-- Whether training data is given in any form. -/
def hasTrain : Bool :=
  options.trainingSet.isSome || options.source.isSome || options.dataset.isSome ||
    options.datasets.isSome

/-- Whether test data is given in any form. -/
def hasTest : Bool :=
  options.testSet.isSome || options.testSource.isSome || options.testDataset.isSome ||
    options.testDatasets.isSome

/-- The description, unless it is blank. -/
def descriptionText : Option String :=
  options.description.filter (fun text => !allBlank text)

end CommonOptions

/-- Whether existing models are given. -/
def MainOptions.hasModels (options : MainOptions) : Bool :=
  options.model.isSome || options.models.isSome || options.ensemble.isSome

/-- Whether existing clusters are given. -/
def ClusterOptions.hasClusters (options : ClusterOptions) : Bool :=
  options.cluster.isSome || options.clusters.isSome || options.clusterFile.isSome

/-- The names of a comma-separated list, trimmed, without blank ones. -/
def splitNames (text : String) : List String :=
  (splitChars ',' text.toList).map trimBlank |>.filter (fun name => !name.isEmpty)
    |>.map String.ofList

/-- The names of the centroids to build datasets for.  An empty list asks for
all of them. -/
def ClusterOptions.clusterDatasetNames (options : ClusterOptions) : Option (List String) :=
  options.clusterDatasets.map splitNames

namespace Invocation

/-- The shared options. -/
def common : Invocation → CommonOptions
  | .main options => options.common
  | .cluster options => options.common

def mode : Invocation → Mode
  | .main _ => .main
  | .cluster _ => .cluster

/-- The name of the output file when none is given. -/
def defaultOutputName : Invocation → String
  | .main options => if options.evaluate then "evaluation" else "predictions.csv"
  | .cluster _ => "centroids.csv"

/-- The local files a run reads its inputs from. -/
def inputFiles (invocation : Invocation) : List Path :=
  let common := invocation.common
  let shared := [common.trainingSet, common.datasets, common.testSet, common.testDatasets,
    common.newFields]
  let own := match invocation with
    | .main options => [options.models]
    | .cluster options => [options.clusters, options.clusterFile]
  (shared ++ own).filterMap id

/-- Whether there is anything to build. -/
def hasWork : Invocation → Bool
  | .main options => options.common.hasTrain || options.common.hasTest || options.hasModels
  | .cluster options =>
    options.common.hasTrain || options.common.hasTest || options.hasClusters ||
      options.clusterDatasets.isSome

end Invocation

end ModelRuns
