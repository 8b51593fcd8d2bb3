import ModelRuns.Invocation.Options

namespace ModelRuns

/-!
# Flags

Every flag has a name and a form, which says whether it takes a value and of
which kind.  Messages show a flag with a placeholder for its value.
-/

/-- The flags of the two pipelines. -/
inductive Flag
  | train | source | dataset | datasets | test | testSource | testDataset | testDatasets
  | outputDir | predictions | resume | clearLogs | debug | verbosity | logFile | username
  | apiKey | name | description | tag | objective | publicDataset | shared | unshared
  | testSplit | newFields | multiDataset | toCsv | seed | sampleRate | remote | reports | upload
  | model | models | ensemble | numberOfModels | ensembles | maxCategories | blackBox | whiteBox
  | evaluate | crossValidationRate | numberOfEvaluations
  | cluster | clusters | clusterFile | k | publicCluster | clusterDatasets
deriving DecidableEq, Repr

/-- What a flag takes. -/
inductive FlagForm
  | switch
  | text
  | path
  | fraction
  | natural (limit : Nat)
  | optionalText
deriving DecidableEq, Repr

namespace Flag

/-- The flags both pipelines have. -/
def common : List Flag :=
  [.train, .source, .dataset, .datasets, .test, .testSource, .testDataset, .testDatasets,
    .outputDir, .predictions, .resume, .clearLogs, .debug, .verbosity, .logFile, .username,
    .apiKey, .name, .description, .tag, .objective, .publicDataset, .shared, .unshared,
    .testSplit, .newFields, .multiDataset, .toCsv, .seed, .sampleRate, .remote, .reports, .upload]

/-- The flags of a pipeline. -/
def ofMode : Mode → List Flag
  | .main => common ++ [.model, .models, .ensemble, .numberOfModels, .ensembles, .maxCategories,
      .blackBox, .whiteBox, .evaluate, .crossValidationRate, .numberOfEvaluations]
  | .cluster => common ++ [.cluster, .clusters, .clusterFile, .k, .publicCluster,
      .clusterDatasets]

/-- The name of a flag, without its dashes. -/
def text : Flag → String
  | .train => "train"
  | .source => "source"
  | .dataset => "dataset"
  | .datasets => "datasets"
  | .test => "test"
  | .testSource => "test-source"
  | .testDataset => "test-dataset"
  | .testDatasets => "test-datasets"
  | .outputDir => "output-dir"
  | .predictions => "predictions"
  | .resume => "resume"
  | .clearLogs => "clear-logs"
  | .debug => "debug"
  | .verbosity => "verbosity"
  | .logFile => "log-file"
  | .username => "username"
  | .apiKey => "api-key"
  | .name => "name"
  | .description => "description"
  | .tag => "tag"
  | .objective => "objective"
  | .publicDataset => "public-dataset"
  | .shared => "shared"
  | .unshared => "unshared"
  | .testSplit => "test-split"
  | .newFields => "new-fields"
  | .multiDataset => "multi-dataset"
  | .toCsv => "to-csv"
  | .seed => "seed"
  | .sampleRate => "sample-rate"
  | .remote => "remote"
  | .reports => "reports"
  | .upload => "upload"
  | .model => "model"
  | .models => "models"
  | .ensemble => "ensemble"
  | .numberOfModels => "number-of-models"
  | .ensembles => "ensembles"
  | .maxCategories => "max-categories"
  | .blackBox => "black-box"
  | .whiteBox => "white-box"
  | .evaluate => "evaluate"
  | .crossValidationRate => "cross-validation-rate"
  | .numberOfEvaluations => "number-of-evaluations"
  | .cluster => "cluster"
  | .clusters => "clusters"
  | .clusterFile => "cluster-file"
  | .k => "k"
  | .publicCluster => "public-cluster"
  | .clusterDatasets => "cluster-datasets"

/-- A flag as it is written on a command line. -/
def token (flag : Flag) : String := "--" ++ flag.text

/-- What a flag takes. -/
def form : Flag → FlagForm
  | .train | .datasets | .test | .testDatasets | .outputDir | .predictions | .logFile
  | .newFields | .models | .clusters | .clusterFile => .path
  | .source | .dataset | .testSource | .testDataset | .username | .apiKey | .name
  | .description | .tag | .objective | .toCsv | .seed | .model | .ensemble | .cluster => .text
  | .resume | .clearLogs | .debug | .publicDataset | .shared | .unshared | .multiDataset
  | .remote | .reports | .upload | .ensembles | .blackBox | .whiteBox | .evaluate
  | .publicCluster => .switch
  | .testSplit | .sampleRate | .crossValidationRate => .fraction
  | .verbosity => .natural 255
  | .numberOfModels | .maxCategories | .numberOfEvaluations | .k => .natural 4294967295
  | .clusterDatasets => .optionalText

/-- Whether a flag may be given more than once. -/
def isRepeatable (flag : Flag) : Bool := flag == .tag

/-- The placeholder for the value of a flag. -/
def placeholder : Flag → String
  | .train => "TRAINING_SET"
  | .test => "TEST_SET"
  | .tag => "TAGS"
  | flag => String.ofList (flag.text.toList.map fun c => if c = '-' then '_' else c.toUpper)

/-- A flag as messages show it. -/
def shown (flag : Flag) : String :=
  match flag.form with
  | .switch => flag.token
  | .optionalText => flag.token ++ " [<" ++ flag.placeholder ++ ">]"
  | _ => flag.token ++ " <" ++ flag.placeholder ++ ">"

/-- The flag of a name, among those of a pipeline. -/
def ofText? (mode : Mode) (name : String) : Option Flag :=
  (ofMode mode).find? (·.text == name)

end Flag

end ModelRuns
