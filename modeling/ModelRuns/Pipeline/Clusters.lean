import ModelRuns.Pipeline.Models

namespace ModelRuns

/-!
# The cluster pipeline

From a source to datasets, from datasets to a cluster, and then the centroids of
test data and datasets of the rows around single centroids.
-/

/-- A centroid of a cluster. -/
structure Centroid where
  id : String
  name : String
  /-- The dataset of its rows, if the cluster lists one. -/
  dataset : Option ResourceId
deriving DecidableEq, Repr

/-- The dataset a cluster lists for a centroid.  What is no identifier of a
dataset counts as nothing. -/
def listedDataset (cluster : Resource) (centroid : String) : Option ResourceId :=
  ((cluster.body.field? "cluster_datasets").bind (·.field? centroid)).bind fun value =>
    value.text?.bind fun text => (ResourceId.parseKind text .dataset).toOption

/-- A centroid as a cluster describes it; one without a name is named after its
identifier. -/
def Centroid.ofJson? (cluster : Resource) (item : Json) : Option Centroid :=
  ((item.field? "id").bind Json.text?).map fun id =>
    ⟨id, ((item.field? "name").bind Json.text?).getD id, listedDataset cluster id⟩

def centroids (cluster : Resource) : List Centroid :=
  ((cluster.body.descend? ["clusters", "clusters"]).bind Json.items?).getD []
    |>.filterMap (Centroid.ofJson? cluster)

/-- The centroids with one of the given names; without names, all. -/
def selectCentroids (names : List String) (all : List Centroid) : List Centroid :=
  all.filter fun centroid => names.isEmpty || names.contains centroid.name

namespace RunContext

variable (run : RunContext) (options : ClusterOptions)

/-- The cluster of a local file, if one is given. -/
def readCluster : Option Path → Step (List ResourceReference)
  | none => return []
  | some path => Stateful.act do
    let path := run.resolvePath path
    match Json.read (← Action.readText path) with
    | .error error =>
      throw (.invalidConfig (path.text ++ " is not a cluster: " ++ error.message))
    | .ok body => return [.resolved (← Action.ofExcept (Resource.parse body))]

/-- The cluster of a flag, if one is given. -/
def namedCluster : Option String → Step (List ResourceReference)
  | none => return []
  | some text => return [.unresolved (← namedId text .cluster)]

/-- The clusters of a file of identifiers, if one is given. -/
def listedClusters : Option Path → Step (List ResourceReference)
  | none => return []
  | some path => return (← run.readIds path .cluster).map .unresolved

def clusterArguments : Json :=
  options.common.argumentsWith
    (optionalField "k" .ofNat options.k ++ optionalField "seed" .text options.common.seed)

/-- The clusters given by the user, or a new one.  Only a new one is
published. -/
def clusterStage (training : TrainingData) : Step (List Resource) := do
  let fromFile ← run.readCluster options.clusterFile
  let named ← namedCluster options.cluster
  let listed ← run.listedClusters options.clusters
  match fromFile ++ named ++ listed with
  | [] =>
    if training.datasets.isEmpty then return []
    let cluster ← run.obtainOne .model .clusters
      ⟨.cluster, datasetOrigin (training.datasets.map Resource.id), clusterArguments options⟩
    run.publish (options.common.publishChanges options.publicCluster false) [cluster]
      "Cluster sharing settings updated."
    return [cluster]
  | given => run.fetchAll .model given

/-- The request for the centroids of a test dataset. -/
def batchCentroidCreation (cluster dataset : ResourceId) : Creation :=
  ⟨.batchCentroid, .pair cluster dataset, options.common.argumentsWith
    [("header", .bool true), ("distance", .bool true)]⟩

/-- Find the centroids of every test dataset, and save them. -/
def batchCentroids (cluster : Resource) (tests : List Resource) : Step Unit := do
  let batches ← run.obtainMany .action .batchCentroid
    (tests.map fun test => batchCentroidCreation options cluster.id test.id)
  run.saveNumbered run.paths.predictions 0 batches

/-- The request for the dataset of a centroid. -/
def centroidDatasetCreation (cluster : ResourceId) (centroid : Centroid) : Creation :=
  ⟨.dataset, .resource cluster, .ofFields
    [("centroid", .text centroid.id), ("name", .text ("Dataset from " ++ centroid.name))]⟩

/-- Have a dataset for each selected centroid.  Those the cluster lists are
fetched, the others built. -/
def centroidDatasets (cluster : Resource) (names : List String) : Step Unit := do
  match selectCentroids names (centroids cluster) with
  | [] => run.say "No centroid matches the requested cluster datasets."
  | selected =>
    let _ ← run.fetchAll .action
      ((selected.filterMap Centroid.dataset).map .unresolved)
    match selected.filter (fun centroid => centroid.dataset.isNone) with
    | [] => return ()
    | missing =>
      let _ ← run.obtainMany .action .clusterDatasets
        (missing.map (centroidDatasetCreation cluster.id))
      return ()

/-- Use a cluster: find the centroids of the test data, and build datasets of
centroids as asked for. -/
def useCluster (clusters tests : List Resource) (names : Option (List String)) :
    Step Unit := do
  let primary ← needed clusters.head? "no cluster available"
  if !tests.isEmpty then run.batchCentroids options primary tests
  match names with
  | none => return ()
  | some names => run.centroidDatasets primary names

/-- The cluster pipeline. -/
def runCluster : Step Unit := do
  let common := options.common
  let hasDatasets := common.dataset.isSome || common.datasets.isSome
  let source ← stageIf (!hasDatasets && !options.hasClusters) .source none
    (run.sourceStage common)
  let training ← stageIf (source.isSome || hasDatasets) .dataset .none
    (run.datasetStage common source none)
  let clusters ← Stateful.inStage .model (run.clusterStage options training)
  let hasTest := common.hasTest || training.heldOut.isSome
  let tests ← stageIf hasTest .testData [] (run.testDataStage common training)
  let names := options.clusterDatasetNames
  stageIf (!tests.isEmpty || names.isSome) .action ()
    (run.useCluster options clusters tests names)
  Stateful.inStage .report (run.reportStage common)

end RunContext

end ModelRuns
