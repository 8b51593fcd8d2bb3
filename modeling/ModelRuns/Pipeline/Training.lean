import ModelRuns.Pipeline.Arguments
import ModelRuns.Pipeline.Basic
import ModelRuns.Pipeline.Categories

namespace ModelRuns

/-!
# Training data

The training datasets are those named by the user, or one built from the source.
They are extended by new fields, merged, published, exported, split and divided
by categories, in this order, each as far as it is asked for.
-/

/-- The datasets to train on, and what comes with them. -/
structure TrainingData where
  datasets : List Resource
  /-- The part held out as test data. -/
  heldOut : Option Resource
  /-- What models of a run with limited categories keep about it. -/
  categoryMetadata : Option Fields

def TrainingData.none : TrainingData := ⟨[], .none, .none⟩

/-- The seed of a run that names none. -/
def defaultSeed : String := "BigMLer"

/-- The limit of the categories of an objective field. -/
structure CategoryLimit where
  objective : String
  limit : Nat
deriving DecidableEq, Repr

namespace RunContext

variable (run : RunContext) (options : CommonOptions)

/-- Read the identifier of a resource named by the user. -/
def namedId (text : String) (kind : ResourceKind) : Step ResourceId :=
  Stateful.act (Action.ofExcept (ResourceId.parseKind text kind))

/-- Wait for the resource of a flag, if the flag is given. -/
def fetchNamed (stage : Stage) (kind : ResourceKind) : Option String → Step (List Resource)
  | none => return []
  | some text => do
    let id ← namedId text kind
    return [← run.fetch stage (.unresolved id)]

/-- Wait for the resources of a file of identifiers, if it is given. -/
def fetchListed (stage : Stage) (kind : ResourceKind) : Option Path → Step (List Resource)
  | none => return []
  | some path => do
    let ids ← run.readIds path kind
    run.fetchAll stage (ids.map .unresolved)

/-- Wait for the resources that a flag and a file name. -/
def fetchGiven (stage : Stage) (kind : ResourceKind) (text : Option String)
    (path : Option Path) : Step (List Resource) := do
  let named ← run.fetchNamed stage kind text
  return named ++ (← run.fetchListed stage kind path)

/-- The source of the training data: the one named, or the uploaded file. -/
def sourceStage : Step (Option Resource) := do
  match options.source, options.trainingSet with
  | some text, _ =>
    let id ← namedId text .source
    return some (← run.fetch .source (.unresolved id))
  | none, none => return none
  | none, some path =>
    return some (← run.obtainOne .source .source
      ⟨.source, .localFile (run.resolvePath path), .object options.baseArguments⟩)

/-- The datasets to begin with. -/
def firstDatasets (source : Option Resource) : Step (List Resource) := do
  let given ← run.fetchGiven .dataset .dataset options.dataset options.datasets
  match given, source with
  | [], some source =>
    return [← run.obtainOne .dataset .dataset
      ⟨.dataset, .resource source.id, .object options.baseArguments⟩]
  | given, _ => return given

/-- Extend the first dataset by new fields, if they are given.  The extended
dataset takes the place of all. -/
def withNewFields (first : Resource) (datasets : List Resource) : Step (List Resource) := do
  match options.newFields with
  | none => return datasets
  | some path =>
    let fields ← run.readJson path
    return [← run.obtainOne .dataset .datasetGenerated
      ⟨.dataset, .resource first.id, options.argumentsWith [("new_fields", fields)]⟩]

/-- Merge several datasets into one, if that is asked for. -/
def merged (datasets : List Resource) : Step (List Resource) := do
  if options.multiDataset ∧ 1 < datasets.length then
    return [← run.obtainOne .dataset .datasetMerged
      ⟨.dataset, .resources (datasets.map Resource.id), .object options.baseArguments⟩]
  else return datasets

/-- Publish and share resources as asked for, and say so. -/
def publish (changes : Option Json) (resources : List Resource) (message : String) :
    Step Unit := do
  match changes with
  | none => return ()
  | some changes =>
    resources.forM fun resource => update resource changes
    run.say message

/-- Export a dataset, if that is asked for. -/
def exportDataset (dataset : Resource) : Step Unit := do
  match options.toCsv with
  | none => return ()
  | some name => run.saveTo dataset.id (run.paths.output.child name)

/-- The request for one part of a split.  The two parts have the same rate and
seed, and one is what the other leaves out. -/
def splitCreation (dataset : Resource) (outOfBag : Bool) : Creation :=
  let seed := options.seed.getD defaultSeed
  ⟨.dataset, .resource dataset.id, options.argumentsWith
    [("sample_rate", .ofFloat (1.0 - options.testSplit)), ("seed", .text seed),
      ("out_of_bag", .bool outOfBag)]⟩

/-- Split a dataset into a part to train on and a part to test with, if that is
asked for. -/
def split (dataset : Resource) (datasets : List Resource) :
    Step (List Resource × Option Resource) := do
  if 0.0 < options.testSplit then
    let train ← run.obtainOne .dataset .datasetTrain (splitCreation options dataset false)
    let test ← run.obtainOne .dataset .datasetTest (splitCreation options dataset true)
    return ([train], some test)
  else return (datasets, none)

/-- The request for the dataset of a filter. -/
def filterCreation (dataset : Resource) (filter : CategoryFilter) : Creation :=
  ⟨.dataset, .resource dataset.id, options.argumentsWith
    [("name", .text (options.name ++ " - " ++ filter.label)),
      ("lisp_filter", .text filter.filter)]⟩

/-- Divide the first dataset by the categories of the objective field, if they
are limited. -/
def divided (limit : Option CategoryLimit) (training : TrainingData) : Step TrainingData := do
  match limit, training.datasets with
  | some limit, dataset :: _ =>
    let (field, categories) ← Stateful.act
      (Action.ofExcept (objectiveCategories dataset limit.objective))
    let filters := categoryFilters field categories limit.limit
    let datasets ← run.obtainMany .dataset .categoryDatasets
      (filters.map (filterCreation options dataset))
    return { training with
      datasets
      categoryMetadata := some
        [("max_categories", .ofNat limit.limit), ("objective_field", .text field),
          ("other_label", .text otherLabel)] }
  | _, _ => return training

/-- Build or fetch the training datasets. -/
def datasetStage (source : Option Resource) (limit : Option CategoryLimit) :
    Step TrainingData := do
  match ← run.firstDatasets options source with
  | [] => return TrainingData.none
  | first :: more =>
    let datasets ← run.withNewFields options first (first :: more)
    let datasets ← run.merged options datasets
    run.publish (options.publishChanges options.publicDataset false) datasets
      "Dataset sharing settings updated."
    match datasets with
    | [] => return TrainingData.none
    | primary :: _ =>
      run.exportDataset options primary
      let (datasets, heldOut) ← run.split options primary datasets
      run.divided options limit ⟨datasets, heldOut, .none⟩

end RunContext

end ModelRuns
