import ModelRuns.Proofs.Pipeline.Evaluating
import ModelRuns.Proofs.Pipeline.Samples

namespace ModelRuns

open Stateful

/-!
# Kinds of resources

A run takes resources from flags, from files of identifiers, from checkpoints and from the
service.  An identifier of a flag or of a file is read as one of the wanted kind, and what
the service creates is of the kind requested.  So a step that obtains a resource has one of
the kind of its checkpoint, as long as checkpoints hold such identifiers.

The file of a cluster is the exception: it may describe a resource of any kind, and that
resource comes first among the clusters.  A request for centroids names its cluster and its
dataset by their kinds, so it carries both identifiers exactly if what that file describes
is a cluster.
-/

/-- The kind of the resources that a checkpoint holds. -/
def Checkpoint.kind : Checkpoint → ResourceKind
  | .source => .source
  | .dataset => .dataset
  | .datasetTrain => .dataset
  | .datasetTest => .dataset
  | .datasetGenerated => .dataset
  | .datasetMerged => .dataset
  | .categoryDatasets => .dataset
  | .models => .model
  | .ensembles => .ensemble
  | .clusters => .cluster
  | .testSource => .source
  | .testDataset => .dataset
  | .batchPrediction => .batchPrediction
  | .batchCentroid => .batchCentroid
  | .evaluations => .evaluation
  | .crossValidationModels => .model
  | .crossValidationEvaluations => .evaluation
  | .clusterDatasets => .dataset

/-- What a run creates for a checkpoint is of its kind. -/
theorem RunContext.Sends.kind {run : RunContext} {invocation : Invocation}
    {checkpoint : Checkpoint} {creation : Creation}
    (sends : run.Sends invocation checkpoint creation) : creation.kind = checkpoint.kind := by
  cases sends with
  | model options single training creation member =>
    exact MainOptions.kind_of_mem_modelCreations member
  | _ => rfl

/-! ## Answers of the right kind -/

/-- The service creates what is requested, and finds the resource that is looked for. -/
def Exchange.Honest : Exchange → Prop
  | ⟨.api (.create creation), .ok resource⟩ => resource.id.kind = creation.kind
  | ⟨.api (.get id _), .ok resource⟩ => resource.id = id
  | _ => True

theorem Exchange.Honest.faithful {exchange : Exchange} (honest : exchange.Honest) :
    exchange.Faithful := by
  rcases exchange with ⟨asked, answer⟩
  cases asked with
  | api request =>
    cases request with
    | get id query =>
      rintro resource rfl _
      exact honest
    | _ => trivial
  | _ => trivial

theorem ResourceId.kind_of_parseKind {text : String} {kind : ResourceKind} {id : ResourceId}
    (read : parseKind text kind = .ok id) : id.kind = kind := by
  unfold parseKind at read
  split at read
  next => cases read
  next found _ =>
    split at read
    next same =>
      cases read
      exact same
    next => cases read

/-- What is known of all values that are read is known of a list of them. -/
theorem forall_of_mapM_ok {α β : Type} {good : α → Prop} {read : β → Except Failure α}
    (each : ∀ item value, read item = .ok value → good value) {items : List β} {values : List α}
    (done : items.mapM read = .ok values) : ∀ value ∈ values, good value := by
  induction items generalizing values with
  | nil =>
    cases done
    exact List.forall_mem_nil _
  | cons item rest inductionHypothesis =>
    rw [List.mapM_cons] at done
    cases first : read item with
    | error failure =>
      rw [first] at done
      cases done
    | ok value =>
      cases more : rest.mapM read with
      | error failure =>
        rw [first, more] at done
        cases done
      | ok others =>
        rw [first, more] at done
        cases done
        exact List.forall_mem_cons.mpr ⟨each item value first, inductionHypothesis more⟩

namespace RunContext

/-- A checkpoint that is found and read holds identifiers of its kind. -/
def HoldsKinds (run : RunContext) (trace : List Exchange) : Prop :=
  ∀ (checkpoint : Checkpoint) (text : String) (ids : List ResourceId),
    [⟨.file (.fileExists (checkpoint.path run.paths.output)), true⟩,
      ⟨.file (.read (checkpoint.path run.paths.output)), .ok text⟩] <:+: trace →
    Checkpoint.ofText (checkpoint.path run.paths.output) text = .ok ids →
    ∀ id ∈ ids, id.kind = checkpoint.kind

/-- All answers of a trace are of the kinds that the run relies on. -/
structure Trusts (run : RunContext) (trace : List Exchange) : Prop where
  honest : ∀ exchange ∈ trace, exchange.Honest
  kinds : run.HoldsKinds trace

variable {run : RunContext}

theorem Trusts.part {trace inner : List Exchange} (trusts : run.Trusts trace)
    (within : inner <:+: trace) : run.Trusts inner :=
  ⟨fun exchange member => trusts.honest exchange (within.subset member),
    fun checkpoint text ids read => trusts.kinds checkpoint text ids (read.trans within)⟩

theorem Trusts.left {front back : List Exchange} (trusts : run.Trusts (front ++ back)) :
    run.Trusts front := trusts.part (List.prefix_append _ _).isInfix

theorem Trusts.right {front back : List Exchange} (trusts : run.Trusts (front ++ back)) :
    run.Trusts back := trusts.part (List.suffix_append _ _).isInfix

theorem Trusts.faithful {trace : List Exchange} (trusts : run.Trusts trace) :
    ∀ exchange ∈ trace, exchange.Faithful :=
  fun exchange member => (trusts.honest exchange member).faithful

/-- Over trusted answers a step that succeeds has such a value. -/
def Gives {α : Type} (run : RunContext) (good : α → Prop) (step : Step α) : Prop :=
  ∀ before trace value after, Goes step before trace (.ok value) after → run.Trusts trace →
    good value

namespace Gives

variable {α β : Type} {good : α → Prop}

theorem of_returns {step : Step α} (returns : Returns good step) : run.Gives good step :=
  fun _ _ _ _ goes _ => returns _ _ _ _ goes

theorem pure {value : α} (holds : good value) : run.Gives good (Pure.pure value : Step α) :=
  of_returns (.pure holds)

theorem bind {between : β → Prop} {step : Step β} {next : β → Step α}
    (first : run.Gives between step)
    (second : ∀ value, between value → run.Gives good (next value)) :
    run.Gives good (step >>= next) := by
  intro before trace result after goes trusts
  rcases goes_bind_ok goes with ⟨front, back, value, middle, rfl, done, rest⟩
  exact second value (first _ _ _ _ done trusts.left) _ _ _ _ rest trusts.right

/-- Nothing needs to be known of the first value. -/
theorem behind {step : Step β} {next : β → Step α}
    (second : ∀ value, run.Gives good (next value)) : run.Gives good (step >>= next) := by
  have anything : run.Gives (fun _ => True) step := fun _ _ _ _ _ _ => trivial
  exact bind anything fun value _ => second value

theorem stageIf {due : Bool} {stage : Stage} {default : α} {body : Step α}
    (without : good default) (inside : run.Gives good body) :
    run.Gives good (RunContext.stageIf due stage default body) := by
  cases due with
  | false => exact pure without
  | true =>
    intro before trace value after goes trusts
    rcases goes_inStage_ok goes with ⟨entry, middle, exit, _, _, rfl, _, going, _⟩
    exact inside _ _ _ _ going trusts.right.left

/-! ## Looking -/

variable {stage : Stage} {checkpoint : Checkpoint} {kind : ResourceKind}

theorem awaitAll {ids : List ResourceId} :
    run.Gives (fun resources => resources.map Resource.id = ids) (run.awaitAll stage ids) :=
  fun _ _ _ _ goes trusts => ids_of_awaitAll goes trusts.faithful

theorem fetch (reference : ResourceReference) :
    run.Gives (fun resource => resource.id = reference.id) (run.fetch stage reference) :=
  fun _ _ _ _ goes trusts => id_of_fetch goes trusts.faithful

theorem fetchAll (references : List ResourceReference) :
    run.Gives (fun resources => resources.map Resource.id = references.map ResourceReference.id)
      (run.fetchAll stage references) :=
  fun _ _ _ _ goes trusts => ids_of_fetchAll goes trusts.faithful

/-! ## Identifiers named by the user -/

theorem namedId (text : String) (kind : ResourceKind) :
    run.Gives (fun id => id.kind = kind) (RunContext.namedId text kind) := by
  intro before trace id after goes _
  have parsed := ((Action.yields_ofExcept_iff _ _ _).mp ((goes_act_iff _ _ _ _ _).mp goes).1).2
  exact ResourceId.kind_of_parseKind parsed.symm

theorem readIds (path : Path) (kind : ResourceKind) :
    run.Gives (fun ids => ∀ id ∈ ids, id.kind = kind) (run.readIds path kind) := by
  intro before trace ids after goes _
  rcases Action.yields_bind_ok ((goes_act_iff _ _ _ _ _).mp goes).1 with
    ⟨_, _, text, _, _, parsed⟩
  have read := ((Action.yields_ofExcept_iff _ _ _).mp parsed).2.symm
  exact forall_of_mapM_ok (fun _ _ => ResourceId.kind_of_parseKind) read

/-- Resources of one kind. -/
theorem fetchIds {ids : List ResourceId} (same : ∀ id ∈ ids, id.kind = kind) :
    run.Gives (fun resources => ∀ resource ∈ resources, resource.id.kind = kind)
      (run.fetchAll stage (ids.map .unresolved)) := by
  intro before trace resources after goes trusts resource member
  have found : resources.map Resource.id = ids := by
    have fetched := fetchAll _ _ _ _ _ goes trusts
    rw [List.map_map] at fetched
    exact fetched.trans (List.map_id' ids)
  exact same _ (found ▸ List.mem_map_of_mem member)

theorem fetchGiven (text : Option String) (path : Option Path) :
    run.Gives (fun resources => ∀ resource ∈ resources, resource.id.kind = kind)
      (run.fetchGiven stage kind text path) := by
  have named : run.Gives (fun resources => ∀ resource ∈ resources, resource.id.kind = kind)
      (run.fetchNamed stage kind text) := by
    cases text with
    | none => exact pure (List.forall_mem_nil _)
    | some text =>
      refine bind (namedId text kind) fun id same => ?_
      refine bind (fetch _) fun resource found => pure ?_
      rw [List.forall_mem_singleton, found]
      exact same
  have listed : run.Gives (fun resources => ∀ resource ∈ resources, resource.id.kind = kind)
      (run.fetchListed stage kind path) := by
    cases path with
    | none => exact pure (List.forall_mem_nil _)
    | some path => exact bind (readIds path kind) fun ids same => fetchIds same
  exact bind named fun _ first => bind listed fun _ second =>
    pure (List.forall_mem_append.mpr ⟨first, second⟩)

/-! ## Obtaining -/

theorem readCheckpoint :
    run.Gives (fun ids => ∀ id ∈ ids, id.kind = checkpoint.kind)
      (Stateful.act (Checkpoint.read run.paths.output checkpoint)) := by
  intro before trace ids after goes trusts
  rcases Action.yields_bind_ok ((goes_act_iff _ _ _ _ _).mp goes).1 with
    ⟨looking, rest, found, rfl, looks, going⟩
  rcases (Action.yields_asking_iff (.file (.fileExists _)) .ok _ _).mp looks with ⟨_, rfl, ⟨⟩⟩
  cases found with
  | false =>
    rcases (Action.yields_pure_iff _ _ _).mp going with ⟨_, same⟩
    cases same
    exact List.forall_mem_nil _
  | true =>
    rcases Action.yields_bind_ok going with ⟨reading, later, text, rfl, reads, parsed⟩
    rcases (Action.yields_asking_iff (.file (.read _)) (fun answer => answer) _ _).mp reads with
      ⟨answer, rfl, rfl⟩
    rcases (Action.yields_ofExcept_iff _ _ _).mp parsed with ⟨rfl, found⟩
    exact trusts.kinds checkpoint text ids (List.infix_refl _) found.symm

theorem takeUp {count : Nat} :
    run.Gives (fun ids => ∀ id ∈ ids, id.kind = checkpoint.kind)
      (run.takeUp checkpoint count) := by
  refine behind fun cursor => ?_
  cases cursor.resuming with
  | false => exact pure (List.forall_mem_nil _)
  | true =>
    refine bind readCheckpoint fun ids held => behind fun _ => ?_
    have taken : ∀ id ∈ ids.take count, id.kind = checkpoint.kind :=
      fun id member => held id (List.mem_of_mem_take member)
    split
    next => exact behind fun _ => pure taken
    next => exact pure taken

theorem create {creation : Creation} :
    run.Gives (fun id => id.kind = creation.kind) (run.create stage checkpoint creation) := by
  refine behind fun _ => bind ?_ fun resource (same : resource.id.kind = creation.kind) =>
    behind fun _ => behind fun _ => behind fun _ => pure same
  intro before trace resource after goes trusts
  rcases (goes_asking_iff (.api (.create creation)) (fun answer => answer) _ _ _ _).mp goes with
    ⟨answer, rfl, rfl, _⟩
  exact trusts.honest _ List.mem_cons_self

theorem createAll {creations : List Creation}
    (sent : ∀ creation ∈ creations, creation.kind = kind) :
    run.Gives (fun ids => ∀ id ∈ ids, id.kind = kind)
      (run.createAll stage checkpoint creations) := by
  induction creations with
  | nil => exact pure (List.forall_mem_nil _)
  | cons creation rest inductionHypothesis =>
    rcases List.forall_mem_cons.mp sent with ⟨first, others⟩
    refine bind create fun id same => bind (inductionHypothesis others) fun ids more => pure ?_
    exact List.forall_mem_cons.mpr ⟨same.trans first, more⟩

/-- What a run obtains is of the kind of its checkpoint. -/
theorem obtainMany {creations : List Creation}
    (sent : ∀ creation ∈ creations, creation.kind = checkpoint.kind) :
    run.Gives (fun resources => ∀ resource ∈ resources, resource.id.kind = checkpoint.kind)
      (run.obtainMany stage checkpoint creations) := by
  refine bind takeUp fun known held => ?_
  refine bind (createAll fun creation member => sent creation (List.mem_of_mem_drop member))
    fun created made => ?_
  intro before trace resources after goes trusts resource member
  have ids := awaitAll _ _ _ _ goes trusts
  exact List.forall_mem_append.mpr ⟨held, made⟩ _ (ids ▸ List.mem_map_of_mem member)

theorem obtainOne (checkpoint : Checkpoint) {creation : Creation}
    (sent : creation.kind = checkpoint.kind) :
    run.Gives (fun resource => resource.id.kind = checkpoint.kind)
      (run.obtainOne stage checkpoint creation) := by
  intro before trace resource after goes trusts
  exact obtainMany (List.forall_mem_singleton.mpr sent) _ _ _ _
    (goes_obtainMany_of_single goes) trusts resource List.mem_cons_self

/-! ## Test data -/

variable {common : CommonOptions}

theorem split (dataset : Resource) (datasets : List Resource) :
    run.Gives (fun parts => ∀ test ∈ parts.2, test.id.kind = .dataset)
      (run.split common dataset datasets) := by
  unfold RunContext.split
  split
  next =>
    refine behind fun train => bind (obtainOne .datasetTest rfl) fun test same => ?_
    exact pure fun _ held => Option.some.inj held ▸ same
  next => exact pure nofun

theorem datasetStage (source : Option Resource) (limit : Option CategoryLimit) :
    run.Gives (fun training => ∀ test ∈ training.heldOut, test.id.kind = .dataset)
      (run.datasetStage common source limit) := by
  have divides (training : TrainingData) :
      Returns (fun result => result.heldOut = training.heldOut)
        (run.divided common limit training) := by
    unfold RunContext.divided
    split
    next => exact .behind fun _ => .behind fun _ => .pure rfl
    next => exact .pure rfl
  refine behind fun given => ?_
  split
  next => exact pure nofun
  next =>
    refine behind fun _ => behind fun datasets => behind fun _ => ?_
    split
    next => exact pure nofun
    next =>
      refine behind fun _ => bind (split _ _) fun parts held => ?_
      intro before trace training after goes _
      rw [divides _ _ _ _ _ goes]
      exact held

theorem testSource :
    run.Gives (fun source => ∀ resource ∈ source, resource.id.kind = .source)
      (run.testSource common) := by
  unfold RunContext.testSource
  split
  next =>
    refine bind (namedId _ .source) fun id same => bind (fetch _) fun resource found => pure ?_
    exact fun _ given => Option.some.inj given ▸ found ▸ same
  next => exact pure nofun
  next =>
    refine bind (obtainOne .testSource rfl) fun resource same => pure ?_
    exact fun _ given => Option.some.inj given ▸ same

/-- Test datasets are datasets, wherever they are from. -/
theorem testDataStage {training : TrainingData}
    (held : ∀ test ∈ training.heldOut, test.id.kind = .dataset) :
    run.Gives (fun tests => ∀ test ∈ tests, test.id.kind = .dataset)
      (run.testDataStage common training) := by
  unfold RunContext.testDataStage
  split
  next test given => exact pure (List.forall_mem_singleton.mpr (held test given))
  next =>
    refine bind (fetchGiven _ _) fun given same => ?_
    split
    next =>
      refine behind fun source => ?_
      split
      next => exact pure (List.forall_mem_nil _)
      next =>
        refine bind (obtainOne .testDataset rfl) fun resource same => pure ?_
        exact List.forall_mem_singleton.mpr same
    next => exact pure same

end Gives

/-! ## Clusters -/

variable {options : ClusterOptions}

/-- If a file of a cluster is given, then what it was read to describe is a cluster. -/
def OffersCluster (run : RunContext) (options : ClusterOptions) (trace : List Exchange) : Prop :=
  ∀ path text rest body resource, options.clusterFile = some path →
    trace = ⟨.file (.read (run.resolvePath path)), .ok text⟩ :: rest →
    Json.read text = .ok body → Resource.parse body = .ok resource → resource.id.kind = .cluster

/-- The file of a cluster gives the one resource that it describes. -/
theorem offersCluster_iff {before after : Progress} {front : List Exchange}
    {references : List ResourceReference}
    (goes : Goes (run.readCluster options.clusterFile) before front (.ok references) after)
    (back : List Exchange) :
    references.length ≤ 1 ∧ (run.OffersCluster options (front ++ back) ↔
      ∀ reference ∈ references, reference.id.kind = .cluster) := by
  cases given : options.clusterFile with
  | none =>
    rw [given] at goes
    rcases (goes_pure_iff _ _ _ _ _).mp goes with ⟨_, same, _⟩
    cases same
    refine ⟨Nat.zero_le 1, fun _ => List.forall_mem_nil _, fun _ => ?_⟩
    intro path text rest body resource impossible
    rw [given] at impossible
    cases impossible
  | some path =>
    rw [given] at goes
    rcases goes_readCluster goes with ⟨rfl, text, body, resource, rfl, document, parsed, rfl⟩
    refine ⟨Nat.le_refl 1, fun offers => ?_, fun same => ?_⟩
    · exact List.forall_mem_singleton.mpr (offers path text _ body resource given rfl document
        parsed)
    · rintro path' text' rest' body' resource' given' whole read' parsed'
      rw [given] at given'
      cases given'
      cases (List.cons.inj whole).1
      rw [document] at read'
      cases read'
      rw [parsed] at parsed'
      cases parsed'
      exact same _ List.mem_cons_self

theorem namedCluster_gives (text : Option String) :
    run.Gives (fun references => ∀ reference ∈ references, reference.id.kind = .cluster)
      (namedCluster text) := by
  cases text with
  | none => exact .pure (List.forall_mem_nil _)
  | some text =>
    exact .bind (.namedId text .cluster) fun id same => .pure (List.forall_mem_singleton.mpr same)

theorem listedClusters_gives (path : Option Path) :
    run.Gives (fun references => ∀ reference ∈ references, reference.id.kind = .cluster)
      (run.listedClusters path) := by
  cases path with
  | none => exact .pure (List.forall_mem_nil _)
  | some path =>
    exact .bind (.readIds path .cluster) fun ids same => .pure (List.forall_mem_map.mpr same)

/-- The clusters begin with what the file of a cluster describes, and all others are
clusters. -/
theorem ids_of_clusterStage {training : TrainingData} {before after : Progress}
    {trace : List Exchange} {clusters : List Resource}
    (goes : Goes (run.clusterStage options training) before trace (.ok clusters) after)
    (trusts : run.Trusts trace) :
    ∃ front back references middle others, trace = front ++ back ∧
      Goes (run.readCluster options.clusterFile) before front (.ok references) middle ∧
      clusters.map Resource.id = references.map ResourceReference.id ++ others ∧
      ∀ id ∈ others, id.kind = .cluster := by
  rcases goes_bind_ok goes with ⟨front, back, references, middle, rfl, wasRead, goes⟩
  suffices ∃ others, clusters.map Resource.id = references.map ResourceReference.id ++ others ∧
      ∀ id ∈ others, id.kind = .cluster by
    rcases this with ⟨others, ids, kinds⟩
    exact ⟨front, back, references, middle, others, rfl, wasRead, ids, kinds⟩
  refine (?_ : run.Gives (fun clusters => ∃ others,
    clusters.map Resource.id = references.map ResourceReference.id ++ others ∧
      ∀ id ∈ others, id.kind = .cluster) _) _ _ _ _ goes trusts.right
  refine .bind (namedCluster_gives _) fun named first => ?_
  refine .bind (listedClusters_gives _) fun listed second => ?_
  have others : ∀ id ∈ (named ++ listed).map ResourceReference.id, id.kind = .cluster :=
    List.forall_mem_map.mpr (List.forall_mem_append.mpr ⟨first, second⟩)
  split
  next none =>
    rw [List.append_assoc, List.append_eq_nil_iff] at none
    rcases none with ⟨rfl, _⟩
    split
    next => exact .pure ⟨[], rfl, List.forall_mem_nil _⟩
    next =>
      refine .bind (.obtainOne .clusters rfl) fun cluster same => ?_
      exact .behind fun _ => .pure ⟨[cluster.id], rfl, List.forall_mem_singleton.mpr same⟩
  next =>
    intro before trace clusters after goes trusts
    refine ⟨(named ++ listed).map ResourceReference.id, ?_, others⟩
    rw [Gives.fetchAll _ _ _ _ _ goes trusts, List.append_assoc, List.map_append]

/-- All clusters of a run are clusters exactly if its file of a cluster offers one, and then
the first of them is. -/
theorem clusters_iff_offersCluster {training : TrainingData} {before after : Progress}
    {trace : List Exchange} {clusters : List Resource}
    (goes : Goes (run.clusterStage options training) before trace (.ok clusters) after)
    (trusts : run.Trusts trace) :
    ((∀ cluster ∈ clusters, cluster.id.kind = .cluster) ↔ run.OffersCluster options trace) ∧
      ((∀ cluster ∈ clusters.head?, cluster.id.kind = .cluster) ↔
        run.OffersCluster options trace) := by
  rcases ids_of_clusterStage goes trusts with
    ⟨front, back, references, middle, others, rfl, wasRead, ids, kinds⟩
  rcases offersCluster_iff wasRead back with ⟨single, offers⟩
  rw [offers]
  have all : (∀ cluster ∈ clusters, cluster.id.kind = .cluster) ↔
      ∀ reference ∈ references, reference.id.kind = .cluster := by
    rw [← List.forall_mem_map (f := Resource.id) (P := fun id => id.kind = .cluster), ids,
      List.forall_mem_append, List.forall_mem_map]
    exact ⟨And.left, fun first => ⟨first, kinds⟩⟩
  refine ⟨all, fun first => ?_, fun same cluster member => ?_⟩
  · cases references with
    | nil => exact List.forall_mem_nil _
    | cons reference rest =>
      cases rest with
      | cons _ _ => exact absurd single (by simp)
      | nil =>
        cases clusters with
        | nil => cases ids
        | cons cluster more =>
          rw [List.forall_mem_singleton, ← (List.cons.inj ids).1]
          exact first cluster rfl
  · exact all.mpr same cluster (List.mem_of_mem_head? member)

end RunContext

/-! ## Requests for centroids -/

/-- A request is about a cluster and a dataset, and its fields carry both identifiers. -/
def Creation.PairsCluster (creation : Creation) : Prop :=
  ∃ cluster dataset, creation.origin = .pair cluster dataset ∧ cluster.kind = .cluster ∧
    dataset.kind = .dataset ∧
    getField? "cluster" creation.body = some (.text cluster.text) ∧
    getField? "dataset" creation.body = some (.text dataset.text)

namespace RunContext

variable {run : RunContext} {options : ClusterOptions}

/-- The fields carry both identifiers as soon as their kinds differ. -/
theorem pairsCluster_iff (cluster : ResourceId) {dataset : ResourceId}
    (kind : dataset.kind = .dataset) :
    (batchCentroidCreation options cluster dataset).PairsCluster ↔ cluster.kind = .cluster := by
  constructor
  · rintro ⟨_, _, ⟨⟩, same, _⟩
    exact same
  · intro same
    have fields : (batchCentroidCreation options cluster dataset).originFields =
        [("cluster", .text cluster.text), ("dataset", .text dataset.text)] := by
      simp only [batchCentroidCreation, Creation.originFields, same, kind, ResourceKind.text]
    refine ⟨cluster, dataset, rfl, same, kind, ?_, ?_⟩ <;>
    · rw [Creation.body, getField?_mergeFields, fields]
      rfl

/-- What a cluster run has when it comes to its action. -/
structure Gathered where
  training : TrainingData
  clusters : List Resource
  tests : List Resource

variable (run options)

/-- The stages of a cluster run before its action. -/
def gather : Step Gathered := do
  let common := options.common
  let hasDatasets := common.dataset.isSome || common.datasets.isSome
  let source ← stageIf (!hasDatasets && !options.hasClusters) .source none
    (run.sourceStage common)
  let training ← stageIf (source.isSome || hasDatasets) .dataset .none
    (run.datasetStage common source none)
  let clusters ← Stateful.inStage .model (run.clusterStage options training)
  let hasTest := common.hasTest || training.heldOut.isSome
  let tests ← stageIf hasTest .testData [] (run.testDataStage common training)
  return ⟨training, clusters, tests⟩

/-- The action of a cluster run, and its report. -/
def useGathered (gathered : Gathered) : Step Unit := do
  let names := options.clusterDatasetNames
  stageIf (!gathered.tests.isEmpty || names.isSome) .action ()
    (run.useCluster options gathered.clusters gathered.tests names)
  Stateful.inStage .report (run.reportStage options.common)

theorem runCluster_eq : run.runCluster options = run.gather options >>= run.useGathered options := by
  simp only [runCluster, gather, useGathered, bind_assoc, pure_bind]

variable {run options}

theorem asks_gather :
    Stateful.Asks (Request.CreatesOnly .batchCentroid fun _ => False) (run.gather options) := by
  have ordinary : ∀ asked : Request, asked.Ordinary →
      asked.CreatesOnly .batchCentroid (fun _ => False) := fun _ => Request.Ordinary.createsOnly rfl
  have noted (event : RunEvent) :
      Request.CreatesOnly .batchCentroid (fun _ => False) (.note event) := ordinary _ trivial
  refine .bind (.stageIf noted (.sourceStage ordinary)) fun source => ?_
  refine .bind (.stageIf noted (.datasetStage ordinary
    (fun _ _ _ impossible => nomatch impossible) _ _)) fun training => ?_
  refine .bind (.inStage noted (.clusterStage ordinary _)) fun clusters => ?_
  exact .bind (.stageIf noted (.testDataStage ordinary _)) fun tests => .pure _

/-- A request takes one of the gathered test datasets to the first of the gathered clusters. -/
def Gathered.Requests (gathered : Gathered) (options : ClusterOptions) (creation : Creation) :
    Prop :=
  ∃ cluster ∈ gathered.clusters.head?, ∃ test ∈ gathered.tests,
    creation = batchCentroidCreation options cluster.id test.id

theorem asks_useGathered (gathered : Gathered) :
    Stateful.Asks (Request.CreatesOnly .batchCentroid (gathered.Requests options))
      (run.useGathered options gathered) := by
  have ordinary : ∀ asked : Request, asked.Ordinary →
      asked.CreatesOnly .batchCentroid (gathered.Requests options) :=
    fun _ => Request.Ordinary.createsOnly rfl
  have written (path : Path) (text : String) : Request.CreatesOnly .batchCentroid
      (gathered.Requests options) (.file (.write path text)) := fun _ impossible => nomatch impossible
  refine .bind (.stageIf (fun _ => ordinary _ trivial) ?_) fun _ => .inStage
    (fun _ => ordinary _ trivial) (.reportStage ordinary written)
  intro before trace outcome after goes
  rcases goes_needed_bind goes with rfl | ⟨cluster, first, goes⟩
  · exact List.forall_mem_nil _
  have batches : Stateful.Asks (Request.CreatesOnly .batchCentroid (gathered.Requests options))
      (run.batchCentroids options cluster gathered.tests) := by
    refine .bind (.obtainMany ordinary .batchCentroid fun creation member => ?_) fun _ =>
      .saveNumbered ordinary written _ _ _
    rcases List.mem_map.mp member with ⟨test, listed, rfl⟩
    rintro creation ⟨⟩ _
    exact ⟨cluster, first, test, listed, rfl⟩
  refine (?_ : Stateful.Asks _ _) _ _ _ _ goes
  have datasets (names : List String) : Stateful.Asks (Request.CreatesOnly .batchCentroid
      (gathered.Requests options)) (run.centroidDatasets cluster names) :=
    .centroidDatasets ordinary cluster names
  cases gathered.tests.isEmpty with
  | false =>
    cases options.clusterDatasetNames with
    | none => exact .bind batches fun _ => .pure ()
    | some names => exact .bind batches fun _ => datasets names
  | true =>
    cases options.clusterDatasetNames with
    | none => exact .pure ()
    | some names => exact datasets names

/-- What a cluster run gathers: the clusters of its model stage, and test datasets. -/
theorem goes_gather {before after : Progress} {trace : List Exchange} {gathered : Gathered}
    (goes : Goes (run.gather options) before trace (.ok gathered) after)
    (trusts : run.Trusts trace) :
    (∀ test ∈ gathered.tests, test.id.kind = .dataset) ∧
      ∃ start clustering stop, clustering <:+: trace ∧
        Goes (run.clusterStage options gathered.training) start clustering
          (.ok gathered.clusters) stop := by
  rcases goes_bind_ok goes with ⟨sourcing, rest, source, _, rfl, _, goes⟩
  rcases goes_bind_ok goes with ⟨preparing, rest, training, _, rfl, prepares, goes⟩
  rcases goes_bind_ok goes with ⟨modelling, rest, clusters, _, rfl, models, goes⟩
  rcases goes_bind_ok goes with ⟨testing, rest, tests, _, rfl, tested, goes⟩
  rcases (goes_pure_iff _ _ _ _ _).mp goes with ⟨rfl, ⟨⟩, _⟩
  have held : ∀ test ∈ training.heldOut, test.id.kind = .dataset :=
    (Gives.stageIf nofun (.datasetStage source none)) _ _ _ _ prepares trusts.right.left
  refine ⟨(Gives.stageIf (List.forall_mem_nil _) (.testDataStage held)) _ _ _ _ tested
    trusts.right.right.right.left, ?_⟩
  rcases goes_inStage_ok models with ⟨entry, clustering, exit, entered, left, rfl, _, going, _⟩
  refine ⟨entered, clustering, left, ?_, going⟩
  exact ⟨sourcing ++ (preparing ++ entry), exit ++ (testing ++ []), by simp⟩

/-- The clusters of a run are clusters, and its requests for centroids each pair a cluster with
a dataset and carry both identifiers, exactly if what the run has read from its file of a
cluster, if it is given one, describes a cluster. -/
theorem pairsCluster_iff_offersCluster (run : RunContext) (options : ClusterOptions) :
    (∀ training before trace clusters after,
      Goes (run.clusterStage options training) before trace (.ok clusters) after →
      run.Trusts trace →
      ((∀ cluster ∈ clusters, cluster.id.kind = .cluster) ↔ run.OffersCluster options trace)) ∧
    ∀ before trace outcome after, Goes (run.runCluster options) before trace outcome after →
      run.Trusts trace → ∀ creation answer,
      (⟨.api (.create creation), answer⟩ : Exchange) ∈ trace → creation.kind = .batchCentroid →
      ∃ training start clustering clusters stop, clustering <:+: trace ∧
        Goes (run.clusterStage options training) start clustering (.ok clusters) stop ∧
        (creation.PairsCluster ↔ run.OffersCluster options clustering) := by
  refine ⟨fun training before trace clusters after goes trusts =>
    (clusters_iff_offersCluster goes trusts).1, ?_⟩
  intro before trace outcome after goes trusts creation answer sent kind
  rw [runCluster_eq] at goes
  rcases (goes_bind_iff _ _ _ _ _ _).mp goes with
    ⟨failure, failed, _⟩ | ⟨front, back, gathered, middle, rfl, gathers, uses⟩
  · exact (asks_gather _ _ _ _ failed _ sent creation rfl kind).elim
  rcases List.mem_append.mp sent with early | late
  · exact (asks_gather _ _ _ _ gathers _ early creation rfl kind).elim
  rcases asks_useGathered _ _ _ _ _ uses _ late creation rfl kind with
    ⟨cluster, first, test, listed, rfl⟩
  rcases goes_gather gathers trusts.left with ⟨tests, start, clustering, stop, within, models⟩
  refine ⟨gathered.training, start, clustering, gathered.clusters, stop,
    within.trans (List.prefix_append _ _).isInfix, models, ?_⟩
  rw [pairsCluster_iff _ (tests test listed),
    ← (clusters_iff_offersCluster models (trusts.left.part within)).2]
  rw [Option.mem_def] at first
  rw [first]
  exact ⟨fun same _ given => Option.some.inj given ▸ same, fun same => same cluster rfl⟩

end RunContext

/-! ## A file that describes a dataset -/

open RunContext

/-- Options that find the centroids of a dataset with the cluster of a local file. -/
def describedOptions : ClusterOptions where
  common := { centroidOptions with
    testSet := none
    testDataset := some "dataset/5143a51a37203f2cf7000972" }
  cluster := none
  clusters := none
  clusterFile := some ⟨"cluster.json"⟩
  k := none
  publicCluster := false
  clusterDatasets := none

/-- What is answered when the local file describes a dataset. -/
def describedDataset (earlier : List Exchange) (asked : Request) : asked.Answer :=
  timedAnswer (fun _ => some
    "\x7b\"resource\": \"dataset/5143a51a37203f2cf7000971\", \"status\": \x7b\"code\": 5\x7d\x7d")
    ⟨0⟩ earlier asked

def describedRun : List Exchange × Except Failure Unit × Progress :=
  recorded describedDataset (centroidRun.runCluster describedOptions) (Progress.start false) []

/-- Whether a file was looked for. -/
def Exchange.looksForFile : Exchange → Bool
  | ⟨.file (.fileExists _), _⟩ => true
  | _ => false

/-- The run asks for the centroids of one dataset in another, and looks for no checkpoint. -/
theorem describedRun_facts :
    (∃ made ∈ created describedRun.1, made.1.kind = .batchCentroid) ∧
      (∀ made ∈ created describedRun.1, made.1.origin =
        .pair ⟨.dataset, "5143a51a37203f2cf7000971"⟩ ⟨.dataset, "5143a51a37203f2cf7000972"⟩) ∧
      ∀ exchange ∈ describedRun.1, exchange.looksForFile = false := by
  decide +kernel

theorem trusts_describedRun : centroidRun.Trusts describedRun.1 where
  honest := by
    have described : Throughout (fun earlier exchange =>
        exchange.answer = describedDataset earlier exchange.asked) [] describedRun.1 :=
      throughout_recorded (fun _ _ same => same) _ _ _
    refine described.forall_mem ?_
    rintro earlier ⟨asked, answer⟩ answered
    cases asked with
    | api request =>
      cases request with
      | _ =>
        cases answered
        trivial
    | _ => trivial
  kinds := by
    intro checkpoint text ids read
    cases describedRun_facts.2.2 _ (read.subset List.mem_cons_self)

/-- A file that describes a dataset makes a run ask for the centroids of a dataset in a
dataset. -/
theorem pairsCluster_describedDataset :
    ∃ creation answer training start clustering clusters stop,
      (⟨.api (.create creation), answer⟩ : Exchange) ∈ describedRun.1 ∧
      creation.kind = .batchCentroid ∧ clustering <:+: describedRun.1 ∧
      Goes (centroidRun.clusterStage describedOptions training) start clustering (.ok clusters)
        stop ∧
      ¬creation.PairsCluster ∧ ¬∀ cluster ∈ clusters, cluster.id.kind = .cluster := by
  rcases describedRun_facts with ⟨⟨made, member, kind⟩, origin, _⟩
  rcases mem_of_mem_created member with ⟨answer, sent⟩
  have goes : Goes (centroidRun.runCluster describedOptions) (Progress.start false) describedRun.1
      describedRun.2.1 describedRun.2.2 := goes_recorded describedDataset _ _ _ rfl
  have unpaired : ¬made.1.PairsCluster := by
    rintro ⟨cluster, dataset, pair, same, _⟩
    cases (origin made member).symm.trans pair
    cases same
  rcases (pairsCluster_iff_offersCluster centroidRun describedOptions).2 _ _ _ _ goes
      trusts_describedRun _ _ sent kind with
    ⟨training, start, clustering, clusters, stop, within, models, paired⟩
  refine ⟨made.1, answer, training, start, clustering, clusters, stop, sent, kind, within, models,
    unpaired, fun same => unpaired (paired.mpr ?_)⟩
  exact ((pairsCluster_iff_offersCluster centroidRun describedOptions).1 _ _ _ _ _ models
    (trusts_describedRun.part within)).mp same

end ModelRuns
