import ModelRuns.Proofs.Pipeline.Parallel
import ModelRuns.Run.Invoke

namespace ModelRuns

/-!
# Both pipelines are parallel to themselves

There is one derivation for each function of the pipelines.  Resources come to
it in two versions that are alike, and every choice it makes depends only on what
both have in common.  The numbers are the places of the checkpoints it uses.
-/

namespace RunContext.Parallel

variable {run : RunContext} {invocation : Invocation} {start stop : Nat}

/-! ## Input files -/

/-- The files that both pipelines read. -/
theorem mem_inputFiles (invocation : Invocation) (path : Path)
    (given : some path ∈ [invocation.common.trainingSet, invocation.common.datasets,
      invocation.common.testSet, invocation.common.testDatasets, invocation.common.newFields]) :
    path ∈ invocation.inputFiles := by
  unfold Invocation.inputFiles
  rw [List.mem_filterMap]
  exact ⟨some path, List.mem_append_left _ given, rfl⟩

/-! ## Training data -/

theorem namedId (ordered : start ≤ stop) (text : String) (kind : ResourceKind) :
    Parallel run invocation start stop Eq
      (RunContext.namedId text kind) (RunContext.namedId text kind) :=
  ofExcept ordered (ResourceId.parseKind text kind)

/-- A list of one resource. -/
theorem single {left right : Step Resource}
    (step : Parallel run invocation start stop Resource.Alike left right) :
    Parallel run invocation start stop Resource.AllAlike
      (left >>= fun resource => Pure.pure [resource])
      (right >>= fun resource => Pure.pure [resource]) :=
  .bind .refl step fun _ _ alike => .pure (Nat.le_refl stop) (.cons alike .nil)

/-- A resource that is there. -/
theorem present {left right : Step Resource}
    (step : Parallel run invocation start stop Resource.Alike left right) :
    Parallel run invocation start stop Resource.MaybeAlike
      (left >>= fun resource => Pure.pure (some resource))
      (right >>= fun resource => Pure.pure (some resource)) :=
  .bind .refl step fun _ _ alike => .pure (Nat.le_refl stop) (.some alike)

theorem fetchNamed (ordered : start ≤ stop) (stage : Stage) (kind : ResourceKind)
    (text : Option String) :
    Parallel run invocation start stop Resource.AllAlike
      (run.fetchNamed stage kind text) (run.fetchNamed stage kind text) := by
  cases text with
  | none => exact .pure ordered .nil
  | some text =>
    exact .andThen (namedId (Nat.le_refl start) text kind) fun id =>
      single (fetch ordered stage (.unresolved id))

theorem fetchListed (ordered : start ≤ stop) (stage : Stage) (kind : ResourceKind)
    (path : Option Path) (input : ∀ file, path = some file → file ∈ invocation.inputFiles) :
    Parallel run invocation start stop Resource.AllAlike
      (run.fetchListed stage kind path) (run.fetchListed stage kind path) := by
  cases path with
  | none => exact .pure ordered .nil
  | some file =>
    exact .andThen (readIds (Nat.le_refl start) file (input file rfl) kind) fun ids =>
      fetchAll ordered stage _

theorem fetchGiven (ordered : start ≤ stop) (stage : Stage) (kind : ResourceKind)
    (text : Option String) (path : Option Path)
    (input : ∀ file, path = some file → file ∈ invocation.inputFiles) :
    Parallel run invocation start stop Resource.AllAlike
      (run.fetchGiven stage kind text path) (run.fetchGiven stage kind text path) := by
  refine .bind .refl (fetchNamed (Nat.le_refl start) stage kind text) fun named others alike => ?_
  refine .bind .refl (fetchListed ordered stage kind path input) fun listed more allAlike => ?_
  exact .pure (Nat.le_refl stop) (List.rel_append alike allAlike)

theorem sourceStage :
    Parallel run invocation 0 1 Resource.MaybeAlike
      (run.sourceStage invocation.common) (run.sourceStage invocation.common) := by
  unfold RunContext.sourceStage
  split
  next _ text _ =>
    exact .andThen (namedId (Nat.le_refl 0) text .source) fun id =>
      present (fetch (Nat.zero_le 1) .source (.unresolved id))
  next => exact .pure (by decide) .none
  next path _ given =>
    exact present (.obtainOne .source .source _ (.source invocation path given) (by decide)
      (by decide))

theorem firstDatasets (left right : Option Resource) (alike : Resource.MaybeAlike left right) :
    Parallel run invocation 1 2 Resource.AllAlike
      (run.firstDatasets invocation.common left) (run.firstDatasets invocation.common right) := by
  have input : ∀ file, invocation.common.datasets = some file → file ∈ invocation.inputFiles :=
    fun file given => mem_inputFiles invocation file (by simp [← given])
  refine .bind .refl (fetchGiven (Nat.le_refl 1) .dataset .dataset _ _ input)
    fun given others allAlike => ?_
  cases allAlike with
  | cons first rest => exact .pure (by decide) (.cons first rest)
  | nil =>
    cases alike with
    | none => exact .pure (by decide) .nil
    | some alike =>
      dsimp only
      rw [alike.id]
      exact single (.obtainOne .dataset .dataset _ (.dataset invocation _) (by decide) (by decide))

theorem withNewFields (first other : Resource) (alike : first.Alike other)
    (left right : List Resource) (allAlike : Resource.AllAlike left right) :
    Parallel run invocation 2 3 Resource.AllAlike
      (run.withNewFields invocation.common first left)
      (run.withNewFields invocation.common other right) := by
  unfold RunContext.withNewFields
  rw [alike.id]
  split
  next => exact .pure (by decide) allAlike
  next path given =>
    have input := mem_inputFiles invocation path (by simp [← given])
    refine .andThen (readJson (Nat.le_refl 2) path input) fun fields => ?_
    exact single (.obtainOne .dataset .datasetGenerated _
      (.datasetGenerated invocation _ fields (by simp [given])) (by decide) (by decide))

theorem merged (left right : List Resource) (alike : Resource.AllAlike left right) :
    Parallel run invocation 3 4 Resource.AllAlike
      (run.merged invocation.common left) (run.merged invocation.common right) := by
  have length : left.length = right.length := alike.length_eq
  unfold RunContext.merged
  rw [alike.ids, length]
  split
  next asked =>
    have several : 1 < (right.map Resource.id).length := by simpa using asked.2
    exact single (.obtainOne .dataset .datasetMerged _
      (.datasetMerged invocation _ asked.1 several) (by decide) (by decide))
  next => exact .pure (by decide) alike

theorem exportDataset (ordered : start ≤ stop) (left right : Resource)
    (alike : left.Alike right) :
    Parallel run invocation start stop Eq
      (run.exportDataset invocation.common left) (run.exportDataset invocation.common right) := by
  unfold RunContext.exportDataset
  rw [alike.id]
  split
  next => exact .pure ordered rfl
  next name given => exact saveTo ordered _ _ (.exported invocation name given)

/-- The two parts of a split. -/
def PartsAlike (left right : List Resource × Option Resource) : Prop :=
  Resource.AllAlike left.1 right.1 ∧ Resource.MaybeAlike left.2 right.2

theorem PartsAlike.refl (parts : List Resource × Option Resource) : PartsAlike parts parts :=
  ⟨.refl _, .refl _⟩

theorem splitCreation_alike (options : CommonOptions) (left right : Resource)
    (alike : left.Alike right) (outOfBag : Bool) :
    splitCreation options left outOfBag = splitCreation options right outOfBag := by
  unfold splitCreation
  rw [alike.id]

theorem split (first other : Resource) (alike : first.Alike other) (left right : List Resource)
    (allAlike : Resource.AllAlike left right) :
    Parallel run invocation 4 6 PartsAlike
      (run.split invocation.common first left) (run.split invocation.common other right) := by
  unfold RunContext.split
  rw [splitCreation_alike _ _ _ alike, splitCreation_alike _ _ _ alike]
  split
  next asked =>
    have trained : Parallel run invocation 4 5 Resource.Alike
        (run.obtainOne .dataset .datasetTrain (splitCreation invocation.common other false))
        (run.obtainOne .dataset .datasetTrain (splitCreation invocation.common other false)) :=
      .obtainOne .dataset .datasetTrain _ (.datasetTrain invocation other asked) (by decide)
        (by decide)
    have tested : Parallel run invocation 5 6 Resource.Alike
        (run.obtainOne .dataset .datasetTest (splitCreation invocation.common other true))
        (run.obtainOne .dataset .datasetTest (splitCreation invocation.common other true)) :=
      .obtainOne .dataset .datasetTest _ (.datasetTest invocation other asked) (by decide)
        (by decide)
    refine .bind .refl trained fun train another trainAlike => ?_
    refine .bind .refl tested fun test others testAlike => ?_
    exact .pure (Nat.le_refl 6) ⟨.cons trainAlike .nil, .some testAlike⟩
  next => exact .pure (by decide) ⟨allAlike, .none⟩

theorem filterCreation_alike (options : CommonOptions) (left right : Resource)
    (alike : left.Alike right) : filterCreation options left = filterCreation options right := by
  funext filter
  unfold filterCreation
  rw [alike.id]

theorem categoryDatasets (options : MainOptions) (limit : CategoryLimit)
    (limited : options.categoryLimit = some limit) (dataset : Resource)
    (filters : List CategoryFilter) :
    Parallel run (.main options) 6 7 Resource.AllAlike
      (run.obtainMany .dataset .categoryDatasets
        (filters.map (filterCreation options.common dataset)))
      (run.obtainMany .dataset .categoryDatasets
        (filters.map (filterCreation options.common dataset))) := by
  refine .obtainMany .dataset .categoryDatasets _ ?_ (by decide) (by decide)
  intro creation member
  rcases List.mem_map.mp member with ⟨filter, _, rfl⟩
  exact .categoryDataset options limit limited dataset filter

/-- Only the main pipeline limits categories. -/
def LimitFits (invocation : Invocation) (limit : Option CategoryLimit) : Prop :=
  ∀ found, limit = some found →
    ∃ options, invocation = .main options ∧ options.categoryLimit = some found

theorem divided (limit : Option CategoryLimit) (fits : LimitFits invocation limit)
    (left right : TrainingData) (alike : left.Alike right) :
    Parallel run invocation 6 7 TrainingData.Alike
      (run.divided invocation.common limit left) (run.divided invocation.common limit right) := by
  rcases left with ⟨datasets, heldOut, metadata⟩
  rcases right with ⟨others, otherPart, otherMetadata⟩
  rcases alike with ⟨allAlike, partAlike, sameMetadata⟩
  cases limit with
  | none => exact .pure (by decide) ⟨allAlike, partAlike, sameMetadata⟩
  | some limit =>
    cases allAlike with
    | nil => exact .pure (by decide) ⟨.nil, partAlike, sameMetadata⟩
    | cons first rest =>
      rcases fits limit rfl with ⟨options, rfl, limited⟩
      unfold RunContext.divided
      dsimp only
      rw [first.objectiveCategories, filterCreation_alike _ _ _ first]
      refine .andThen (ofExcept (Nat.le_refl 6) _) fun found => ?_
      refine .bind .refl (categoryDatasets options limit limited _ _) fun made others allAlike => ?_
      exact .pure (Nat.le_refl 7) ⟨allAlike, partAlike, rfl⟩

/-- What a run publishes of its datasets. -/
theorem publishes_dataset (invocation : Invocation) (changes : Json)
    (published : invocation.common.publishChanges invocation.common.publicDataset false =
      some changes) : Publishes invocation changes := by
  cases invocation with
  | main options => exact .inl published
  | cluster options => exact .inl published

theorem datasetStage (left right : Option Resource) (alike : Resource.MaybeAlike left right)
    (limit : Option CategoryLimit) (fits : LimitFits invocation limit) :
    Parallel run invocation 1 7 TrainingData.Alike
      (run.datasetStage invocation.common left limit)
      (run.datasetStage invocation.common right limit) := by
  refine .bind .refl (firstDatasets left right alike) fun given others givenAlike => ?_
  cases givenAlike with
  | nil => exact .pure (by decide) (.refl _)
  | cons first rest =>
    refine .bind .refl (withNewFields _ _ first _ _ (.cons first rest))
      fun extended more extendedAlike => ?_
    refine .bind .refl (merged _ _ extendedAlike) fun datasets results datasetsAlike => ?_
    refine .andThen (publish (Nat.le_refl 4) _ _ _ datasetsAlike _ (publishes_dataset _))
      fun _ => ?_
    cases datasetsAlike with
    | nil => exact .pure (by decide) (.refl _)
    | cons primary others =>
      refine .andThen (exportDataset (Nat.le_refl 4) _ _ primary) fun _ => ?_
      refine .bind PartsAlike.refl (split _ _ primary _ _ (.cons primary others))
        fun parts halves partsAlike => ?_
      exact divided limit fits _ _ ⟨partsAlike.1, partsAlike.2, rfl⟩

/-! ## Test data -/

theorem testSource :
    Parallel run invocation 8 9 Resource.MaybeAlike
      (run.testSource invocation.common) (run.testSource invocation.common) := by
  unfold RunContext.testSource
  split
  next _ text _ =>
    exact .andThen (namedId (Nat.le_refl 8) text .source) fun id =>
      present (fetch (by decide : 8 ≤ 9) .testData (.unresolved id))
  next => exact .pure (by decide) .none
  next path _ given =>
    exact present (.obtainOne .testData .testSource _ (.testSource invocation path given)
      (by decide) (by decide))

theorem testDataStage (left right : TrainingData) (alike : left.Alike right) :
    Parallel run invocation 8 10 Resource.AllAlike
      (run.testDataStage invocation.common left) (run.testDataStage invocation.common right) := by
  rcases left with ⟨datasets, heldOut, metadata⟩
  rcases right with ⟨others, otherPart, otherMetadata⟩
  rcases alike with ⟨_, partAlike, _⟩
  cases partAlike with
  | some testAlike => exact .pure (by decide) (.cons testAlike .nil)
  | none =>
    have input : ∀ file, invocation.common.testDatasets = some file →
        file ∈ invocation.inputFiles :=
      fun file given => mem_inputFiles invocation file (by simp [← given])
    refine .bind .refl (fetchGiven (Nat.le_refl 8) .testData .dataset _ _ input)
      fun given others givenAlike => ?_
    cases givenAlike with
    | cons first rest => exact .pure (by decide) (.cons first rest)
    | nil =>
      refine .bind .refl testSource fun source other sourceAlike => ?_
      cases sourceAlike with
      | none => exact .pure (by decide) .nil
      | some alike =>
        dsimp only
        rw [alike.id]
        exact single (.obtainOne .testData .testDataset _ (.testDataset invocation _)
          (by decide) (by decide))

/-! ## Reports -/

theorem logNames (ordered : start ≤ stop) (left right : List String) :
    Parallel run invocation start stop Eq
      (Stateful.act (ModelRuns.logNames run.log left))
      (Stateful.act (ModelRuns.logNames run.log right)) := by
  have logged : ∀ text names, Stateful.act (ModelRuns.logNames run.log (text :: names)) =
      (Stateful.act (Action.asking (.file (.append run.log.path (" - " ++ text)))
        (fun answer => answer)) >>= fun _ => Stateful.act (ModelRuns.logNames run.log names) :
        Step Unit) := fun _ _ => Stateful.act_bind _ _
  induction left with
  | nil =>
    induction right with
    | nil => exact .pure ordered rfl
    | cons name names inductionHypothesis =>
      rw [logged]
      exact .askRight _ _ rfl rfl inductionHypothesis
  | cons name names inductionHypothesis =>
    rw [logged]
    exact .askLeft _ _ rfl inductionHypothesis

theorem listGenerated (ordered : start ≤ stop) :
    Parallel run invocation start stop (fun _ _ => True)
      (Stateful.act (ModelRuns.listGenerated run.log run.paths.output))
      (Stateful.act (ModelRuns.listGenerated run.log run.paths.output)) := by
  unfold ModelRuns.listGenerated
  simp only [Stateful.act_bind]
  refine .bind (fun _ => trivial) (askAny (Nat.le_refl start) (.file (.list run.paths.output))
    (.file (.list run.paths.output)) (fun answer => answer) (fun answer => answer) rfl rfl _ rfl)
    fun files others _ => ?_
  refine .andThen (raw (Nat.le_refl start) _ _) fun _ => ?_
  refine .andThen (raw (Nat.le_refl start) _ _) fun _ => ?_
  refine .andThen (logNames (Nat.le_refl start) _ _) fun _ => ?_
  exact .pure ordered trivial

theorem writeSummary (ordered : start ≤ stop) (left right : RunSummary) :
    Parallel run invocation start stop Eq
      (Stateful.act (ModelRuns.writeSummary run.paths.output left))
      (Stateful.act (ModelRuns.writeSummary run.paths.output right)) := by
  unfold ModelRuns.writeSummary
  simp only [Stateful.act_bind]
  refine .andThen (askUnit (Nat.le_refl start) (.file (.makeDirectory _))
    (.file (.makeDirectory _)) (fun answer => answer) (fun answer => answer) rfl rfl rfl)
    fun _ => ?_
  refine .andThen (askUnit (Nat.le_refl start) (.file (.write _ _)) (.file (.write _ _))
    (fun answer => answer) (fun answer => answer) (.summary invocation) (.summary invocation) rfl)
    fun _ => ?_
  exact .pure ordered rfl

theorem uploadSummary (ordered : start ≤ stop) (left right : RunSummary) :
    Parallel run invocation start stop (fun _ _ => True)
      (Stateful.act (ModelRuns.uploadSummary run.settings.uploadUrl left))
      (Stateful.act (ModelRuns.uploadSummary run.settings.uploadUrl right)) := by
  unfold ModelRuns.uploadSummary
  split
  next => exact .fail ordered _ _
  next url given =>
    simp only [Stateful.act_bind]
    refine .bind (fun _ => trivial) (askAny (Nat.le_refl start) (.api (.uploadReport url _))
      (.api (.uploadReport url _)) (fun answer => answer) (fun answer => answer) given given _ rfl)
      fun location other _ => ?_
    refine .andThen (askUnit (Nat.le_refl start) (.note _) (.note _) .ok .ok trivial trivial rfl)
      fun _ => ?_
    exact .pure ordered trivial

theorem reportStage (ordered : start ≤ stop) :
    Parallel run invocation start stop Eq
      (run.reportStage invocation.common) (run.reportStage invocation.common) := by
  unfold RunContext.reportStage
  refine .bind (fun _ => trivial) (listGenerated (Nat.le_refl start)) fun files others _ => ?_
  split
  next =>
    refine .bind (fun _ => trivial) (.progress (Nat.le_refl start)) fun progress another _ => ?_
    refine .andThen (writeSummary (Nat.le_refl start) _ _) fun path => ?_
    refine .andThen (say (Nat.le_refl start) _ _) fun _ => ?_
    split
    next =>
      refine .bind (fun _ => trivial) (uploadSummary (Nat.le_refl start) _ _)
        fun location other _ => ?_
      exact say ordered _ _
    next => exact .pure ordered rfl
  next => exact .pure ordered rfl

/-! ## The main pipeline -/

/-- A value that a stage needs; without it the run fails. -/
theorem needed (ordered : start ≤ stop) (left right : Option Resource)
    (alike : Resource.MaybeAlike left right) (missing : String) :
    Parallel run invocation start stop Resource.Alike
      (RunContext.needed left missing) (RunContext.needed right missing) := by
  cases alike with
  | none => exact .fail ordered _ _
  | some alike => exact .pure ordered alike

theorem stageIf {α : Type} {related : α → α → Prop} (ordered : start ≤ stop) (due : Bool)
    (stage : Stage) (default : α) (same : related default default) {left right : Step α}
    (body : Parallel run invocation start stop related left right) :
    Parallel run invocation start stop related
      (RunContext.stageIf due stage default left) (RunContext.stageIf due stage default right) := by
  cases due with
  | false => exact .pure ordered same
  | true => exact .inStage stage body

section

variable (options : MainOptions)

theorem buildPredictor (left right : TrainingData) (alike : left.Alike right) :
    Parallel run (.main options) 7 8 Predictor.Alike
      (run.buildPredictor options left) (run.buildPredictor options right) := by
  unfold RunContext.buildPredictor
  rw [alike.datasets.ids, alike.modelCreations]
  split
  next asked =>
    have built : Parallel run (.main options) 7 8 Resource.Alike
        (run.obtainOne .model .ensembles (options.ensembleCreation (right.datasets.map Resource.id)))
        (run.obtainOne .model .ensembles (options.ensembleCreation (right.datasets.map Resource.id))) :=
      .obtainOne .model .ensembles _ (.ensemble options asked _) (by decide) (by decide)
    refine .bind .refl built fun ensemble other ensembleAlike => ?_
    exact .pure (Nat.le_refl 8) ⟨.some ensembleAlike, .nil⟩
  next single =>
    have built : Parallel run (.main options) 7 8 Resource.AllAlike
        (run.obtainMany .model .models (options.modelCreations right))
        (run.obtainMany .model .models (options.modelCreations right)) :=
      .obtainMany .model .models _
        (fun creation member => .model options (by simpa using single) right creation member)
        (by decide) (by decide)
    refine .bind .refl built fun models others modelsAlike => ?_
    exact .pure (Nat.le_refl 8) ⟨.none, modelsAlike⟩

theorem modelStage (left right : TrainingData) (alike : left.Alike right) :
    Parallel run (.main options) 7 8 Predictor.Alike
      (run.modelStage options left) (run.modelStage options right) := by
  unfold RunContext.modelStage
  split
  next text _ =>
    refine .andThen (namedId (Nat.le_refl 7) text .ensemble) fun id => ?_
    refine .bind .refl (fetch (Nat.le_refl 7) .model (.unresolved id)) fun first other found => ?_
    exact .pure (by decide) ⟨.some found, .nil⟩
  next =>
    have input : ∀ file, options.models = some file →
        file ∈ (Invocation.main options).inputFiles := by
      intro file given
      simp [Invocation.inputFiles, given]
    refine .bind .refl (fetchGiven (Nat.le_refl 7) .model .model _ _ input)
      fun given others givenAlike => ?_
    cases givenAlike with
    | cons first rest => exact .pure (by decide) ⟨.none, .cons first rest⟩
    | nil =>
      dsimp only
      rw [alike.datasets.isEmpty]
      split
      next => exact .pure (by decide) (.refl _)
      next =>
        refine .bind .refl (buildPredictor options left right alike)
          fun predictor other predictorAlike => ?_
        refine .andThen (publish (Nat.le_refl 8) _ _ _ predictorAlike.resources _
          fun change published => .inr published) fun _ => ?_
        have primaries := predictorAlike.primary
        generalize predictor.primary? = primary at primaries ⊢
        generalize other.primary? = another at primaries ⊢
        cases primaries with
        | none => exact .pure (Nat.le_refl 8) predictorAlike
        | some alike =>
          exact .andThen (say (Nat.le_refl 8) _ _) fun _ => .pure (Nat.le_refl 8) predictorAlike

/-- Requests for pairs of a resource with each of several datasets. -/
theorem map_pairs {left right : List Resource} (alike : Resource.AllAlike left right)
    (request : ResourceId → Creation) :
    (left.map fun dataset => request dataset.id) = right.map fun dataset => request dataset.id := by
  have both := congrArg (List.map request) alike.ids
  rwa [List.map_map, List.map_map] at both

theorem predict (trained : options.crossValidates = false) (predicting : options.evaluate = false)
    (left right : Predictor) (alike : left.Alike right) (tests others : List Resource)
    (testsAlike : Resource.AllAlike tests others) :
    Parallel run (.main options) 10 12 Eq
      (run.predict options left tests) (run.predict options right others) := by
  refine .bind .refl (needed (Nat.le_refl 10) _ _ alike.primary _) fun primary other found => ?_
  rw [found.id, map_pairs testsAlike (predictionCreation options other.id)]
  have predicted : ∀ creations, (∀ creation ∈ creations,
      run.Sends (.main options) .batchPrediction creation) →
      Parallel run (.main options) 10 11 Resource.AllAlike
        (run.obtainMany .action .batchPrediction creations)
        (run.obtainMany .action .batchPrediction creations) :=
    fun creations sent => .obtainMany .action .batchPrediction creations sent (by decide) (by decide)
  refine .bind .refl (predicted _ ?_) fun batches results batchesAlike => ?_
  · intro creation member
    rcases List.mem_map.mp member with ⟨test, _, rfl⟩
    exact .prediction options other.id test.id
  · exact saveNumbered (by decide) _ (fun index => .predictions options trained predicting index) 0
      _ _ batchesAlike

theorem evaluate (evaluating : options.evaluate = true)
    (left right : Predictor) (alike : left.Alike right) (training data : TrainingData)
    (dataAlike : training.Alike data) (tests others : List Resource)
    (testsAlike : Resource.AllAlike tests others) :
    Parallel run (.main options) 10 12 Eq
      (run.evaluate options left training tests) (run.evaluate options right data others) := by
  refine .bind .refl (needed (Nat.le_refl 10) _ _ alike.primary _) fun primary other found => ?_
  refine .bind .refl (needed (Nat.le_refl 10) _ _
    (testsAlike.head.orElse dataAlike.datasets.head) _) fun dataset another given => ?_
  rw [found.id, given.id]
  have evaluated : ∀ creation, run.Sends (.main options) .evaluations creation →
      Parallel run (.main options) 10 11 Resource.Alike
        (run.obtainOne .action .evaluations creation)
        (run.obtainOne .action .evaluations creation) :=
    fun creation sent => .obtainOne .action .evaluations creation sent (by decide) (by decide)
  refine .bind .refl (evaluated _ (.evaluation options other.id another.id))
    fun evaluation result _ => ?_
  refine .andThen (writeResult (by decide : 11 ≤ 12) _ _ _
    fun suffix member => .evaluation options evaluating suffix member) fun files => ?_
  exact saySaved (Nat.le_refl 12) _ files

/-- Requests for the evaluations of numbered models. -/
theorem map_folds {left right : List Resource} (alike : Resource.AllAlike left right)
    (request : ResourceId → Nat → Creation) (index : Nat) :
    ((left.zipIdx index).map fun (model, index) => request model.id index) =
      (right.zipIdx index).map fun (model, index) => request model.id index := by
  induction alike generalizing index with
  | nil => rfl
  | cons first _ inductionHypothesis =>
    rw [List.zipIdx_cons, List.zipIdx_cons, List.map_cons, List.map_cons,
      inductionHypothesis (index + 1)]
    dsimp only
    rw [first.id]

theorem crossValidate (validating : options.crossValidates = true) (left right : TrainingData)
    (alike : left.Alike right) :
    Parallel run (.main options) 10 12 Eq
      (run.crossValidate options left) (run.crossValidate options right) := by
  refine .bind .refl (needed (Nat.le_refl 10) _ _ alike.datasets.head _)
    fun dataset other found => ?_
  rw [found.id]
  have modelled : Parallel run (.main options) 10 11 Resource.AllAlike
      (run.obtainMany .action .crossValidationModels
        ((List.range options.numberOfEvaluations).map (options.foldModelCreation other.id)))
      (run.obtainMany .action .crossValidationModels
        ((List.range options.numberOfEvaluations).map (options.foldModelCreation other.id))) := by
    refine .obtainMany .action .crossValidationModels _ ?_ (by decide) (by decide)
    intro creation member
    rcases List.mem_map.mp member with ⟨index, _, rfl⟩
    exact .foldModel options other.id index
  have evaluated : ∀ creations, (∀ creation ∈ creations,
      run.Sends (.main options) .crossValidationEvaluations creation) →
      Parallel run (.main options) 11 12 Resource.AllAlike
        (run.obtainMany .action .crossValidationEvaluations creations)
        (run.obtainMany .action .crossValidationEvaluations creations) :=
    fun creations sent => .obtainMany .action .crossValidationEvaluations creations sent
      (by decide) (by decide)
  refine .bind .refl modelled fun models others modelsAlike => ?_
  rw [map_folds modelsAlike (options.foldEvaluationCreation other.id) 0]
  refine .bind .refl (evaluated _ ?_) fun evaluations results _ => ?_
  · intro creation member
    rcases List.mem_map.mp member with ⟨⟨model, index⟩, _, rfl⟩
    exact .foldEvaluation options other.id model.id index
  refine .andThen (writeResult (Nat.le_refl 12) _ _ _
    fun suffix member => .crossValidation options validating suffix member) fun files => ?_
  exact saySaved (Nat.le_refl 12) _ files

theorem act (hasTest : Bool) (left right : Predictor) (alike : left.Alike right)
    (training data : TrainingData) (dataAlike : training.Alike data) (tests others : List Resource)
    (testsAlike : Resource.AllAlike tests others) :
    Parallel run (.main options) 10 12 Eq
      (run.act options (options.action hasTest) left training tests)
      (run.act options (options.action hasTest) right data others) := by
  cases validating : options.crossValidates with
  | true =>
    simp only [MainOptions.action, validating, if_true]
    exact crossValidate options validating training data dataAlike
  | false =>
    cases evaluating : options.evaluate with
    | true =>
      simp only [MainOptions.action, validating, evaluating, if_true, Bool.false_eq_true, if_false]
      exact evaluate options evaluating left right alike training data dataAlike tests others
        testsAlike
    | false =>
      cases hasTest with
      | true =>
        simp only [MainOptions.action, validating, evaluating, if_true, Bool.false_eq_true, if_false]
        exact predict options validating evaluating left right alike tests others testsAlike
      | false =>
        simp only [MainOptions.action, validating, evaluating, Bool.false_eq_true, if_false]
        exact .pure (by decide) rfl

theorem limitFits : LimitFits (.main options) options.categoryLimit := fun _ limited =>
  ⟨options, rfl, limited⟩

/-- The main pipeline. -/
theorem runMain :
    Parallel run (.main options) 0 12 Eq (run.runMain options) (run.runMain options) := by
  refine .bind Resource.MaybeAlike.refl (stageIf (Nat.zero_le 1) _ .source none .none sourceStage)
    fun source other sourceAlike => ?_
  rw [sourceAlike.isSome]
  refine .bind TrainingData.Alike.refl (stageIf (by decide) _ .dataset .none (.refl _)
    (datasetStage _ _ sourceAlike _ (limitFits options))) fun training data dataAlike => ?_
  refine .bind Predictor.Alike.refl (stageIf (by decide) _ .model .none (.refl _)
    (modelStage options _ _ dataAlike)) fun predictor another predictorAlike => ?_
  dsimp only
  rw [dataAlike.heldOut.isSome]
  refine .bind Resource.AllAlike.refl (stageIf (by decide) _ .testData [] .nil
    (testDataStage _ _ dataAlike)) fun tests others testsAlike => ?_
  refine .andThen (stageIf (by decide) _ .action () rfl
    (act options _ _ _ predictorAlike _ _ dataAlike _ _ testsAlike)) fun _ => ?_
  exact .inStage .report (reportStage (Nat.le_refl 12))

end

/-! ## The cluster pipeline -/

section

variable (options : ClusterOptions)

theorem mem_clusterFiles (path : Path)
    (given : some path ∈ [options.clusters, options.clusterFile]) :
    path ∈ (Invocation.cluster options).inputFiles := by
  unfold Invocation.inputFiles
  rw [List.mem_filterMap]
  exact ⟨some path, List.mem_append_right _ given, rfl⟩

theorem readCluster (ordered : start ≤ stop) (path : Option Path)
    (input : ∀ file, path = some file → file ∈ invocation.inputFiles) :
    Parallel run invocation start stop Eq (run.readCluster path) (run.readCluster path) := by
  cases path with
  | none => exact .pure ordered rfl
  | some file =>
    unfold RunContext.readCluster
    simp only [Stateful.act_bind]
    refine .andThen (readText (Nat.le_refl start) file (input file rfl)) fun text => ?_
    split
    next => exact .fail ordered _ _
    next body _ =>
      simp only [Stateful.act_bind]
      exact .andThen (ofExcept ordered _) fun resource => .pure (Nat.le_refl stop) rfl

theorem namedCluster (ordered : start ≤ stop) (text : Option String) :
    Parallel run invocation start stop Eq
      (RunContext.namedCluster text) (RunContext.namedCluster text) := by
  cases text with
  | none => exact .pure ordered rfl
  | some text =>
    exact .andThen (namedId ordered text .cluster) fun id => .pure (Nat.le_refl stop) rfl

theorem listedClusters (ordered : start ≤ stop) (path : Option Path)
    (input : ∀ file, path = some file → file ∈ invocation.inputFiles) :
    Parallel run invocation start stop Eq
      (run.listedClusters path) (run.listedClusters path) := by
  cases path with
  | none => exact .pure ordered rfl
  | some file =>
    exact .andThen (readIds ordered file (input file rfl) .cluster) fun ids =>
      .pure (Nat.le_refl stop) rfl

theorem clusterStage (left right : TrainingData) (alike : left.Alike right) :
    Parallel run (.cluster options) 7 8 Resource.AllAlike
      (run.clusterStage options left) (run.clusterStage options right) := by
  have clusterFile : ∀ file, options.clusterFile = some file →
      file ∈ (Invocation.cluster options).inputFiles :=
    fun file given => mem_clusterFiles options file (by simp [← given])
  have clusterList : ∀ file, options.clusters = some file →
      file ∈ (Invocation.cluster options).inputFiles :=
    fun file given => mem_clusterFiles options file (by simp [← given])
  refine .andThen (readCluster (Nat.le_refl 7) _ clusterFile) fun fromFile => ?_
  refine .andThen (namedCluster (Nat.le_refl 7) _) fun named => ?_
  refine .andThen (listedClusters (Nat.le_refl 7) _ clusterList) fun listed => ?_
  cases fromFile ++ named ++ listed with
  | cons first rest => exact fetchAll (by decide) .model _
  | nil =>
    dsimp only
    rw [alike.datasets.isEmpty, alike.datasets.ids]
    split
    next => exact .pure (by decide) .nil
    next =>
      have built : Parallel run (.cluster options) 7 8 Resource.Alike
          (run.obtainOne .model .clusters ⟨.cluster,
            datasetOrigin (right.datasets.map Resource.id), clusterArguments options⟩)
          (run.obtainOne .model .clusters ⟨.cluster,
            datasetOrigin (right.datasets.map Resource.id), clusterArguments options⟩) :=
        .obtainOne .model .clusters _ (.cluster options _) (by decide) (by decide)
      refine .bind .refl built fun cluster other clusterAlike => ?_
      refine .andThen (publish (Nat.le_refl 8) _ _ _ (.cons clusterAlike .nil) _
        fun change published => .inr published) fun _ => ?_
      exact .pure (Nat.le_refl 8) (.cons clusterAlike .nil)

theorem batchCentroids (left right : Resource) (alike : left.Alike right)
    (tests others : List Resource) (testsAlike : Resource.AllAlike tests others) :
    Parallel run (.cluster options) 10 11 Eq
      (run.batchCentroids options left tests) (run.batchCentroids options right others) := by
  unfold RunContext.batchCentroids
  rw [alike.id, map_pairs testsAlike (batchCentroidCreation options right.id)]
  have centered : ∀ creations, (∀ creation ∈ creations,
      run.Sends (.cluster options) .batchCentroid creation) →
      Parallel run (.cluster options) 10 11 Resource.AllAlike
        (run.obtainMany .action .batchCentroid creations)
        (run.obtainMany .action .batchCentroid creations) :=
    fun creations sent => .obtainMany .action .batchCentroid creations sent (by decide) (by decide)
  refine .bind .refl (centered _ ?_) fun batches results batchesAlike => ?_
  · intro creation member
    rcases List.mem_map.mp member with ⟨test, _, rfl⟩
    exact .batchCentroid options right.id test.id
  · exact saveNumbered (Nat.le_refl 11) _ (fun index => .centroids options index) 0 _ _ batchesAlike

theorem centroidDatasets (ordered : start ≤ 11) (left right : Resource)
    (alike : left.Alike right) (names : List String) :
    Parallel run (.cluster options) start 12 Eq
      (run.centroidDatasets left names) (run.centroidDatasets right names) := by
  unfold RunContext.centroidDatasets
  rw [alike.centroids, alike.id]
  split
  next => exact say (Nat.le_succ_of_le ordered) _ _
  next =>
    refine .bind .refl (fetchAll (Nat.le_refl start) .action _) fun fetched others _ => ?_
    split
    next => exact .pure (Nat.le_succ_of_le ordered) rfl
    next =>
      have built : ∀ centroids, Parallel run (.cluster options) start 12 Resource.AllAlike
          (run.obtainMany .action .clusterDatasets
            (List.map (centroidDatasetCreation right.id) centroids))
          (run.obtainMany .action .clusterDatasets
            (List.map (centroidDatasetCreation right.id) centroids)) := by
        intro centroids
        refine .obtainMany .action .clusterDatasets _ ?_ ordered (by decide)
        intro creation member
        rcases List.mem_map.mp member with ⟨centroid, _, rfl⟩
        exact .centroidDataset options right.id centroid
      exact .bind Resource.AllAlike.refl (built _) fun _ _ _ => .pure (Nat.le_refl 12) rfl

theorem useCluster (left right tests others : List Resource)
    (alike : Resource.AllAlike left right) (testsAlike : Resource.AllAlike tests others)
    (names : Option (List String)) :
    Parallel run (.cluster options) 10 12 Eq
      (run.useCluster options left tests names) (run.useCluster options right others names) := by
  refine .bind .refl (needed (Nat.le_refl 10) _ _ alike.head _) fun primary other found => ?_
  rw [testsAlike.isEmpty]
  have batch : Parallel run (.cluster options) 10 11 Eq
      (run.batchCentroids options primary tests) (run.batchCentroids options other others) :=
    batchCentroids options primary other found tests others testsAlike
  cases names with
  | none =>
    cases others.isEmpty with
    | true => exact .pure (by decide) rfl
    | false => exact .andThen batch fun _ => .pure (by decide) rfl
  | some names =>
    have rest : ∀ begun, begun ≤ 11 → Parallel run (.cluster options) begun 12 Eq
        (run.centroidDatasets primary names) (run.centroidDatasets other names) :=
      fun begun ordered => centroidDatasets options ordered primary other found names
    cases others.isEmpty with
    | true => exact rest 10 (by decide)
    | false => exact .andThen batch fun _ => rest 11 (Nat.le_refl 11)

/-- The cluster pipeline. -/
theorem runCluster :
    Parallel run (.cluster options) 0 12 Eq (run.runCluster options) (run.runCluster options) := by
  refine .bind Resource.MaybeAlike.refl (stageIf (Nat.zero_le 1) _ .source none .none sourceStage)
    fun source other sourceAlike => ?_
  rw [sourceAlike.isSome]
  refine .bind TrainingData.Alike.refl (stageIf (by decide) _ .dataset .none (.refl _)
    (datasetStage _ _ sourceAlike none fun _ impossible => by cases impossible))
    fun training data dataAlike => ?_
  refine .bind Resource.AllAlike.refl (.inStage .model (clusterStage options _ _ dataAlike))
    fun clusters found clustersAlike => ?_
  dsimp only
  rw [dataAlike.heldOut.isSome]
  refine .bind Resource.AllAlike.refl (stageIf (by decide) _ .testData [] .nil
    (testDataStage _ _ dataAlike)) fun tests others testsAlike => ?_
  rw [testsAlike.isEmpty]
  refine .andThen (stageIf (by decide) _ .action () rfl
    (useCluster options _ _ _ _ clustersAlike testsAlike _)) fun _ => ?_
  exact .inStage .report (reportStage (Nat.le_refl 12))

end

/-- Whatever an invocation asks for, its pipeline is parallel to itself. -/
theorem runPipeline :
    Parallel run invocation 0 12 Eq (run.runPipeline invocation) (run.runPipeline invocation) := by
  cases invocation with
  | main options => exact runMain options
  | cluster options => exact runCluster options

end RunContext.Parallel

end ModelRuns
