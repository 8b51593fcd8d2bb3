import Mathlib.Data.List.Nodup
import ModelRuns.Proofs.Json.Fields
import ModelRuns.Proofs.Pipeline.Afresh
import ModelRuns.Proofs.Pipeline.Evaluating

namespace ModelRuns

open Stateful

/-!
# Samples and what they leave out

A run that holds out test data splits a dataset in two halves, and a cross-validation
builds models on samples and evaluates each on what its sample leaves out.  The service
draws a sample from a rate and a seed, so two requests speak of the same sample of a
dataset if they give the same rate and seed.

The requests of a fresh run fit together because it creates all of them in one go.  Those
of a run that was broken off and taken up again are from several attempts, and the
identifiers that evaluations are paired by are partly from checkpoints; but all attempts
together create what the undisturbed run creates.
-/

/-! ## Arguments of requests -/

namespace Creation

/-- The value that a request gives to an argument. -/
def argument? (creation : Creation) (key : String) : Option Json := creation.arguments.field? key

/-- A request has the fields of its own. -/
theorem argument?_own (kind : ResourceKind) (origin : Origin) (options : CommonOptions)
    {own : Fields} {key : String} {value : Json} (given : getField? key own.reverse = some value) :
    (⟨kind, origin, options.argumentsWith own⟩ : Creation).argument? key = some value := by
  refine (getField?_mergeFields key options.baseArguments own).trans ?_
  rw [given, Option.some_or]

/-- The request speaks of the sample that is drawn with this rate and this seed. -/
structure Draws (creation : Creation) (rate seed : Json) : Prop where
  rate : creation.argument? "sample_rate" = some rate
  seed : creation.argument? "seed" = some seed

/-- Two requests divide a dataset: the first asks for a sample of it, and the second for what
this sample leaves out. -/
structure Halves (train test : Creation) : Prop where
  origin : ∃ dataset, train.origin = .resource dataset ∧ test.origin = .resource dataset
  sample : ∃ rate seed, train.Draws rate seed ∧ test.Draws rate seed
  sampled : train.argument? "out_of_bag" = some (.bool false)
  leftOut : test.argument? "out_of_bag" = some (.bool true)

end Creation

theorem halves_splitCreation (options : CommonOptions) (dataset : Resource) :
    Creation.Halves (RunContext.splitCreation options dataset false)
      (RunContext.splitCreation options dataset true) := by
  have given (outOfBag : Bool) :
      (RunContext.splitCreation options dataset outOfBag).Draws
        (.ofFloat (1.0 - options.testSplit)) (.text (options.seed.getD defaultSeed)) ∧
      (RunContext.splitCreation options dataset outOfBag).argument? "out_of_bag" =
        some (.bool outOfBag) := by
    refine ⟨⟨?_, ?_⟩, ?_⟩ <;> exact Creation.argument?_own _ _ _ (by simp [getField?])
  exact ⟨⟨dataset.id, rfl, rfl⟩, ⟨_, _, (given false).1, (given true).1⟩, (given false).2,
    (given true).2⟩

namespace MainOptions

variable (options : MainOptions) (dataset model : ResourceId) (index : Nat)

theorem draws_foldModelCreation :
    (options.foldModelCreation dataset index).Draws options.foldRate
      (options.foldSeed index) := by
  constructor <;> exact Creation.argument?_own _ _ _ (by simp [getField?])

theorem draws_foldEvaluationCreation :
    (options.foldEvaluationCreation dataset model index).Draws options.foldRate
      (options.foldSeed index) := by
  constructor <;> exact Creation.argument?_own _ _ _ (by simp [getField?])

theorem leftOut_foldEvaluationCreation :
    (options.foldEvaluationCreation dataset model index).argument? "out_of_bag" =
      some (.bool true) :=
  Creation.argument?_own _ _ _ (by simp [getField?])

/-- The requests for all models of a cross-validation. -/
def foldModelCreations : List Creation :=
  (List.range options.numberOfEvaluations).map (options.foldModelCreation dataset)

/-- The requests for the evaluations of the models, each numbered by its place. -/
def foldEvaluationCreations (models : List Resource) : List Creation :=
  models.zipIdx.map fun (model, index) => options.foldEvaluationCreation dataset model.id index

variable {options dataset index} in
theorem eq_of_getElem?_foldModelCreations {creation : Creation}
    (numbered : (options.foldModelCreations dataset)[index]? = some creation) :
    creation = options.foldModelCreation dataset index := by
  rw [foldModelCreations, List.getElem?_map] at numbered
  rcases Option.map_eq_some_iff.mp numbered with ⟨position, inside, made⟩
  rcases List.getElem?_eq_some_iff.mp inside with ⟨_, same⟩
  rw [← made, ← same, List.getElem_range]

theorem getElem?_foldEvaluationCreations (models : List Resource) :
    (options.foldEvaluationCreations dataset models)[index]? =
      models[index]?.map fun model => options.foldEvaluationCreation dataset model.id index := by
  rw [foldEvaluationCreations, List.getElem?_map, List.getElem?_zipIdx, Option.map_map,
    Nat.zero_add]
  rfl

/-- No two samples of a cross-validation have one seed. -/
theorem foldSeed_injective : Function.Injective options.foldSeed := by
  intro index other same
  injection same with texts
  have digits := congrArg (fun text => Nat.ofDigitChars 10 text.toList 0)
    ((String.append_right_inj _).mp texts)
  simpa only [Nat.toString_eq_repr, Nat.toList_repr, Nat.ofDigitChars_ten_toDigits] using digits

theorem seeds_foldEvaluationCreations (models : List Resource) :
    ((options.foldEvaluationCreations dataset models).map (·.argument? "seed")).Nodup := by
  have seeds : (options.foldEvaluationCreations dataset models).map (·.argument? "seed") =
      (List.range' 0 models.length).map fun index => some (options.foldSeed index) := by
    rw [foldEvaluationCreations, List.map_map, ← List.zipIdx_map_snd, List.map_map]
    refine List.map_congr_left fun ⟨model, index⟩ _ => ?_
    exact (options.draws_foldEvaluationCreation dataset model.id index).seed
  rw [seeds]
  exact List.Nodup.map (fun _ _ same => options.foldSeed_injective (Option.some.inj same))
    List.nodup_range'

end MainOptions

/-! ## Samples of a run -/

/-- A run splits a dataset in two halves. -/
def Split (entries : List Entry) : Prop :=
  ∃ train test, Entry.placedAt .datasetTrain entries = [train] ∧
    Entry.placedAt .datasetTest entries = [test] ∧ train.creation.Halves test.creation

/-- A run has nothing to split: no dataset is named, and none is created from a source. -/
structure Unsplit (common : CommonOptions) (entries : List Entry) : Prop where
  unnamed : common.dataset = none
  uncreated : ∀ checkpoint ∈ [Checkpoint.dataset, .datasetTrain, .datasetTest],
    Entry.placedAt checkpoint entries = []

/-- A run splits a dataset if it has one. -/
def Halved (common : CommonOptions) (entries : List Entry) : Prop :=
  Split entries ∨ Unsplit common entries

theorem Halved.nil {common : CommonOptions} (unnamed : common.dataset = none) :
    Halved common [] := .inr ⟨unnamed, fun _ _ => rfl⟩

/-- A model is evaluated on what its own sample of a dataset leaves out. -/
structure Entry.Validates (dataset : ResourceId) (model evaluation : Entry) : Prop where
  kinds : model.creation.kind = .model ∧ evaluation.creation.kind = .evaluation
  sampled : model.creation.origin = .resource dataset
  paired : evaluation.creation.origin = .pair model.id dataset
  sample : ∃ rate seed, model.creation.Draws rate seed ∧ evaluation.creation.Draws rate seed
  leftOut : evaluation.creation.argument? "out_of_bag" = some (.bool true)

theorem Entry.Validates.of_folds {options : MainOptions} {dataset : ResourceId} {index : Nat}
    {model evaluation : Entry}
    (requested : model.creation = options.foldModelCreation dataset index)
    (paired : evaluation.creation = options.foldEvaluationCreation dataset model.id index) :
    model.Validates dataset evaluation := by
  constructor
  · rw [requested, paired]
    exact ⟨rfl, rfl⟩
  · rw [requested]
    rfl
  · rw [paired]
    rfl
  · rw [requested, paired]
    exact ⟨_, _, options.draws_foldModelCreation dataset index,
      options.draws_foldEvaluationCreation dataset model.id index⟩
  · rw [paired]
    exact options.leftOut_foldEvaluationCreation dataset model.id index

/-- The models and evaluations of a cross-validation, in their order. -/
structure CrossValidation (dataset : ResourceId) (count : Nat) (models evaluations : List Entry) :
    Prop where
  eachModel : models.length = count
  eachEvaluation : evaluations.length = count
  paired : ∀ (index : Nat) (model evaluation : Entry), models[index]? = some model →
    evaluations[index]? = some evaluation → model.Validates dataset evaluation
  distinct : (evaluations.map fun entry => entry.creation.argument? "seed").Nodup

/-- A run cross-validates a number of models. -/
def Folded (count : Nat) (entries : List Entry) : Prop :=
  ∃ dataset, CrossValidation dataset count (Entry.placedAt .crossValidationModels entries)
    (Entry.placedAt .crossValidationEvaluations entries)

namespace RunContext

variable {run : RunContext} {invocation : Invocation}

/-- What is obtained with one request has one entry. -/
theorem Obtained.alone {checkpoint : Checkpoint} {creation : Creation} {entries : List Entry}
    {resources : List Resource} (obtained : Obtained checkpoint [creation] entries resources) :
    ∃ entry, entry.creation = creation ∧ Entry.placedAt checkpoint entries = [entry] := by
  rcases List.map_eq_singleton_iff.mp obtained.requests with ⟨entry, rfl, requested⟩
  exact ⟨entry, requested, Entry.placedAt_of_placed obtained.placed⟩

/-- The requests of the folds give the entries of a cross-validation. -/
theorem Obtained.crossValidation {options : MainOptions} {dataset : ResourceId}
    {modelEntries evaluationEntries : List Entry} {models evaluations : List Resource}
    (modelled : Obtained .crossValidationModels (options.foldModelCreations dataset) modelEntries
      models)
    (evaluated : Obtained .crossValidationEvaluations
      (options.foldEvaluationCreations dataset models) evaluationEntries evaluations) :
    CrossValidation dataset options.numberOfEvaluations modelEntries evaluationEntries := by
  have countModels : modelEntries.length = options.numberOfEvaluations := by
    simpa [MainOptions.foldModelCreations] using congrArg List.length modelled.requests
  have countFound : models.length = modelEntries.length := by
    simpa using congrArg List.length modelled.ids
  refine ⟨countModels, ?_, fun index model evaluation hereModel hereEvaluation => ?_, ?_⟩
  · simpa [MainOptions.foldEvaluationCreations, countFound, countModels] using
      congrArg List.length evaluated.requests
  · have requested := congrArg (fun creations => creations[index]?) modelled.requests
    have asked := congrArg (fun creations => creations[index]?) evaluated.requests
    have ids := congrArg (fun ids => ids[index]?) modelled.ids
    rw [List.getElem?_map, hereModel] at requested
    rw [List.getElem?_map, List.getElem?_map, hereModel] at ids
    -- The evaluation names its model by the resource that was waited for.
    rcases Option.map_eq_some_iff.mp ids with ⟨resource, inside, same⟩
    rw [List.getElem?_map, hereEvaluation, options.getElem?_foldEvaluationCreations, inside,
      Option.map_some, Option.map_some, same] at asked
    exact .of_folds (MainOptions.eq_of_getElem?_foldModelCreations requested.symm)
      (Option.some.inj asked)
  · have seeds := options.seeds_foldEvaluationCreations dataset models
    rwa [← evaluated.requests, List.map_map] at seeds

/-! ## Entries of other steps -/

/-- What is said of entries is about those between two turns. -/
def Concerns (start stop : Nat) (good : List Entry → Prop) : Prop :=
  ∀ entries others, (∀ checkpoint : Checkpoint, start ≤ checkpoint.turn → checkpoint.turn < stop →
    Entry.placedAt checkpoint entries = Entry.placedAt checkpoint others) →
    good entries → good others

section

variable {start stop first last : Nat} {good : List Entry → Prop} {entries others : List Entry}

theorem Concerns.behind (concerns : Concerns start stop good) (placed : Placed first last others)
    (before : last ≤ start) (holds : good entries) : good (others ++ entries) := by
  refine concerns entries _ (fun checkpoint after _ => ?_) holds
  rw [Entry.placedAt_append, placed.placedAt_eq_nil (.inr (Nat.le_trans before after)),
    List.nil_append]

theorem Concerns.before (concerns : Concerns start stop good) (placed : Placed first last others)
    (after : stop ≤ first) (holds : good entries) : good (entries ++ others) := by
  refine concerns entries _ (fun checkpoint _ before => ?_) holds
  rw [Entry.placedAt_append, placed.placedAt_eq_nil (.inl (Nat.lt_of_lt_of_le before after)),
    List.append_nil]

end

theorem concerns_split : Concerns 4 6 Split := by
  rintro entries others same ⟨train, test, trained, tested, halves⟩
  rw [same .datasetTrain (by decide) (by decide)] at trained
  rw [same .datasetTest (by decide) (by decide)] at tested
  exact ⟨train, test, trained, tested, halves⟩

theorem concerns_halved (common : CommonOptions) : Concerns 1 6 (Halved common) := by
  intro entries others same halved
  refine halved.imp (fun split => ?_) fun unsplit => ⟨unsplit.unnamed, fun checkpoint member => ?_⟩
  · refine concerns_split entries others (fun checkpoint after before => ?_) split
    exact same checkpoint (Nat.le_trans (by decide) after) before
  · have turns : ∀ checkpoint ∈ [Checkpoint.dataset, .datasetTrain, .datasetTest],
        1 ≤ checkpoint.turn ∧ checkpoint.turn < 6 := by decide
    rw [← same checkpoint (turns checkpoint member).1 (turns checkpoint member).2]
    exact unsplit.uncreated checkpoint member

theorem Concerns.imp {start stop : Nat} {good : List Entry → Prop}
    (concerns : Concerns start stop good) (asked : Prop) :
    Concerns start stop fun entries => asked → good entries :=
  fun entries others same holds asked => concerns entries others same (holds asked)

theorem concerns_folded (count : Nat) : Concerns 10 12 (Folded count) := by
  rintro entries others same ⟨dataset, validated⟩
  rw [same .crossValidationModels (by decide) (by decide),
    same .crossValidationEvaluations (by decide) (by decide)] at validated
  exact ⟨dataset, validated⟩

namespace Records

variable {α β : Type} {start middle stop first last : Nat} {good : List Entry → Prop}

/-- A step behind one that comes to earlier checkpoints. -/
theorem behind {step : Step β} {next : β → Step α} {holds : β → Prop}
    (concerns : Concerns first last good)
    (early : run.Records invocation start middle (fun _ value => holds value) step)
    (before : middle ≤ first)
    (later : ∀ value, holds value →
      run.Records invocation middle stop (fun entries _ => good entries) (next value)) :
    run.Records invocation start stop (fun entries _ => good entries) (step >>= next) :=
  .bind early fun value _ placed known => (later value known).mono fun _ _ _ kept =>
    concerns.behind placed before kept

/-- A step before one that comes to later checkpoints. -/
theorem before {step : Step β} {next : β → Step α} (concerns : Concerns first last good)
    (early : run.Records invocation start middle (fun entries _ => good entries) step)
    (after : last ≤ middle)
    (later : ∀ value, run.Records invocation middle stop (fun _ _ => True) (next value)) :
    run.Records invocation start stop (fun entries _ => good entries) (step >>= next) :=
  .bind early fun value _ _ holds => (later value).mono fun _ _ placed _ =>
    concerns.before placed after holds

/-- What is known of the value of a step. -/
theorem returning {holds : α → Prop} {step : Step α}
    (records : run.Records invocation start stop (fun _ _ => True) step)
    (returns : Returns holds step) :
    run.Records invocation start stop (fun _ value => holds value) step := by
  intro before trace value after steady goes faithful
  rcases records _ _ _ _ steady goes faithful with ⟨entries, leaves, _⟩
  exact ⟨entries, leaves, returns _ _ _ _ goes⟩

/-! ## Halves of a dataset -/

theorem split (asked : 0.0 < invocation.common.testSplit) (dataset : Resource)
    (datasets : List Resource) :
    run.Records invocation 4 6 (fun entries _ => Split entries)
      (run.split invocation.common dataset datasets) := by
  have trained : run.Records invocation 4 5 _
      (run.obtainOne .dataset .datasetTrain (splitCreation invocation.common dataset false)) :=
    obtainOne (.datasetTrain invocation dataset asked) (by decide) (by decide)
  have tested : run.Records invocation 5 6 _
      (run.obtainOne .dataset .datasetTest (splitCreation invocation.common dataset true)) :=
    obtainOne (.datasetTest invocation dataset asked) (by decide) (by decide)
  rw [RunContext.split, if_pos asked]
  refine .bind trained fun train first early one => ?_
  refine .bind tested fun test second late another => .pure (Nat.le_refl 6) ?_
  rcases one.alone with ⟨sample, requestedSample, alone⟩
  rcases another.alone with ⟨rest, requestedRest, single⟩
  rw [List.append_nil]
  refine ⟨sample, rest, ?_, ?_, ?_⟩
  · rw [Entry.placedAt_append, alone, late.placedAt_eq_nil (.inl (by decide)), List.append_nil]
  · rw [Entry.placedAt_append, single, early.placedAt_eq_nil (.inr (by decide)), List.nil_append]
  · rw [requestedSample, requestedRest]
    exact halves_splitCreation invocation.common dataset

/-- There is no first dataset only where none is named and none is created. -/
theorem firstDatasets (source : Option Resource) :
    run.Records invocation 1 2
      (fun entries datasets => datasets = [] → Unsplit invocation.common entries)
      (run.firstDatasets invocation.common source) := by
  have input : ∀ file, invocation.common.datasets = some file → file ∈ invocation.inputFiles :=
    fun file given => Parallel.mem_inputFiles invocation file (by simp [← given])
  have fetched : run.Records invocation 1 1
      (fun _ given => given = [] → invocation.common.dataset = none)
      (run.fetchGiven .dataset .dataset invocation.common.dataset invocation.common.datasets) := by
    refine returning (Parallel.fetchGiven (Nat.le_refl 1) _ _ _ _ input).records.1 ?_
    rintro _ _ _ _ goes rfl
    exact (goes_fetchGiven_nil goes).1
  refine .bind fetched fun given early placed unnamed => ?_
  cases given with
  | cons first rest => exact .pure (by decide) nofun
  | nil =>
    cases source with
    | none =>
      refine .pure (by decide) fun _ => ⟨unnamed rfl, fun checkpoint _ => ?_⟩
      rw [List.append_nil]
      exact placed.placedAt_eq_nil (Nat.lt_or_ge _ _)
    | some source =>
      have made : run.Records invocation 1 2 _ (run.obtainOne .dataset .dataset
          ⟨.dataset, .resource source.id, .object invocation.common.baseArguments⟩) :=
        obtainOne (.dataset invocation source.id) (by decide) (by decide)
      exact .bind made.any fun _ _ _ _ => .pure (Nat.le_refl 2) nofun

theorem withNewFields (first : Resource) {datasets : List Resource} (nonempty : datasets ≠ []) :
    run.Records invocation 2 3 (fun _ extended => extended ≠ [])
      (run.withNewFields invocation.common first datasets) := by
  refine returning
    (Parallel.withNewFields first first (.refl first) _ _ (.refl datasets)).records.1 ?_
  unfold RunContext.withNewFields
  split
  next => exact .pure nonempty
  next => exact .behind fun _ => .behind fun _ => .pure (List.cons_ne_nil _ _)

theorem merged {datasets : List Resource} (nonempty : datasets ≠ []) :
    run.Records invocation 3 4 (fun _ merged => merged ≠ [])
      (run.merged invocation.common datasets) := by
  refine returning (Parallel.merged _ _ (.refl datasets)).records.1 ?_
  unfold RunContext.merged
  split
  next => exact .behind fun _ => .pure (List.cons_ne_nil _ _)
  next => exact .pure nonempty

/-- The stage of the datasets splits one of them, if that is asked for. -/
theorem datasetStage (asked : 0.0 < invocation.common.testSplit) (source : Option Resource)
    (limit : Option CategoryLimit) (fits : Parallel.LimitFits invocation limit) :
    run.Records invocation 1 7 (fun entries _ => Halved invocation.common entries)
      (run.datasetStage invocation.common source limit) := by
  refine .bind (firstDatasets source) fun given early placed unsplit => ?_
  cases given with
  | nil =>
    refine .pure (by decide) (.inr ?_)
    rw [List.append_nil]
    exact unsplit rfl
  | cons first rest =>
    refine Records.mono (?_ : run.Records invocation 2 7 (fun entries _ => Split entries) _)
      fun entries _ _ split => .inl (concerns_split.behind placed (by decide) split)
    refine .behind concerns_split (withNewFields first (List.cons_ne_nil first rest)) (by decide)
      fun extended nonempty => ?_
    refine .behind concerns_split (merged nonempty) (by decide) fun datasets nonempty => ?_
    refine .behind concerns_split (Parallel.publish (Nat.le_refl 4) _ _ _ (.refl datasets) _
      (Parallel.publishes_dataset invocation)).records.1 (Nat.le_refl 4) fun _ _ => ?_
    cases datasets with
    | nil => exact absurd rfl nonempty
    | cons primary others =>
      refine .behind concerns_split (Parallel.exportDataset (Nat.le_refl 4) primary primary
        (.refl primary)).records.1 (Nat.le_refl 4) fun _ _ => ?_
      exact .before concerns_split (split asked primary (primary :: others)) (Nat.le_refl 6)
        fun parts => (Parallel.divided limit fits _ _ (.refl _)).records.1

/-- Where the stage of the datasets is not due, no dataset is named. -/
theorem halvedStage (source : Option Resource) (limit : Option CategoryLimit)
    (fits : Parallel.LimitFits invocation limit) :
    let common := invocation.common
    run.Records invocation 1 7
      (fun entries _ => 0.0 < common.testSplit → Halved common entries)
      (RunContext.stageIf (source.isSome || (common.dataset.isSome || common.datasets.isSome))
        .dataset .none (run.datasetStage common source limit)) := by
  by_cases asked : 0.0 < invocation.common.testSplit
  · refine (stageIf (by decide) (fun idle => Halved.nil ?_) fun _ =>
      datasetStage asked source limit fits).mono fun _ _ _ halved _ => halved
    simp only [Bool.or_eq_false_iff, Option.isSome_eq_false_iff, Option.isNone_iff_eq_none] at idle
    exact idle.2.1
  · refine (Parallel.stageIf (by decide) _ .dataset .none (.refl _)
      (Parallel.datasetStage source source (.refl source) limit fits)).records.1.mono ?_
    exact fun _ _ _ _ given => absurd given asked

/-! ## Folds of a cross-validation -/

section

variable (options : MainOptions)

theorem crossValidate (validating : options.crossValidates = true) (training : TrainingData) :
    run.Records (.main options) 10 12 (fun entries _ => Folded options.numberOfEvaluations entries)
      (run.crossValidate options training) := by
  have concerns := concerns_folded options.numberOfEvaluations
  refine .behind concerns (Parallel.needed (Nat.le_refl 10) _ _
    (.refl training.datasets.head?) _).records.1 (Nat.le_refl 10) fun dataset _ => ?_
  have modelled : run.Records (.main options) 10 11
      (Obtained .crossValidationModels (options.foldModelCreations dataset.id))
      (run.obtainMany .action .crossValidationModels (options.foldModelCreations dataset.id)) := by
    refine obtainMany (fun creation member => ?_) (by decide) (by decide)
    rcases List.mem_map.mp member with ⟨index, _, rfl⟩
    exact .foldModel options dataset.id index
  have evaluated : ∀ models, run.Records (.main options) 11 12
      (Obtained .crossValidationEvaluations (options.foldEvaluationCreations dataset.id models))
      (run.obtainMany .action .crossValidationEvaluations
        (options.foldEvaluationCreations dataset.id models)) := by
    intro models
    refine obtainMany (fun creation member => ?_) (by decide) (by decide)
    rcases List.mem_map.mp member with ⟨⟨model, index⟩, _, rfl⟩
    exact .foldEvaluation options dataset.id model.id index
  refine .bind modelled fun models first early trained => ?_
  refine .bind (evaluated models) fun evaluations second late tested => ?_
  have saved : ∀ average, run.Parallel (.main options) 12 12 Eq
      (Stateful.act (writeResult (run.paths.output.child crossValidationName) average) >>=
        run.saySaved "Cross-validation")
      (Stateful.act (writeResult (run.paths.output.child crossValidationName) average) >>=
        run.saySaved "Cross-validation") := fun average =>
    .andThen (Parallel.writeResult (Nat.le_refl 12) _ average average
      fun suffix member => .crossValidation options validating suffix member)
      fun files => Parallel.saySaved (Nat.le_refl 12) _ files
  refine (saved _).records.1.mono fun last _ placed _ => ?_
  rw [← List.append_assoc]
  refine concerns.before placed (Nat.le_refl 12) ⟨dataset.id, ?_⟩
  rw [Entry.placedAt_append, Entry.placedAt_of_placed trained.placed,
    late.placedAt_eq_nil (.inl (by decide)), List.append_nil, Entry.placedAt_append,
    Entry.placedAt_of_placed tested.placed, early.placedAt_eq_nil (.inr (by decide)),
    List.nil_append]
  exact trained.crossValidation tested

theorem act (hasTest : Bool) (predictor : Predictor) (training : TrainingData)
    (tests : List Resource) :
    run.Records (.main options) 10 12
      (fun entries _ => options.crossValidates = true → Folded options.numberOfEvaluations entries)
      (run.act options (options.action hasTest) predictor training tests) := by
  by_cases validating : options.crossValidates = true
  · have chosen : options.action hasTest = .crossValidate := if_pos validating
    rw [chosen]
    exact (crossValidate options validating training).mono fun _ _ _ folded _ => folded
  · exact (Parallel.act options hasTest predictor predictor (.refl _) training training (.refl _)
      tests tests (.refl tests)).records.1.mono fun _ _ _ _ asked => absurd asked validating

/-- What the main pipeline creates in its dataset stage and in its action. -/
theorem runMain :
    run.Records (.main options) 0 12
      (fun entries _ => (0.0 < options.common.testSplit → Halved options.common entries) ∧
        (options.crossValidates = true → Folded options.numberOfEvaluations entries))
      (run.runMain options) := by
  refine .bind (Parallel.stageIf (Nat.zero_le 1) _ .source none .none
    Parallel.sourceStage).records.1 fun source early first _ => ?_
  refine .bind (halvedStage source _ (Parallel.limitFits options))
    fun training halves second halved => ?_
  refine .bind (Parallel.stageIf (by decide) _ .model .none (.refl _)
    (Parallel.modelStage options training training (.refl training))).records.1
    fun predictor models third _ => ?_
  refine .bind (Parallel.stageIf (by decide) _ .testData [] .nil
    (Parallel.testDataStage training training (.refl training))).records.1
    fun tests testing fourth _ => ?_
  refine .bind (stageIf (by decide) ?_ fun _ => act options _ predictor training tests)
    fun _ folds fifth folded => ?_
  · intro idle validating
    simp [MainOptions.action, validating] at idle
  have report : run.Parallel (.main options) 12 12 Eq _ _ :=
    .inStage .report (Parallel.reportStage (Nat.le_refl 12))
  refine report.records.1.mono fun last _ sixth _ => ⟨fun asked => ?_, fun validating => ?_⟩
  · have behind := third.append (fourth.append (fifth.append sixth (by decide) (by decide))
      (by decide) (by decide)) (by decide) (by decide)
    have concerns := concerns_halved options.common
    exact concerns.behind first (by decide) (concerns.before behind (by decide) (halved asked))
  · have concerns := concerns_folded options.numberOfEvaluations
    exact concerns.behind first (by decide) (concerns.behind second (by decide)
      (concerns.behind third (by decide) (concerns.behind fourth (by decide)
        (concerns.before sixth (by decide) (folded validating)))))

end

/-- What the cluster pipeline creates in its dataset stage. -/
theorem runCluster (options : ClusterOptions) :
    run.Records (.cluster options) 0 12
      (fun entries _ => 0.0 < options.common.testSplit → Halved options.common entries)
      (run.runCluster options) := by
  have concerns := (concerns_halved options.common).imp (0.0 < options.common.testSplit)
  refine .behind concerns (Parallel.stageIf (Nat.zero_le 1) _ .source none .none
    Parallel.sourceStage).records.1 (by decide) fun source _ => ?_
  refine .before concerns (halvedStage source none fun _ impossible => nomatch impossible)
    (by decide) fun training => ?_
  refine .bind (Parallel.inStage .model
    (Parallel.clusterStage options training training (.refl training))).records.1
    fun clusters _ _ _ => ?_
  refine .bind (Parallel.stageIf (by decide) _ .testData [] .nil
    (Parallel.testDataStage training training (.refl training))).records.1 fun tests _ _ _ => ?_
  refine .bind (Parallel.stageIf (by decide) _ .action () rfl (Parallel.useCluster options clusters
    clusters tests tests (.refl clusters) (.refl tests) _)).records.1 fun _ _ _ _ => ?_
  exact (Parallel.inStage .report (Parallel.reportStage (Nat.le_refl 12))).records.1

/-- What a pipeline creates of samples. -/
theorem runPipeline (invocation : Invocation) :
    run.Records invocation 0 12
      (fun entries _ => (0.0 < invocation.common.testSplit → Halved invocation.common entries) ∧
        ∀ options, invocation = .main options → options.crossValidates = true →
          Folded options.numberOfEvaluations entries) (run.runPipeline invocation) := by
  cases invocation with
  | main options =>
    refine (runMain options).mono fun entries _ _ known => ⟨known.1, ?_⟩
    rintro _ ⟨⟩
    exact known.2
  | cluster options =>
    exact (runCluster options).mono fun entries _ _ halved => ⟨halved, fun _ impossible =>
      nomatch impossible⟩

end Records

end RunContext

/-! ## Attempts -/

namespace Outside

variable {outside : Outside} {run : RunContext} {invocation : Invocation}

/-- What the service keeps under an identifier is the resource of this identifier. -/
def Identified (outside : Outside) : Prop :=
  ∀ creations id stored, outside.kept creations id = some stored → stored.id = id

theorem Identified.faithful (identified : outside.Identified) (earlier : List Exchange)
    (exchange : Exchange) (agrees : outside.Agrees run earlier exchange) : exchange.Faithful := by
  rcases exchange with ⟨asked, answer⟩
  cases asked with
  | api request =>
    cases request with
    | get id query =>
      intro resource given finished
      rcases agrees resource given finished with ⟨stored, kept, alike⟩
      exact alike.id.trans (identified _ id stored kept)
    | _ => trivial
  | _ => trivial

/-- Held-out samples are what is left of the samples that are trained on, however often a run
was broken off and taken up again before it succeeded. -/
theorem Attempts.samples_complementary (apart : run.KeepsApart invocation)
    (identified : outside.Identified) {trace : List Exchange}
    (attempts : outside.Attempts run invocation true trace) :
    ∃ entries, run.Journal invocation trace entries ∧
      (∀ creation answer, (⟨.api (.create creation), answer⟩ : Exchange) ∈ trace →
        ∃ entry ∈ entries, entry.creation = creation) ∧
      (0.0 < invocation.common.testSplit → Halved invocation.common entries) ∧
      ∀ options, invocation = .main options → options.crossValidates = true →
        Folded options.numberOfEvaluations entries := by
  rcases outside.exists_keepsUp run invocation apart with
    ⟨whole, result, last, done, goes, undisturbed, journal, keepsUp⟩
  rcases attempts.reached keepsUp with ⟨held, journalHeld, _, reached⟩
  rcases reached.complete rfl with ⟨rfl, ok⟩
  cases result with
  | error failure => cases ok
  | ok value =>
    have steady : Steady (Progress.start false) := ⟨rfl, fun _ impossible => nomatch impossible⟩
    have faithful := undisturbed.forall_mem fun earlier exchange granted =>
      identified.faithful earlier exchange (Undisturbed.agrees granted)
    rcases RunContext.Records.runPipeline invocation _ _ _ _ steady goes faithful with
      ⟨entries, leaves, halves, folds⟩
    cases leaves.journal.unique journal
    exact ⟨held, journalHeld, fun _ _ => attempts.exists_entry keepsUp, halves, folds⟩

end Outside

/-- Options that split a dataset and cross-validate two models. -/
def foldOptions : MainOptions where
  common := { centroidOptions with
    dataset := some "dataset/5143a51a37203f2cf7000972"
    testSet := none
    testSplit := 0.25 }
  model := none
  models := none
  ensemble := none
  numberOfModels := 1
  ensembles := false
  maxCategories := 0
  blackBox := false
  whiteBox := false
  evaluate := false
  crossValidationRate := 0.5
  numberOfEvaluations := 2

theorem foldOptions_keepsApart : centroidRun.KeepsApart (.main foldOptions) where
  log := centroidRun_keepsApart.log
  inputs := by
    rintro path ⟨input, member, _⟩
    cases member
  written := by
    intro path written
    cases written with
    | exported _ name asked => cases asked
    | predictions _ single => exact absurd single (by decide)
    | evaluation _ asked => cases asked
    | summary => exact centroidRun_keepsApart.written _ (.summary _)
    | crossValidation _ _ suffix member =>
      have name : ∀ suffix ∈ [".json", ".txt"], ((centroidRun.paths.output.child
          crossValidationName).withSuffix suffix).components =
            [.root, .name "work", .name "out", .name ("cross_validation" ++ suffix)] := by
        decide +kernel
      refine centroidRun_offCheckpoints _ (name suffix member) fun checkpoint => ?_
      revert suffix
      cases checkpoint <;> decide

/-- A first attempt, which breaks down between two models, and one that takes it up. -/
def foldsBrokenOff : List Exchange :=
  (Outside.numbered.attempt centroidRun (.main foldOptions) false 3 []).1

def foldsTakenUp : List Exchange :=
  foldsBrokenOff ++
    (Outside.numbered.attempt centroidRun (.main foldOptions) true 6 foldsBrokenOff).1

theorem foldsTakenUp_facts :
    (Outside.numbered.attempt centroidRun (.main foldOptions) true 6 foldsBrokenOff).2.1.isOk =
        true ∧
      (created foldsTakenUp).map (fun made => made.1.kind) =
        [.dataset, .dataset, .model, .model, .evaluation, .evaluation] := by
  decide +kernel

/-- The first of two models is from a checkpoint and the second is created on resuming; each is
evaluated on what its own sample leaves out. -/
theorem samples_complementary_folds :
    (created foldsBrokenOff).length = 3 ∧
      Outside.numbered.Attempts centroidRun (.main foldOptions) true foldsTakenUp ∧
      ∃ entries, centroidRun.Journal (.main foldOptions) foldsTakenUp entries ∧
        entries.map (·.creation.kind) =
          [.dataset, .dataset, .model, .model, .evaluation, .evaluation] ∧
        Split entries ∧ Folded 2 entries := by
  have brokenOff : Outside.numbered.Attempts centroidRun (.main foldOptions) false
      foldsBrokenOff := Outside.attempts_first 3 (by decide +kernel)
  have takenUp : Outside.numbered.Attempts centroidRun (.main foldOptions) true foldsTakenUp :=
    brokenOff.next 6 foldsTakenUp_facts.1
  have identified : Outside.numbered.Identified := by
    rintro creations id stored ⟨⟩
    rfl
  rcases takenUp.samples_complementary foldOptions_keepsApart identified with
    ⟨entries, journal, _, halved, folded⟩
  have split := (halved (by decide)).resolve_right fun unsplit => nomatch unsplit.unnamed
  refine ⟨by decide +kernel, takenUp, entries, journal, ?_, split,
    folded foldOptions rfl (by decide)⟩
  have facts := foldsTakenUp_facts.2
  rw [journal.created, List.map_map] at facts
  exact facts

end ModelRuns
