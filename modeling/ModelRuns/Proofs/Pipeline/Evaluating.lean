import ModelRuns.Proofs.Pipeline.Asking
import ModelRuns.Proofs.Pipeline.Outside

namespace ModelRuns

open Stateful

/-!
# What a model is evaluated on

A main run prepares training data, a predictor and test data, and then comes to its
action.  An evaluation takes the first test dataset, and the first training dataset where
there is no test dataset.

If test data is asked for, there is no test dataset in two cases.  Either there is no
training dataset either, and nothing is evaluated; or the test data is a list of datasets
and nothing else, and the list that was read is empty.  Then the model is evaluated on
the data it was trained on.
-/

/-! ## Values of steps -/

/-- A step that succeeds has such a value. -/
def Returns {α : Type} (good : α → Prop) (step : Step α) : Prop :=
  ∀ before trace value after, Goes step before trace (.ok value) after → good value

namespace Returns

variable {α β : Type} {good : α → Prop}

theorem pure {value : α} (holds : good value) : Returns good (Pure.pure value : Step α) := by
  intro before trace result after goes
  rcases (goes_pure_iff _ _ _ _ _).mp goes with ⟨_, same, _⟩
  cases same
  exact holds

theorem bind {between : β → Prop} {step : Step β} {next : β → Step α}
    (first : Returns between step) (second : ∀ value, between value → Returns good (next value)) :
    Returns good (step >>= next) := by
  intro before trace result after goes
  rcases goes_bind_ok goes with ⟨front, back, value, middle, rfl, done, rest⟩
  exact second value (first _ _ _ _ done) _ _ _ _ rest

/-- Nothing needs to be known of the first value. -/
theorem behind {step : Step β} {next : β → Step α}
    (second : ∀ value, Returns good (next value)) : Returns good (step >>= next) := by
  have any : Returns (fun _ => True) step := fun _ _ _ _ _ => trivial
  exact bind any fun value _ => second value

/-- A value is put in front of a list that has a value for each of some others. -/
theorem length_cons {step : Step α} {rest : Step (List α)} {others : List β} {other : β}
    (same : Returns (fun values => values.length = others.length) rest) :
    Returns (fun values => values.length = (other :: others).length)
      (step >>= fun value => rest >>= fun values => Pure.pure (value :: values)) :=
  behind fun _ => bind same fun _ length => pure (congrArg (· + 1) length)

end Returns

theorem Returns.stageIf {α : Type} {good : α → Prop} {due : Bool} {stage : Stage} {default : α}
    {body : Step α} (without : good default) (returns : Returns good body) :
    Returns good (RunContext.stageIf due stage default body) := by
  cases due with
  | false => exact pure without
  | true =>
    intro before trace value after goes
    rcases goes_inStage_ok goes with ⟨_, _, _, _, _, _, _, going, _⟩
    exact returns _ _ _ _ going

/-- Test data is asked for in one of its forms. -/
def CommonOptions.AsksTestData (common : CommonOptions) : Prop :=
  common.hasTest = true ∨ 0.0 < common.testSplit

/-! ## Training data -/

namespace RunContext

variable {run : RunContext} {common : CommonOptions}

/-- If a part is to be held out, it is held out wherever there is training data. -/
theorem returns_datasetStage (split : 0.0 < common.testSplit) (source : Option Resource)
    (limit : Option CategoryLimit) :
    Returns (fun training => training.heldOut = none → training.datasets = [])
      (run.datasetStage common source limit) := by
  have divides (training : TrainingData) (held : training.heldOut ≠ none) :
      Returns (fun training => training.heldOut = none → training.datasets = [])
        (run.divided common limit training) := by
    unfold RunContext.divided
    split
    next => exact .behind fun _ => .behind fun _ => .pure fun without => absurd without held
    next => exact .pure fun without => absurd without held
  have splits (dataset : Resource) (datasets : List Resource) :
      Returns (fun parts => parts.2 ≠ none) (run.split common dataset datasets) := by
    rw [RunContext.split, if_pos split]
    exact .behind fun _ => .behind fun _ => .pure (Option.some_ne_none _)
  refine .behind fun given => ?_
  split
  next => exact .pure fun _ => rfl
  next =>
    refine .behind fun _ => .behind fun datasets => .behind fun _ => ?_
    split
    next => exact .pure fun _ => rfl
    next => exact .behind fun _ => .bind (splits _ _) fun _ held => divides _ held

/-! ## Test data -/

theorem length_fetchAll (stage : Stage) (references : List ResourceReference) :
    Returns (fun resources => resources.length = references.length)
      (run.fetchAll stage references) := by
  induction references with
  | nil => exact .pure rfl
  | cons reference rest inductionHypothesis => exact .length_cons inductionHypothesis

/-- A list of datasets that gives none was read, and it was empty. -/
theorem goes_fetchListed_nil {stage : Stage} {kind : ResourceKind} {path : Path}
    {before after : Progress} {trace : List Exchange}
    (goes : Goes (run.fetchListed stage kind (some path)) before trace (.ok []) after) :
    ∃ text, (⟨.file (.read (run.resolvePath path)), .ok text⟩ : Exchange) ∈ trace ∧
      idsOfText kind text = .ok [] := by
  rcases goes_bind_ok goes with ⟨front, back, ids, middle, rfl, listed, fetched⟩
  have empty : ids = [] := by
    have length := length_fetchAll stage _ _ _ _ _ fetched
    rw [List.length_map] at length
    exact List.eq_nil_of_length_eq_zero length.symm
  subst empty
  rcases Action.yields_bind_ok ((goes_act_iff _ _ _ _ _).mp listed).1 with
    ⟨reading, rest, text, rfl, read, parsed⟩
  rcases (Action.yields_asking_iff (.file (.read _)) (fun answer => answer) _ _).mp read with
    ⟨answer, rfl, rfl⟩
  rcases (Action.yields_ofExcept_iff _ _ _).mp parsed with ⟨rfl, found⟩
  exact ⟨text, List.mem_append_left _ List.mem_cons_self, found.symm⟩

theorem fetchNamed_ne_nil (stage : Stage) (kind : ResourceKind) (text : String) :
    Returns (· ≠ []) (run.fetchNamed stage kind (some text)) :=
  .behind fun _ => .behind fun _ => .pure (List.cons_ne_nil _ _)

/-- Nothing is given only where no identifier is named, and where a file of them has none. -/
theorem goes_fetchGiven_nil {stage : Stage} {kind : ResourceKind} {text : Option String}
    {path : Option Path} {before after : Progress} {trace : List Exchange}
    (goes : Goes (run.fetchGiven stage kind text path) before trace (.ok []) after) :
    text = none ∧ ∀ file, path = some file → ∃ listed,
      (⟨.file (.read (run.resolvePath file)), .ok listed⟩ : Exchange) ∈ trace ∧
        idsOfText kind listed = .ok [] := by
  rcases goes_bind_ok goes with ⟨naming, listing, named, middle, rfl, wasNamed, joined⟩
  rcases goes_map_ok (fun listed => named ++ listed) joined with ⟨listed, whole, wasListed⟩
  rcases List.append_eq_nil_iff.mp whole.symm with ⟨rfl, rfl⟩
  constructor
  · cases text with
    | none => rfl
    | some text => exact absurd rfl (fetchNamed_ne_nil _ _ text _ _ _ _ wasNamed)
  · rintro file rfl
    rcases goes_fetchListed_nil wasListed with ⟨text, read, empty⟩
    exact ⟨text, List.mem_append_right _ read, empty⟩

/-- There is no source of test data only where none is named and no file is given. -/
theorem returns_testSource :
    Returns (fun source => source = none → common.testSet = none ∧ common.testSource = none)
      (run.testSource common) := by
  unfold RunContext.testSource
  split
  next => exact .behind fun _ => .behind fun _ => .pure nofun
  next noSource noSet => exact .pure fun _ => ⟨noSet, noSource⟩
  next => exact .behind fun _ => .pure nofun

/-- There is no test dataset only where nothing is held out and nothing is named but an
empty list of datasets. -/
theorem goes_testDataStage_nil {training : TrainingData} {before after : Progress}
    {trace : List Exchange}
    (goes : Goes (run.testDataStage common training) before trace (.ok []) after) :
    training.heldOut = none ∧ common.testSet = none ∧ common.testSource = none ∧
      common.testDataset = none ∧ ∀ path, common.testDatasets = some path → ∃ text,
        (⟨.file (.read (run.resolvePath path)), .ok text⟩ : Exchange) ∈ trace ∧
        idsOfText .dataset text = .ok [] := by
  unfold RunContext.testDataStage at goes
  cases held : training.heldOut with
  | some test =>
    rw [held] at goes
    rcases (goes_pure_iff _ _ _ _ _).mp goes with ⟨_, impossible, _⟩
    cases impossible
  | none =>
    rw [held] at goes
    rcases goes_bind_ok goes with ⟨front, back, given, middle, rfl, fetched, rest⟩
    cases given with
    | cons first others =>
      rcases (goes_pure_iff _ _ _ _ _).mp rest with ⟨_, impossible, _⟩
      cases impossible
    | nil =>
      rcases goes_fetchGiven_nil fetched with ⟨unnamed, listed⟩
      rcases goes_bind_ok rest with ⟨_, _, source, _, rfl, sourced, built⟩
      cases source with
      | some source =>
        rcases goes_map_ok (fun resource => [resource]) built with ⟨first, impossible, _⟩
        cases impossible
      | none =>
        rcases returns_testSource _ _ _ _ sourced rfl with ⟨noSet, noSource⟩
        refine ⟨rfl, noSet, noSource, unnamed, fun path given => ?_⟩
        rcases listed path given with ⟨text, read, empty⟩
        exact ⟨text, List.mem_append_left _ read, empty⟩

/-! ## Runs up to their action -/

/-- What a main run has when it comes to its action. -/
structure Prepared where
  training : TrainingData
  predictor : Predictor
  tests : List Resource

variable (run) (options : MainOptions)

/-- The stages of a main run before its action. -/
def prepare : Step Prepared := do
  let common := options.common
  let hasDatasets := common.dataset.isSome || common.datasets.isSome
  let source ← stageIf (!hasDatasets && !options.hasModels) .source .none
    (run.sourceStage common)
  let training ← stageIf (source.isSome || hasDatasets) .dataset .none
    (run.datasetStage common source options.categoryLimit)
  let predictor ← stageIf (!options.crossValidates || options.hasModels) .model .none
    (run.modelStage options training)
  let hasTest := common.hasTest || training.heldOut.isSome
  let action := options.action hasTest
  let tests ← stageIf ((action == .predict || action == .evaluate) && hasTest) .testData []
    (run.testDataStage common training)
  return ⟨training, predictor, tests⟩

/-- The action of a main run, and its report. -/
def conclude (prepared : Prepared) : Step Unit := do
  let action := options.action (options.common.hasTest || prepared.training.heldOut.isSome)
  stageIf (action != .none) .action ()
    (run.act options action prepared.predictor prepared.training prepared.tests)
  Stateful.inStage .report (run.reportStage options.common)

theorem runMain_eq : run.runMain options = run.prepare options >>= run.conclude options := by
  simp only [runMain, prepare, conclude, bind_assoc, pure_bind]

variable {run options}

/-- The only test data asked for is a list of datasets, and the list that was read is
empty. -/
structure Unlisted (run : RunContext) (common : CommonOptions) (trace : List Exchange) :
    Prop where
  testSet : common.testSet = none
  testSource : common.testSource = none
  testDataset : common.testDataset = none
  whole : ¬0.0 < common.testSplit
  empty : ∃ path text, common.testDatasets = some path ∧
    (⟨.file (.read (run.resolvePath path)), .ok text⟩ : Exchange) ∈ trace ∧
    idsOfText .dataset text = .ok []

theorem unlisted_of_prepare (evaluates : options.evaluate = true)
    (single : options.crossValidates = false) (asked : options.common.AsksTestData)
    {before after : Progress} {trace : List Exchange} {prepared : Prepared}
    (goes : Goes (run.prepare options) before trace (.ok prepared) after)
    (untested : prepared.tests = []) (trained : prepared.training.datasets ≠ []) :
    run.Unlisted options.common trace := by
  have action (hasTest : Bool) : options.action hasTest = .evaluate := by
    simp [MainOptions.action, evaluates, single]
  rcases goes_bind_ok goes with ⟨sourcing, rest, source, _, rfl, _, goes⟩
  rcases goes_bind_ok goes with ⟨training, rest, data, _, rfl, prepares, goes⟩
  rcases goes_bind_ok goes with ⟨modelling, rest, predictor, _, rfl, _, goes⟩
  rcases goes_bind_ok goes with ⟨testing, rest, tests, _, rfl, tested, goes⟩
  rcases (goes_pure_iff _ _ _ _ _).mp goes with ⟨rfl, same, _⟩
  cases same
  subst untested
  have held : 0.0 < options.common.testSplit → data.heldOut ≠ none := by
    intro split without
    refine trained ((?_ : Returns (fun training : TrainingData =>
      training.heldOut = none → training.datasets = []) _) _ _ _ _ prepares without)
    exact .stageIf (fun _ => rfl) (returns_datasetStage split source options.categoryLimit)
  rw [action] at tested
  cases given : options.common.hasTest || data.heldOut.isSome with
  | false =>
    rw [Bool.or_eq_false_iff, Option.isSome_eq_false_iff, Option.isNone_iff_eq_none] at given
    rcases asked with impossible | split
    · rw [given.1] at impossible
      cases impossible
    · exact absurd given.2 (held split)
  | true =>
    rw [given] at tested
    rcases goes_inStage_ok tested with ⟨_, inside, _, _, _, rfl, _, body, _⟩
    rcases goes_testDataStage_nil body with ⟨without, noSet, noSource, noDataset, listed⟩
    have whole : ¬0.0 < options.common.testSplit := fun split => held split without
    have named : options.common.testDatasets.isSome = true := by
      rcases asked with given | split
      · simpa [CommonOptions.hasTest, noSet, noSource, noDataset] using given
      · exact absurd split whole
    rcases Option.isSome_iff_exists.mp named with ⟨path, given⟩
    rcases listed path given with ⟨text, read, empty⟩
    refine ⟨noSet, noSource, noDataset, whole, path, text, given, ?_, empty⟩
    simp only [List.mem_append]
    simp [read]

/-! ## Evaluations -/

/-- What is needed is there, or nothing is asked. -/
theorem goes_needed_bind {α β : Type} {found : Option α} {missing : String} {next : α → Step β}
    {before after : Progress} {trace : List Exchange} {outcome : Except Failure β}
    (goes : Goes (needed found missing >>= next) before trace outcome after) :
    trace = [] ∨ ∃ value, found = some value ∧ Goes (next value) before trace outcome after := by
  cases found with
  | some value => exact .inr ⟨value, rfl, goes⟩
  | none =>
    rcases (goes_bind_iff _ _ _ _ _ _).mp goes with
      ⟨_, failed, _⟩ | ⟨_, _, _, _, rfl, done, _⟩
    · exact .inl ((goes_throw_iff _ _ _ _ _).mp failed).1
    · rcases (goes_throw_iff _ _ _ _ _).mp done with ⟨_, impossible, _⟩
      cases impossible

/-- What is needed for a step that succeeds is there. -/
theorem goes_needed_ok {α β : Type} {found : Option α} {missing : String} {next : α → Step β}
    {before after : Progress} {trace : List Exchange} {result : β}
    (goes : Goes (needed found missing >>= next) before trace (.ok result) after) :
    ∃ value, found = some value ∧ Goes (next value) before trace (.ok result) after := by
  cases found with
  | some value => exact ⟨value, rfl, goes⟩
  | none =>
    rcases goes_bind_ok goes with ⟨_, _, _, _, _, done, _⟩
    rcases (goes_throw_iff _ _ _ _ _).mp done with ⟨_, impossible, _⟩
    cases impossible

/-- The request for the evaluation of a primary predictor. -/
def evaluationCreation (options : MainOptions) (primary dataset : ResourceId) : Creation :=
  ⟨.evaluation, .pair primary dataset, .object options.common.baseArguments⟩

/-- A prepared run evaluates its primary predictor on this dataset: its first test dataset, or
its first training dataset when there is no test dataset. -/
inductive Prepared.Evaluates (prepared : Prepared) (options : MainOptions) :
    Resource → Creation → Prop
  | mk (primary dataset : Resource) (predicts : prepared.predictor.primary? = some primary)
      (first : (prepared.tests.head? <|> prepared.training.datasets.head?) = some dataset) :
      Prepared.Evaluates prepared options dataset
        (evaluationCreation options primary.id dataset.id)

theorem asks_evaluate (prepared : Prepared) :
    Stateful.Asks (Request.CreatesOnly .evaluation fun creation =>
        ∃ dataset, prepared.Evaluates options dataset creation)
      (run.evaluate options prepared.predictor prepared.training prepared.tests) := by
  intro before trace outcome after goes
  rcases goes_needed_bind goes with rfl | ⟨primary, predicts, goes⟩
  · exact List.forall_mem_nil _
  rcases goes_needed_bind goes with rfl | ⟨dataset, first, goes⟩
  · exact List.forall_mem_nil _
  have wanted : Request.CreatesOnly .evaluation
      (fun creation => ∃ dataset, prepared.Evaluates options dataset creation)
      (.api (.create (evaluationCreation options primary.id dataset.id))) := by
    rintro creation ⟨⟩ _
    exact ⟨dataset, primary, dataset, predicts, first⟩
  have ordinary : ∀ asked : Request, asked.Ordinary → asked.CreatesOnly .evaluation
      (fun creation => ∃ dataset, prepared.Evaluates options dataset creation) :=
    fun _ => Request.Ordinary.createsOnly rfl
  have written (path : Path) (text : String) : Request.CreatesOnly .evaluation
      (fun creation => ∃ dataset, prepared.Evaluates options dataset creation)
      (.file (.write path text)) := fun _ impossible => nomatch impossible
  refine Stateful.Asks.bind (.obtainOne ordinary .evaluations wanted) (fun evaluation => ?_)
    _ _ _ _ goes
  exact .bind (.act (Stateful.Asks.writeResult written _ _)) fun files =>
    .saySaved ordinary "Evaluation" files

/-- Before its action a run creates no results. -/
theorem asks_prepare_ordinary {allowed : Request → Prop}
    (ordinary : ∀ asked : Request, asked.Ordinary → allowed asked)
    (written : ∀ path text, allowed (.file (.write path text))) :
    Stateful.Asks allowed (run.prepare options) := by
  have noted (event : RunEvent) : allowed (.note event) := ordinary _ trivial
  refine .bind (.stageIf noted (.sourceStage ordinary)) fun source => ?_
  refine .bind (.stageIf noted (.datasetStage ordinary written _ _)) fun training => ?_
  refine .bind (.stageIf noted (.modelStage ordinary _)) fun predictor => ?_
  exact .bind (.stageIf noted (.testDataStage ordinary _)) fun tests => .pure _

theorem asks_prepare :
    Stateful.Asks (Request.CreatesOnly .evaluation fun _ => False) (run.prepare options) :=
  asks_prepare_ordinary (fun _ => Request.Ordinary.createsOnly rfl)
    fun _ _ _ impossible => nomatch impossible

/-- Every evaluation of a main run for which test data is asked is one of its primary
predictor on a test dataset, unless the test data is a list of datasets and the list that was
read is empty: then the run evaluates on its training data. -/
theorem evaluates_tests_or_unlisted (evaluates : options.evaluate = true)
    (single : options.crossValidates = false) (asked : options.common.AsksTestData)
    {before after : Progress} {trace : List Exchange} {outcome : Except Failure Unit}
    (goes : Goes (run.runMain options) before trace outcome after) {creation : Creation}
    {answer : Except Failure Resource}
    (sent : (⟨.api (.create creation), answer⟩ : Exchange) ∈ trace)
    (kind : creation.kind = .evaluation) :
    ∃ prepared front middle dataset, front <+: trace ∧
      Goes (run.prepare options) before front (.ok prepared) middle ∧
      prepared.Evaluates options dataset creation ∧
      (dataset ∈ prepared.tests ∨ prepared.tests = [] ∧ dataset ∈ prepared.training.datasets ∧
        run.Unlisted options.common front) := by
  have action (hasTest : Bool) : options.action hasTest = .evaluate := by
    simp [MainOptions.action, evaluates, single]
  rw [runMain_eq] at goes
  rcases (goes_bind_iff _ _ _ _ _ _).mp goes with
    ⟨failure, failed, _⟩ | ⟨front, back, prepared, middle, rfl, prepares, concludes⟩
  · exact (asks_prepare _ _ _ _ failed _ sent creation rfl kind).elim
  rcases List.mem_append.mp sent with early | late
  · exact (asks_prepare _ _ _ _ prepares _ early creation rfl kind).elim
  have ordinary : ∀ asked : Request, asked.Ordinary → asked.CreatesOnly .evaluation
      (fun creation => ∃ dataset, prepared.Evaluates options dataset creation) :=
    fun _ => Request.Ordinary.createsOnly rfl
  have concluding : Stateful.Asks (Request.CreatesOnly .evaluation fun creation =>
      ∃ dataset, prepared.Evaluates options dataset creation) (run.conclude options prepared) := by
    rw [conclude, action]
    refine .bind (.stageIf (fun _ => ordinary _ trivial) (asks_evaluate prepared)) fun _ => ?_
    exact .inStage (fun _ => ordinary _ trivial)
      (.reportStage ordinary fun _ _ _ impossible => nomatch impossible)
  rcases concluding _ _ _ _ concludes _ late creation rfl kind with ⟨dataset, evaluated⟩
  refine ⟨prepared, front, middle, dataset, List.prefix_append _ _, prepares, evaluated, ?_⟩
  rcases evaluated with ⟨primary, dataset, predicts, first⟩
  cases tests : prepared.tests with
  | cons test others =>
    rw [tests] at first
    cases first
    exact .inl List.mem_cons_self
  | nil =>
    rw [tests] at first
    have trained : prepared.training.datasets.head? = some dataset := first
    refine .inr ⟨rfl, List.mem_of_mem_head? trained, ?_⟩
    exact unlisted_of_prepare evaluates single asked prepares tests
      (List.ne_nil_of_mem (List.mem_of_mem_head? trained))

end RunContext

/-! ## An empty list of test datasets -/

open RunContext

/-- Options that evaluate on the datasets of a list. -/
def listedOptions : MainOptions where
  common := { centroidOptions with
    dataset := some "dataset/5143a51a37203f2cf7000972"
    testSet := none
    testDatasets := some ⟨"tests"⟩ }
  model := none
  models := none
  ensemble := none
  numberOfModels := 1
  ensembles := false
  maxCategories := 0
  blackBox := false
  whiteBox := false
  evaluate := true
  crossValidationRate := 0.0
  numberOfEvaluations := 0

/-- What is answered when the list of test datasets is empty. -/
def emptyList (earlier : List Exchange) (asked : Request) : asked.Answer :=
  timedAnswer (fun _ => some "# none yet") ⟨0⟩ earlier asked

def emptyListRun : List Exchange × Except Failure Unit × Progress :=
  recorded emptyList (centroidRun.runMain listedOptions) (Progress.start false) []

/-- No test dataset is prepared from the empty list. -/
theorem emptyListRun_facts :
    (∃ made ∈ created emptyListRun.1, made.1.kind = .evaluation) ∧
      ∀ prepared ∈ (recorded emptyList (centroidRun.prepare listedOptions)
        (Progress.start false) []).2.1.toOption, prepared.tests.length = 0 := by
  decide +kernel

theorem mem_of_mem_created {trace : List Exchange} {made : Creation × ResourceId}
    (member : made ∈ created trace) :
    ∃ answer, (⟨.api (.create made.1), answer⟩ : Exchange) ∈ trace := by
  rcases List.mem_filterMap.mp member with ⟨⟨asked, answer⟩, listed, found⟩
  cases asked with
  | api request =>
    cases request with
    | create creation =>
      cases answer with
      | ok resource =>
        cases found
        exact ⟨_, listed⟩
      | error failure => cases found
    | _ => cases found
  | _ => cases found

/-- With an empty list of test datasets a model is evaluated on its training data. -/
theorem evaluates_emptyList :
    ∃ prepared front middle dataset creation, front <+: emptyListRun.1 ∧
      Goes (centroidRun.prepare listedOptions) (Progress.start false) front (.ok prepared)
        middle ∧
      prepared.Evaluates listedOptions dataset creation ∧
      dataset ∈ prepared.training.datasets ∧
      centroidRun.Unlisted listedOptions.common front := by
  rcases emptyListRun_facts with ⟨⟨made, member, kind⟩, untested⟩
  rcases mem_of_mem_created member with ⟨answer, sent⟩
  have single : listedOptions.crossValidates = false := by decide
  have goes : Goes (centroidRun.runMain listedOptions) (Progress.start false) emptyListRun.1
      emptyListRun.2.1 emptyListRun.2.2 := goes_recorded emptyList _ _ _ rfl
  rcases evaluates_tests_or_unlisted rfl single (.inl rfl) goes sent kind with
    ⟨prepared, front, middle, dataset, begins, prepares, evaluated, tested | ⟨_, trained, unlisted⟩⟩
  · rcases begins with ⟨back, whole⟩
    have answered : Throughout (fun earlier exchange =>
        exchange.answer = emptyList earlier exchange.asked) [] front := by
      have throughout : Throughout (fun earlier exchange =>
          exchange.answer = emptyList earlier exchange.asked) [] emptyListRun.1 :=
        throughout_recorded (fun _ _ same => same) _ _ _
      rw [← whole] at throughout
      exact ((Throughout.append_iff _ _ _).mp throughout).1
    have same := Program.Runs.eq_record prepares answered
    have empty := untested prepared (by rw [recorded, same]; rfl)
    rw [List.eq_nil_of_length_eq_zero empty] at tested
    cases tested
  · exact ⟨prepared, front, middle, dataset, made.1, begins, prepares, evaluated, trained,
      unlisted⟩

end ModelRuns
