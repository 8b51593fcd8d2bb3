import ModelRuns.Proofs.Pipeline.Samples
import ModelRuns.Proofs.Pipeline.Sending

namespace ModelRuns

open Stateful

/-!
# One action, by priority

A main run cross-validates, or evaluates, or predicts, or does none of these: the first that
applies.  The choice is made anew on every attempt, from the options and from what an earlier
stage held out, and two stages depend on it.  What a run asks for in the stage of its action
is what the chosen action asks for, and no other stage asks for a result.
-/

namespace RunContext

variable (run : RunContext) (options : MainOptions)

/-! ## What actions ask for -/

/-- What a cross-validation may ask for: models on samples of the first training dataset, and
with all of them at hand their evaluations on what the samples leave out. -/
inductive Folds (training : TrainingData) : List Creation → Prop
  | nothing : Folds training []
  | models (dataset : Resource) {modelling : List Creation}
      (first : training.datasets.head? = some dataset)
      (modelled : modelling <:+: options.foldModelCreations dataset.id) :
      Folds training modelling
  | evaluations (dataset : Resource) {before after : Progress} {trace : List Exchange}
      {models : List Resource} {evaluating : List Creation}
      (first : training.datasets.head? = some dataset)
      (obtained : Goes (run.obtainMany .action .crossValidationModels
        (options.foldModelCreations dataset.id)) before trace (.ok models) after)
      (modelled : sent trace <:+: options.foldModelCreations dataset.id)
      (evaluated : evaluating <:+: options.foldEvaluationCreations dataset.id models) :
      Folds training (sent trace ++ evaluating)

/-- What an evaluation may ask for: itself. -/
inductive Evaluation (prepared : Prepared) : List Creation → Prop
  | nothing : Evaluation prepared []
  | evaluation (dataset : Resource) {creation : Creation}
      (evaluates : prepared.Evaluates options dataset creation) : Evaluation prepared [creation]

/-- What predictions may ask for: one batch for each test dataset, from the primary predictor. -/
inductive Batches (predictor : Predictor) (tests : List Resource) : List Creation → Prop
  | nothing : Batches predictor tests []
  | batches (primary : Resource) {predicting : List Creation}
      (predicts : predictor.primary? = some primary)
      (each : predicting <:+:
        tests.map fun test => predictionCreation options primary.id test.id) :
      Batches predictor tests predicting

/-- There is data to predict for: it is named, or a part of the training data was held out. -/
def Prepared.hasTest (prepared : Prepared) (common : CommonOptions) : Bool :=
  common.hasTest || prepared.training.heldOut.isSome

/-- Some action applies to a prepared run. -/
def Prepared.HasAction (prepared : Prepared) (options : MainOptions) : Prop :=
  options.crossValidates = true ∨ options.evaluate = true ∨ prepared.hasTest options.common = true

/-- What the action of a prepared run may ask for.  The first action that applies is the only
one. -/
structure ActsOnly (prepared : Prepared) (creations : List Creation) : Prop where
  crossValidation : options.crossValidates = true →
    run.Folds options prepared.training creations
  evaluation : options.crossValidates = false → options.evaluate = true →
    Evaluation options prepared creations
  prediction : options.crossValidates = false → options.evaluate = false →
    prepared.hasTest options.common = true →
      Batches options prepared.predictor prepared.tests creations
  nothing : options.crossValidates = false → options.evaluate = false →
    prepared.hasTest options.common = false → creations = []

/-- What one action may ask for. -/
def Allows (prepared : Prepared) : ModelAction → List Creation → Prop
  | .none, creations => creations = []
  | .predict, creations => Batches options prepared.predictor prepared.tests creations
  | .evaluate, creations => Evaluation options prepared creations
  | .crossValidate, creations => run.Folds options prepared.training creations

variable {run options}

/-- The chosen action is the first that applies. -/
theorem ActsOnly.of_allowed {prepared : Prepared} {creations : List Creation}
    (allowed : run.Allows options prepared
      (options.action (prepared.hasTest options.common)) creations) :
    run.ActsOnly options prepared creations where
  crossValidation validates := by
    rw [MainOptions.action, validates] at allowed
    exact allowed
  evaluation single evaluates := by
    rw [MainOptions.action, single, evaluates] at allowed
    exact allowed
  prediction single unevaluated tested := by
    rw [MainOptions.action, single, unevaluated, tested] at allowed
    exact allowed
  nothing single unevaluated untested := by
    rw [MainOptions.action, single, unevaluated, untested] at allowed
    exact allowed

theorem Prepared.hasAction_iff {prepared : Prepared} :
    options.action (prepared.hasTest options.common) ≠ .none ↔ prepared.HasAction options := by
  unfold MainOptions.action HasAction
  cases options.crossValidates <;> cases options.evaluate <;>
    cases prepared.hasTest options.common <;> simp

theorem sendsOnly_predict (predictor : Predictor) (tests : List Resource) :
    SendsOnly (Batches options predictor tests) (run.predict options predictor tests) := by
  intro before trace outcome after goes
  rcases goes_needed_bind goes with rfl | ⟨primary, predicts, goes⟩
  · exact .nothing
  · refine .batches primary predicts ?_
    exact SendsOnly.before (sendsOnly_obtainMany _) (fun _ => .saving_saveNumbered _ _ _) _ _ _ _
      goes

/-- Results are written, and where they are is said. -/
theorem saving_written (what : String) (base : Path) (result : Json) :
    Stateful.Asks Request.Saving
      (Stateful.act (writeResult base result) >>= fun files => run.saySaved what files) :=
  .bind (.act (Asks.writeResult (fun _ _ => trivial) base result)) fun _ => .saving (.sayAll _)

theorem sendsOnly_evaluate (prepared : Prepared) :
    SendsOnly (Evaluation options prepared)
      (run.evaluate options prepared.predictor prepared.training prepared.tests) := by
  intro before trace outcome after goes
  rcases goes_needed_bind goes with rfl | ⟨primary, predicts, goes⟩
  · exact .nothing
  rcases goes_needed_bind goes with rfl | ⟨dataset, first, goes⟩
  · exact .nothing
  have sends : sent trace <:+: [evaluationCreation options primary.id dataset.id] :=
    SendsOnly.before (sendsOnly_obtainOne _) (fun _ => saving_written _ _ _) _ _ _ _ goes
  rcases List.sublist_singleton.mp sends.sublist with none | single
  · rw [none]
    exact .nothing
  · rw [single]
    exact .evaluation dataset ⟨primary, dataset, predicts, first⟩

theorem sendsOnly_crossValidate (training : TrainingData) :
    SendsOnly (run.Folds options training) (run.crossValidate options training) := by
  intro before trace outcome after goes
  rcases goes_needed_bind goes with rfl | ⟨dataset, first, goes⟩
  · exact .nothing
  rcases (goes_bind_iff _ _ _ _ _ _).mp goes with
    ⟨_, failed, _⟩ | ⟨modelling, evaluating, models, middle, rfl, modelled, rest⟩
  · exact .models dataset first (sendsOnly_obtainMany _ _ _ _ _ failed)
  · rw [sent_append]
    refine .evaluations dataset first modelled (sendsOnly_obtainMany _ _ _ _ _ modelled) ?_
    exact SendsOnly.before (sendsOnly_obtainMany _) (fun _ => saving_written _ _ _) _ _ _ _ rest

theorem sendsOnly_act (prepared : Prepared) (action : ModelAction) :
    SendsOnly (run.Allows options prepared action)
      (run.act options action prepared.predictor prepared.training prepared.tests) := by
  cases action with
  | none =>
    intro before trace outcome after goes
    rcases (goes_pure_iff _ _ _ _ _).mp goes with ⟨rfl, _, _⟩
    rfl
  | predict => exact sendsOnly_predict _ _
  | evaluate => exact sendsOnly_evaluate prepared
  | crossValidate => exact sendsOnly_crossValidate _

/-! ## The stage of the action -/

/-- A result is asked for only while the action is in progress. -/
def AskedInAction (earlier : List Exchange) (exchange : Exchange) : Prop :=
  ∀ creation, exchange.asked.creation? = some creation → creation.kind.isResult = true →
    stageAfter? earlier = some .action

theorem throughout_askedInAction {earlier trace : List Exchange}
    (resultless : ∀ exchange ∈ trace, exchange.asked.Resultless) :
    Throughout AskedInAction earlier trace := by
  induction trace generalizing earlier with
  | nil => trivial
  | cons exchange rest inductionHypothesis =>
    rcases List.forall_mem_cons.mp resultless with ⟨here, later⟩
    refine ⟨fun creation asked result => ?_, inductionHypothesis later⟩
    cases (here creation asked).symm.trans result

theorem resultless_prepare : Stateful.Asks Request.Resultless (run.prepare options) :=
  asks_prepare_ordinary (fun _ => Request.Ordinary.resultless)
    fun _ _ => Request.Saving.resultless trivial

theorem resultless_report (common : CommonOptions) :
    Stateful.Asks Request.Resultless (Stateful.inStage .report (run.reportStage common)) :=
  .inStage (fun _ => Request.Ordinary.resultless trivial)
    (.reportStage (fun _ => Request.Ordinary.resultless)
      fun _ _ => Request.Saving.resultless trivial)

/-- How the stage of an action goes in a part of a run: what is asked for in it is allowed, and
with success it is completed, if there is an action. -/
structure ActsIn (run : RunContext) (options : MainOptions) (prepared : Prepared)
    (action : ModelAction) (earlier trace : List Exchange) (outcome : Except Failure Unit) :
    Prop where
  allowed : run.Allows options prepared action (sentIn .action earlier trace)
  results : Throughout AskedInAction earlier trace
  completed : outcome = .ok () →
    (statesAfter (earlier ++ trace) .action = .completed ↔ action ≠ .none)

section

variable {prepared : Prepared} {earlier : List Exchange} {before after : Progress}
  {trace : List Exchange} {outcome : Except Failure Unit}

/-- What a run asks for in the stage of its action, if it enters it. -/
theorem actsIn_acting {action : ModelAction} (got : AllPrepared earlier prepared)
    (states : before.cursor.state = statesAfter earlier)
    (unentered : At .action .notStarted (statesAfter earlier))
    (goes : Goes (stageIf (action != .none) .action ()
      (run.act options action prepared.predictor prepared.training prepared.tests))
        before trace outcome after) :
    run.ActsIn options prepared action earlier trace outcome := by
  cases due : action != .none with
  | false =>
    rw [due] at goes
    rcases (goes_pure_iff _ _ _ _ _).mp goes with ⟨rfl, _, _⟩
    cases bne_eq_false_iff_eq.mp due
    refine ⟨rfl, trivial, fun _ => ?_⟩
    rw [List.append_nil, unentered.here]
    simp
  | true =>
    rw [due] at goes
    have current := unentered.recorded .inProgress
    have ensures : run.Ensures (.main options) (earlier ++ [Stage.action.entry])
        (run.act options action prepared.predictor prepared.training prepared.tests)
        fun _ _ => True :=
      have grown := List.prefix_append earlier [Stage.action.entry]
      .act (got.predictor.mono grown) (got.training.mono grown) (got.tests.mono grown)
        (.last earlier _)
    rcases goes_inStage_unentered (states ▸ unentered.here)
      (fun _ _ _ _ going => (ensures _ _ _ _ going).states) goes with
      ⟨inside, left, rfl, going, _⟩
    have still : ∀ exchange ∈ inside, exchange.move? = none :=
      (ensures _ _ _ _ going).permitted.forall_mem fun _ _ permits => permits.inside
    refine ⟨?_, ?_, ?_⟩
    · rw [sentIn_append, sentIn_append, sentIn_recording, sentIn_recording, List.nil_append,
        List.append_nil, sentIn_of_still current.inProgress still]
      exact sendsOnly_act prepared action _ _ _ _ going
    · have recorded {here : List Exchange} (move : Move) :
          Throughout AskedInAction here [move.recording] :=
        throughout_askedInAction (List.forall_mem_singleton.mpr
          (Request.Ordinary.resultless trivial))
      refine (Throughout.append_iff _ _ _).mpr ⟨recorded _,
        (Throughout.append_iff _ _ _).mpr ⟨?_, recorded _⟩⟩
      exact (throughout_inside current.inProgress still fun _ _ => trivial).mono
        fun _ _ ⟨here, _⟩ _ _ _ => here
    · rintro rfl
      have applies : action ≠ .none := bne_iff_ne.mp due
      rw [← List.append_assoc, ← List.append_assoc, statesAfter_recording]
      simp [Move.apply, StageState.behind, applies]

/-- Behind its preparation a run asks for what its action may ask for. -/
theorem actsIn_conclude (got : AllPrepared earlier prepared)
    (states : before.cursor.state = statesAfter earlier)
    (tidy : Tidy Stage.action.place (statesAfter earlier))
    (goes : Goes (run.conclude options prepared) before trace outcome after) :
    run.ActsIn options prepared (options.action (prepared.hasTest options.common)) earlier trace
      outcome := by
  have unentered : At .action .notStarted (statesAfter earlier) := tidy.at (Nat.le_refl _)
  rcases (goes_bind_iff _ _ _ _ _ _).mp goes with
    ⟨_, failed, rfl⟩ | ⟨acting, reporting, _, middle, rfl, acted, reports⟩
  · have acts := actsIn_acting got states unentered failed
    exact ⟨acts.allowed, acts.results, nofun⟩
  have course : run.Course (.main options) earlier _ _ _ acting _ middle :=
    Staged.acting got before acting _ middle states tidy acted
  have completed := (course.granted () rfl).2.1
  have reported : run.Course (.main options) _ (Stage.action.place + 1) _ _ reporting outcome
      after := Staged.report (by decide) middle reporting outcome after course.states completed
        reports
  have unmoved : Unmoved .action reporting := .of_within reported.moves (.inl (by decide))
  have idle : sentIn .action (earlier ++ acting) reporting = [] := by
    refine unmoved.sentIn fun running => ?_
    rcases completed.passed .action (by decide) with unentered | left
    · cases running.symm.trans unentered
    · cases running.symm.trans left
  have acts := actsIn_acting got states unentered acted
  refine ⟨?_, ?_, fun _ => ?_⟩
  · rw [sentIn_append, idle, List.append_nil]
    exact acts.allowed
  · exact (Throughout.append_iff _ _ _).mpr
      ⟨acts.results, throughout_askedInAction (resultless_report _ _ _ _ _ reports)⟩
  · rw [← List.append_assoc, unmoved.statesAfter]
    exact acts.completed rfl

end

/-! ## Whole runs -/

/-- How a main run behind its start comes to one action.  If its preparation fails it asks for
nothing in the stage of the action.  Otherwise it asks for what the first action that applies
may ask for, and with success this stage is completed exactly if some action applies.  Before
a cross-validation no test data is looked for, and nowhere else a result is asked for. -/
structure ActsOnce (run : RunContext) (options : MainOptions) (start : Progress)
    (trace : List Exchange) (outcome : Except Failure Unit) (after : Progress) : Prop where
  chosen :
    (∃ failure, outcome = .error failure ∧
      Goes (run.prepare options) start trace (.error failure) after ∧
      sentIn .action [] trace = []) ∨
    ∃ prepared front middle, front <+: trace ∧
      Goes (run.prepare options) start front (.ok prepared) middle ∧
      run.ActsOnly options prepared (sentIn .action [] trace) ∧
      (outcome = .ok () →
        (statesAfter trace .action = .completed ↔ prepared.HasAction options))
  untested : options.crossValidates = true →
    ∀ front, front <+: trace → statesAfter front .testData = .notStarted
  results : Throughout AskedInAction [] trace

variable {resuming : Bool} {trace : List Exchange} {outcome : Except Failure Unit}
  {after : Progress}

/-- A cross-validation does not enter the stage of the test data. -/
theorem unmoved_testData (validates : options.crossValidates = true)
    (goes : Goes (run.runMain options) (Progress.start resuming) trace outcome after) :
    Unmoved .testData trace := by
  have prepares : run.Staged _ [] 0 Stage.testData.place (run.prepare options) _ :=
    Staged.prepare options (Nat.le_refl _) (.inl validates)
  rw [runMain_eq] at goes
  rcases (goes_bind_iff _ _ _ _ _ _).mp goes with
    ⟨_, failed, _⟩ | ⟨front, back, prepared, middle, rfl, done, concludes⟩
  · exact Unmoved.of_within (prepares _ _ _ _ rfl Tidy.start failed).moves (.inr (Nat.le_refl _))
  · have course := prepares _ _ _ _ rfl Tidy.start done
    rcases course.granted prepared rfl with ⟨_, tidy, got⟩
    have concluded : run.Course (.main options) _ _ _ _ back outcome after :=
      Staged.conclude got middle back outcome after course.states (tidy.mono (by decide)) concludes
    exact (Unmoved.of_within course.moves (.inr (Nat.le_refl _))).append
      (Unmoved.of_within concluded.moves (.inl (by decide)))

/-- A run performs one action, the first that applies. -/
theorem acts_once (goes : Goes (run.runMain options) (Progress.start resuming) trace outcome after) :
    run.ActsOnce options (Progress.start resuming) trace outcome after := by
  have untested (validates : options.crossValidates = true) (front : List Exchange)
      (begins : front <+: trace) : statesAfter front .testData = .notStarted := by
    have unmoved : Unmoved .testData front := fun exchange member =>
      unmoved_testData validates goes exchange (begins.subset member)
    have kept : statesAfter ([] ++ front) .testData = statesAfter [] .testData := unmoved.statesAfter
    exact kept
  rw [runMain_eq] at goes
  have prepares : run.Staged _ [] 0 Stage.action.place (run.prepare options) _ :=
    Staged.prepare options (by decide) (.inr rfl)
  have idle {front : List Exchange} (moves : ∀ exchange ∈ front, MovesWithin 0 _ exchange) :
      sentIn .action [] front = [] :=
    (Unmoved.of_within moves (.inr (Nat.le_refl Stage.action.place))).sentIn nofun
  rcases (goes_bind_iff _ _ _ _ _ _).mp goes with
    ⟨failure, failed, rfl⟩ | ⟨front, back, prepared, middle, rfl, done, concludes⟩
  · have asked := idle (prepares _ _ _ _ rfl Tidy.start failed).moves
    exact ⟨.inl ⟨failure, rfl, failed, asked⟩, untested,
      throughout_askedInAction (resultless_prepare _ _ _ _ failed)⟩
  · have course := prepares _ _ _ _ rfl Tidy.start done
    rcases course.granted prepared rfl with ⟨_, tidy, got⟩
    have acts := actsIn_conclude got course.states tidy concludes
    refine ⟨.inr ⟨prepared, front, middle, List.prefix_append _ _, done, ?_, ?_⟩, untested, ?_⟩
    · rw [sentIn_append, idle course.moves]
      exact .of_allowed acts.allowed
    · exact fun succeeded => (acts.completed succeeded).trans Prepared.hasAction_iff
    · exact (Throughout.append_iff _ _ _).mpr
        ⟨throughout_askedInAction (resultless_prepare _ _ _ _ done), acts.results⟩

/-- Options to which every action applies: test data, an evaluation and a cross-validation are
asked for. -/
def combinedOptions : MainOptions :=
  { listedOptions with crossValidationRate := 0.5, numberOfEvaluations := 1 }

/-- Of all actions that are asked for, a run performs the cross-validation. -/
theorem acts_once_combined :
    let attempt := Outside.numbered.attempt centroidRun (.main combinedOptions) false 2 []
    centroidRun.ActsOnce combinedOptions (Progress.start false) attempt.1 attempt.2.1
        attempt.2.2 ∧
      (sentIn .action [] attempt.1).map Creation.kind = [.model, .evaluation] := by
  refine ⟨acts_once (Outside.goes_attempt .numbered _ (.main combinedOptions) _ _ _), ?_⟩
  decide +kernel

end RunContext

end ModelRuns
