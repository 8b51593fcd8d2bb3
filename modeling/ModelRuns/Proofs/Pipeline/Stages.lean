import ModelRuns.Proofs.Pipeline.Bodies
import ModelRuns.Proofs.Pipeline.Evaluating

namespace ModelRuns

open Stateful

/-!
# The stages of a run

A run records each move of a stage as an event, so a trace tells the state of every stage
at every moment: `statesAfter` replays the moves.  Stages are entered in their order, each
is left before the next is entered, and a run that fails leaves the stage where it failed
and enters no other.

`RunContext.Staged` says so of a part of a pipeline that enters only stages from a place on.
The bodies of the stages are covered by `RunContext.Ensures`; they move no stage.
-/

/-- The place of a stage in the order. -/
def Stage.place (stage : Stage) : Nat := Stage.all.idxOf stage

theorem Stage.place_injective {stage other : Stage} (same : stage.place = other.place) :
    stage = other := by
  revert same
  cases stage <;> cases other <;> decide

/-! ## Replaying the moves -/

def Move.apply (states : Stage → StageState) (move : Move) : Stage → StageState :=
  fun other => if other = move.stage then move.next else states other

/-- The states of all stages behind a trace that began with none entered. -/
def statesAfter (trace : List Exchange) : Stage → StageState :=
  (trace.filterMap Exchange.move?).foldl Move.apply fun _ => .notStarted

theorem statesAfter_append (front back : List Exchange) :
    statesAfter (front ++ back) =
      (back.filterMap Exchange.move?).foldl Move.apply (statesAfter front) := by
  rw [statesAfter, List.filterMap_append, List.foldl_append]
  rfl

theorem statesAfter_of_still {back : List Exchange} (front : List Exchange)
    (still : ∀ exchange ∈ back, exchange.move? = none) :
    statesAfter (front ++ back) = statesAfter front := by
  rw [statesAfter_append, List.filterMap_eq_nil_iff.mpr still]
  rfl

theorem statesAfter_recording (front : List Exchange) (move : Move) :
    statesAfter (front ++ [move.recording]) = move.apply (statesAfter front) := by
  rw [statesAfter_append, List.filterMap_cons_some move.move?_recording]
  rfl

/-- A cursor follows the recorded moves. -/
theorem Cursor.set_state {cursor : Cursor} {earlier : List Exchange}
    (states : cursor.state = statesAfter earlier) (stage : Stage) (current next : StageState) :
    (cursor.set stage next).state =
      statesAfter (earlier ++ [Move.recording ⟨stage, current, next⟩]) := by
  rw [statesAfter_recording, ← states]
  rfl

/-- One stage has a state of its own.  The stages before it are completed or were left out,
and those behind it have not been entered. -/
structure At (stage : Stage) (state : StageState) (states : Stage → StageState) : Prop where
  here : states stage = state
  passed : ∀ other : Stage, other.place < stage.place →
    states other = .notStarted ∨ states other = .completed
  ahead : ∀ other : Stage, stage.place < other.place → states other = .notStarted

/-- The stages up to a place are completed or were left out, and those from there on have
not been entered. -/
structure Tidy (bound : Nat) (states : Stage → StageState) : Prop where
  passed : ∀ stage : Stage, stage.place < bound →
    states stage = .notStarted ∨ states stage = .completed
  ahead : ∀ stage : Stage, bound ≤ stage.place → states stage = .notStarted

theorem Tidy.start : Tidy 0 (statesAfter []) := ⟨fun _ impossible => by omega, fun _ _ => rfl⟩

theorem Tidy.mono {bound further : Nat} {states : Stage → StageState} (tidy : Tidy bound states)
    (within : bound ≤ further) : Tidy further states := by
  refine ⟨fun stage _ => ?_, fun stage beyond => tidy.ahead stage (within.trans beyond)⟩
  by_cases before : stage.place < bound
  · exact tidy.passed stage before
  · exact .inl (tidy.ahead stage (Nat.le_of_not_lt before))

theorem Tidy.at {bound : Nat} {states : Stage → StageState} (tidy : Tidy bound states)
    {stage : Stage} (within : bound ≤ stage.place) : At stage .notStarted states where
  here := tidy.ahead stage within
  passed := (tidy.mono within).passed
  ahead other beyond := tidy.ahead other (within.trans (Nat.le_of_lt beyond))

namespace At

variable {stage : Stage} {state next : StageState} {states : Stage → StageState}

theorem tidy (completed : At stage .completed states) : Tidy (stage.place + 1) states where
  passed other before := by
    rcases Nat.lt_or_eq_of_le (Nat.le_of_lt_succ before) with earlier | same
    · exact completed.passed other earlier
    · rw [Stage.place_injective same]
      exact .inr completed.here
  ahead := completed.ahead

theorem move (current : At stage state states) :
    At stage next (Move.apply states ⟨stage, state, next⟩) where
  here := if_pos rfl
  passed other before := by
    rw [Move.apply, if_neg fun same => Nat.ne_of_lt before (congrArg Stage.place same)]
    exact current.passed other before
  ahead other beyond := by
    rw [Move.apply, if_neg fun same => Nat.ne_of_gt beyond (congrArg Stage.place same)]
    exact current.ahead other beyond

theorem recorded {earlier : List Exchange} (current : At stage state (statesAfter earlier))
    (next : StageState) :
    At stage next (statesAfter (earlier ++ [Move.recording ⟨stage, state, next⟩])) := by
  rw [statesAfter_recording]
  exact current.move

/-- No other stage is in progress. -/
theorem eq_of_inProgress (current : At stage state states) {other : Stage}
    (running : states other = .inProgress) : other = stage := by
  rcases Nat.lt_trichotomy other.place stage.place with before | same | beyond
  · rcases current.passed other before with unentered | completed
    · cases running.symm.trans unentered
    · cases running.symm.trans completed
  · exact Stage.place_injective same
  · cases running.symm.trans (current.ahead other beyond)

/-- Stages that were entered before a stage has been are before it in the order. -/
theorem place_lt (unentered : At stage .notStarted states) {other : Stage}
    (entered : states other ≠ .notStarted) : other.place < stage.place := by
  rcases Nat.lt_trichotomy other.place stage.place with before | same | beyond
  · exact before
  · rw [Stage.place_injective same] at entered
    exact absurd unentered.here entered
  · exact absurd (unentered.ahead other beyond) entered

end At

/-- A moment of a run, and what is asked next.  At most one stage is in progress, a move is
recorded as it is, and a stage that is entered comes behind all that were. -/
structure Timely (earlier : List Exchange) (exchange : Exchange) : Prop where
  single : ∀ first second, statesAfter earlier first = .inProgress →
    statesAfter earlier second = .inProgress → first = second
  honest : ∀ move, exchange.move? = some move → move.current = statesAfter earlier move.stage
  inOrder : ∀ move, exchange.move? = some move → move.current = .notStarted →
    ∀ other, statesAfter earlier other ≠ .notStarted → other.place < move.stage.place

namespace At

variable {stage : Stage} {state next : StageState} {earlier : List Exchange}

theorem single (current : At stage state (statesAfter earlier)) (first second : Stage)
    (running : statesAfter earlier first = .inProgress)
    (other : statesAfter earlier second = .inProgress) : first = second :=
  (current.eq_of_inProgress running).trans (current.eq_of_inProgress other).symm

theorem timely_move (current : At stage state (statesAfter earlier)) :
    Timely earlier (Move.recording ⟨stage, state, next⟩) where
  single := current.single
  honest := by
    intro move recorded
    cases (Move.move?_recording _).symm.trans recorded
    exact current.here.symm
  inOrder := by
    intro move recorded unentered other entered
    cases (Move.move?_recording _).symm.trans recorded
    cases unentered
    exact current.place_lt entered

/-- Between two moves of a stage nothing changes. -/
theorem timely_still (current : At stage state (statesAfter earlier)) {trace : List Exchange}
    (still : ∀ exchange ∈ trace, exchange.move? = none) : Throughout Timely earlier trace := by
  induction trace generalizing earlier with
  | nil => trivial
  | cons exchange rest inductionHypothesis =>
    have unmoved := still exchange List.mem_cons_self
    refine ⟨⟨current.single, ?_, ?_⟩, inductionHypothesis ?_ ?_⟩
    · intro move moved
      cases unmoved.symm.trans moved
    · intro move moved
      cases unmoved.symm.trans moved
    · rw [statesAfter_of_still _ (List.forall_mem_singleton.mpr unmoved)]
      exact current
    · exact fun other member => still other (List.mem_cons_of_mem _ member)

end At

namespace RunContext

variable (run : RunContext) (invocation : Invocation) (earlier : List Exchange) {α β : Type}

/-- What a request builds on, changes or downloads is ready. -/
def UsesReady (earlier : List Exchange) (exchange : Exchange) : Prop :=
  ∀ id ∈ exchange.asked.uses, run.ReadyId invocation earlier id

/-- Only stages from `start` up to `stop` are moved. -/
def MovesWithin (start stop : Nat) (exchange : Exchange) : Prop :=
  ∀ move, exchange.move? = some move → start ≤ move.stage.place ∧ move.stage.place < stop

/-- How a part of a pipeline went behind earlier exchanges. -/
structure Course (start stop : Nat) (good : List Exchange → α → Prop) (trace : List Exchange)
    (outcome : Except Failure α) (after : Progress) : Prop where
  ready : Throughout (run.UsesReady invocation) earlier trace
  timely : Throughout Timely earlier trace
  moves : ∀ exchange ∈ trace, MovesWithin start stop exchange
  states : after.cursor.state = statesAfter (earlier ++ trace)
  granted : ∀ value, outcome = .ok value → (∀ exchange ∈ trace, exchange.failure? = none) ∧
    Tidy stop (statesAfter (earlier ++ trace)) ∧ good (earlier ++ trace) value
  failed : ∀ failure, outcome = .error failure → run.Stops invocation earlier trace failure ∧
    ∃ stage, At stage .failed (statesAfter (earlier ++ trace)) ∧
      after.cursor.failureReason = some (stage.text ++ ": " ++ failure.message)

/-- Behind earlier exchanges a part of a pipeline enters stages from `start` up to `stop`,
and its value is good. -/
def Staged (start stop : Nat) (step : Step α) (good : List Exchange → α → Prop) : Prop :=
  ∀ before trace outcome after, before.cursor.state = statesAfter earlier →
    Tidy start (statesAfter earlier) → Goes step before trace outcome after →
      run.Course invocation earlier start stop good trace outcome after

variable {run invocation earlier}

theorem Permits.usesReady {trace : List Exchange}
    (permitted : Throughout (run.Permits invocation) earlier trace) :
    Throughout (run.UsesReady invocation) earlier trace :=
  permitted.mono fun _ _ permits => permits.ready

theorem movesWithin_recording {move : Move} {start stop : Nat} (after : start ≤ move.stage.place)
    (before : move.stage.place < stop) : MovesWithin start stop move.recording := by
  intro other moved
  cases (Move.move?_recording move).symm.trans moved
  exact ⟨after, before⟩

theorem movesWithin_of_still {exchange : Exchange} {start stop : Nat}
    (still : exchange.move? = none) : MovesWithin start stop exchange := by
  intro move moved
  cases still.symm.trans moved

theorem MovesWithin.mono {exchange : Exchange} {start stop first last : Nat}
    (within : MovesWithin start stop exchange) (after : first ≤ start) (before : stop ≤ last) :
    MovesWithin first last exchange := fun move moved =>
  ⟨after.trans (within move moved).1, (within move moved).2.trans_le before⟩

theorem Stops.notes {trace notes : List Exchange} {failure : Failure}
    (stops : run.Stops invocation earlier trace failure)
    (noted : ∀ exchange ∈ notes, exchange.IsNote) :
    run.Stops invocation earlier (trace ++ notes) failure := by
  cases stops with
  | answered granted brings notedBefore =>
    rw [List.append_assoc, List.cons_append]
    exact .answered granted brings (List.forall_mem_append.mpr ⟨notedBefore, noted⟩)
  | checked granted fault notedBefore =>
    rw [List.append_assoc]
    exact .checked granted fault (List.forall_mem_append.mpr ⟨notedBefore, noted⟩)

namespace Course

variable {good between : List Exchange → α → Prop} {start stop : Nat}
  {front back : List Exchange} {outcome : Except Failure α} {after : Progress}

/-- What came before went well. -/
theorem behind (ready : Throughout (run.UsesReady invocation) earlier front)
    (timely : Throughout Timely earlier front)
    (moves : ∀ exchange ∈ front, MovesWithin start stop exchange)
    (granted : ∀ exchange ∈ front, exchange.failure? = none)
    (course : run.Course invocation (earlier ++ front) start stop good back outcome after) :
    run.Course invocation earlier start stop good (front ++ back) outcome after where
  ready := (Throughout.append_iff _ _ _).mpr ⟨ready, course.ready⟩
  timely := (Throughout.append_iff _ _ _).mpr ⟨timely, course.timely⟩
  moves := List.forall_mem_append.mpr ⟨moves, course.moves⟩
  states := by
    rw [← List.append_assoc]
    exact course.states
  granted value succeeded := by
    rw [← List.append_assoc]
    rcases course.granted value succeeded with ⟨grantedLater, tidy, good⟩
    exact ⟨List.forall_mem_append.mpr ⟨granted, grantedLater⟩, tidy, good⟩
  failed failure failed := by
    rw [← List.append_assoc]
    exact (course.failed failure failed).imp_left (·.behind granted)

end Course

/-- Everything that a prepared run has was looked at and found finished. -/
structure AllPrepared (earlier : List Exchange) (prepared : Prepared) : Prop where
  training : prepared.training.AllGot earlier
  predictor : AllGot earlier prepared.predictor.resources
  tests : AllGot earlier prepared.tests

namespace Staged

variable {good : List Exchange → α → Prop} {start middle stop : Nat}

theorem pure {value : α} (ordered : start ≤ stop) (holds : good earlier value) :
    run.Staged invocation earlier start stop (Pure.pure value : Step α) good := by
  intro before trace outcome after states tidy goes
  rcases (goes_pure_iff _ _ _ _ _).mp goes with ⟨rfl, rfl, rfl⟩
  have same : earlier ++ [] = earlier := List.append_nil earlier
  refine ⟨trivial, trivial, List.forall_mem_nil _, by rw [same, states], ?_, nofun⟩
  rintro _ ⟨⟩
  rw [same]
  exact ⟨List.forall_mem_nil _, tidy.mono ordered, holds⟩

theorem mono {stronger : List Exchange → α → Prop} {step : Step α}
    (staged : run.Staged invocation earlier start stop step stronger)
    (weakens : ∀ later value, stronger later value → good later value) :
    run.Staged invocation earlier start stop step good := by
  intro before trace outcome after states tidy goes
  have course := staged before trace outcome after states tidy goes
  refine ⟨course.ready, course.timely, course.moves, course.states, fun value succeeded => ?_,
    course.failed⟩
  exact (course.granted value succeeded).imp_right (And.imp_right (weakens _ value))

/-- The second part goes on with what is known of the first value. -/
theorem bind {between : List Exchange → β → Prop} {step : Step β} {next : β → Step α}
    (ordered : start ≤ middle ∧ middle ≤ stop)
    (first : run.Staged invocation earlier start middle step between)
    (second : ∀ later value, earlier <+: later → between later value →
      run.Staged invocation later middle stop (next value) good) :
    run.Staged invocation earlier start stop (step >>= next) good := by
  intro before trace outcome after states tidy goes
  rcases (goes_bind_iff _ _ _ _ _ _).mp goes with
    ⟨failure, failed, rfl⟩ | ⟨front, back, value, between, rfl, done, rest⟩
  · rcases first before trace _ after states tidy failed with
      ⟨ready, timely, moves, states, _, stops⟩
    refine ⟨ready, timely, fun exchange member => ?_, states, nofun, ?_⟩
    · exact (moves exchange member).mono (Nat.le_refl start) ordered.2
    · rintro _ ⟨⟩
      exact stops failure rfl
  · have course := first before front _ between states tidy done
    rcases course.granted value rfl with ⟨granted, tidied, known⟩
    have later := second _ value (List.prefix_append _ _) known between back outcome after
      course.states tidied rest
    have moved : ∀ exchange ∈ front, MovesWithin start stop exchange := fun exchange member =>
      (course.moves exchange member).mono (Nat.le_refl start) ordered.2
    have moves : ∀ exchange ∈ back, MovesWithin start stop exchange := fun exchange member =>
      (later.moves exchange member).mono ordered.1 (Nat.le_refl stop)
    exact .behind course.ready course.timely moved granted { later with moves := moves }

/-- Behind its body a stage is left. -/
theorem leave {stage : Stage} (within : start ≤ stage.place) (lasting : Lasting good)
    {before left after : Progress} {inside : List Exchange} {outcome : Except Failure α}
    (current : At stage .inProgress (statesAfter earlier))
    (states : before.cursor.state = statesAfter earlier)
    (conduct : run.Conduct invocation earlier good before inside outcome left)
    (moved : after.cursor.state = (left.cursor.set stage (.behind outcome)).state)
    (reason : ∀ failure, outcome = .error failure →
      after.cursor.failureReason = some (stage.text ++ ": " ++ failure.message)) :
    run.Course invocation earlier start (stage.place + 1)
      (fun later value => good later value ∧ statesAfter later stage = .completed)
      (inside ++ [Move.recording ⟨stage, .inProgress, .behind outcome⟩]) outcome after := by
  have still : ∀ exchange ∈ inside, exchange.move? = none :=
    conduct.permitted.forall_mem fun _ _ permits => permits.inside
  have kept : statesAfter (earlier ++ inside) = statesAfter earlier :=
    statesAfter_of_still earlier still
  have running : At stage .inProgress (statesAfter (earlier ++ inside)) := kept ▸ current
  have leftStates : left.cursor.state = statesAfter (earlier ++ inside) := by
    rw [kept, conduct.states, states]
  have ended := running.recorded (.behind outcome)
  rw [List.append_assoc] at ended
  refine ⟨?_, ?_, ?_, ?_, ?_, ?_⟩
  · exact (Throughout.append_iff _ _ _).mpr ⟨Permits.usesReady conduct.permitted,
      List.forall_mem_nil _, trivial⟩
  · exact (Throughout.append_iff _ _ _).mpr
      ⟨current.timely_still still, running.timely_move, trivial⟩
  · exact List.forall_mem_append.mpr ⟨fun exchange member => movesWithin_of_still
      (still exchange member), List.forall_mem_singleton.mpr
        (movesWithin_recording within (Nat.lt_succ_self _))⟩
  · rw [moved, ← List.append_assoc]
    exact Cursor.set_state leftStates _ _ _
  · rintro value rfl
    rcases conduct.granted value rfl with ⟨granted, holds⟩
    refine ⟨List.forall_mem_append.mpr ⟨granted, List.forall_mem_singleton.mpr rfl⟩, ended.tidy,
      lasting ?_ holds, ended.here⟩
    rw [← List.append_assoc]
    exact List.prefix_append _ _
  · rintro failure rfl
    refine ⟨(conduct.stops failure rfl).notes (List.forall_mem_singleton.mpr trivial), stage, ended,
      reason failure rfl⟩

/-- A stage that has not been entered is entered, its body goes, and the stage is left. -/
theorem inStage {stage : Stage} {body : Step α} (within : start ≤ stage.place)
    (lasting : Lasting good)
    (ensures : ∀ later, earlier <+: later → stage.Entered later →
      run.Ensures invocation later body good) :
    run.Staged invocation earlier start (stage.place + 1) (Stateful.inStage stage body)
      fun later value => good later value ∧ statesAfter later stage = .completed := by
  intro before trace outcome after states tidy goes
  have unentered : At stage .notStarted (statesAfter earlier) := tidy.at within
  have waiting : before.cursor.state stage = .notStarted := by
    rw [states]
    exact unentered.here
  have conducts := ensures (earlier ++ [stage.entry]) (List.prefix_append _ _) ⟨earlier, rfl⟩
  rcases goes_inStage_unentered waiting
    (fun _ _ _ _ going => (conducts _ _ _ _ going).states) goes with
    ⟨inside, left, rfl, going, moved, reason⟩
  have course := leave within lasting (unentered.recorded .inProgress)
    (Cursor.set_state states _ _ _) (conducts _ _ _ _ going) moved reason
  exact .behind ⟨List.forall_mem_nil _, trivial⟩ ⟨unentered.timely_move, trivial⟩
    (List.forall_mem_singleton.mpr (movesWithin_recording within (Nat.lt_succ_self _)))
    (List.forall_mem_singleton.mpr rfl) course

/-- A stage that is not due is left out. -/
theorem stageIf {due : Bool} {stage : Stage} {default : α} {body : Step α}
    (within : start ≤ stage.place) (lasting : Lasting good) (holds : good earlier default)
    (ensures : ∀ later, earlier <+: later → stage.Entered later →
      run.Ensures invocation later body good) :
    run.Staged invocation earlier start (stage.place + 1)
      (RunContext.stageIf due stage default body) good := by
  cases due with
  | false => exact .pure (within.trans (Nat.le_succ _)) holds
  | true => exact (inStage within lasting ensures).mono fun _ _ => And.left

/-! ## The pipelines -/

/-- What is known of every value. -/
theorem lasting_true : Lasting fun (_ : List Exchange) (_ : α) => True := fun _ _ _ _ => id

theorem report (within : start ≤ Stage.report.place) :
    run.Staged invocation earlier start (Stage.report.place + 1)
      (Stateful.inStage .report (run.reportStage invocation.common))
      fun later _ => statesAfter later .report = .completed :=
  (inStage within lasting_true fun _ _ _ => Ensures.reportStage).mono fun _ _ => And.right

/-- Before the action of a cross-validation no stage behind that of the models is entered. -/
theorem prepare (options : MainOptions) (modelled : Stage.model.place + 1 ≤ stop)
    (tested : options.crossValidates = true ∨ Stage.testData.place + 1 = stop) :
    run.Staged (.main options) [] 0 stop (run.prepare options) AllPrepared := by
  have predictorLasting : Lasting fun earlier (predictor : Predictor) =>
      AllGot earlier predictor.resources := fun _ _ _ => AllGot.mono
  refine .bind ⟨Nat.zero_le _, (by decide : _ ≤ Stage.model.place + 1).trans modelled⟩
    (stageIf (Nat.zero_le _) MaybeGot.lasting .none
      fun _ _ entered => .sourceStage entered.uncalled) fun _ source _ gotSource => ?_
  refine .bind ⟨by decide, (by decide : _ ≤ Stage.model.place + 1).trans modelled⟩
    (stageIf (by decide) TrainingData.AllGot.lasting ⟨.nil, .none⟩
      fun _ grown entered => .datasetStage (gotSource.mono grown) entered
        (Parallel.limitFits options)) fun _ training _ gotTraining => ?_
  refine .bind ⟨by decide, modelled⟩ (stageIf (by decide) predictorLasting .nil
    fun _ grown entered => .modelStage rfl (gotTraining.mono grown) entered.uncalled)
    fun _ predictor grownBuilt gotBuilt => ?_
  have gotData := gotTraining.mono grownBuilt
  refine .bind ⟨modelled, Nat.le_refl stop⟩ ?_ fun _ tests grownTested (gotTests : AllGot _ tests) =>
    .pure (Nat.le_refl stop) ⟨gotData.mono grownTested, gotBuilt.mono grownTested, gotTests⟩
  rcases tested with validates | rfl
  · simp only [MainOptions.action, validates, if_true]
    exact .pure modelled .nil
  · exact stageIf (by decide) AllGot.lasting .nil fun _ grown entered =>
      .testDataStage (gotData.mono grown) entered.uncalled

theorem acting {options : MainOptions} {due : Bool} {action : ModelAction} {prepared : Prepared}
    (got : AllPrepared earlier prepared) :
    run.Staged invocation earlier Stage.action.place (Stage.action.place + 1)
      (RunContext.stageIf due .action ()
        (run.act options action prepared.predictor prepared.training prepared.tests))
      fun _ _ => True :=
  stageIf (Nat.le_refl _) lasting_true trivial fun _ grown entered =>
    .act (got.predictor.mono grown) (got.training.mono grown) (got.tests.mono grown)
      entered.uncalled

theorem conclude {options : MainOptions} {prepared : Prepared}
    (got : AllPrepared earlier prepared) :
    run.Staged (.main options) earlier Stage.action.place (Stage.report.place + 1)
      (run.conclude options prepared) fun later _ => statesAfter later .report = .completed :=
  .bind (by decide) (acting got) fun _ _ _ _ => report (by decide)

theorem runMain (options : MainOptions) :
    run.Staged (.main options) [] 0 (Stage.report.place + 1) (run.runMain options)
      fun later _ => statesAfter later .report = .completed := by
  rw [runMain_eq]
  exact .bind (by decide) (prepare options (by decide) (.inr rfl)) fun _ _ _ got => conclude got

theorem runCluster (options : ClusterOptions) :
    run.Staged (.cluster options) [] 0 (Stage.report.place + 1) (run.runCluster options)
      fun later _ => statesAfter later .report = .completed := by
  have unlimited : Parallel.LimitFits (.cluster options) none := nofun
  refine .bind (by decide) (stageIf (Nat.zero_le _) MaybeGot.lasting .none
    fun _ _ entered => .sourceStage entered.uncalled) fun _ source _ gotSource => ?_
  refine .bind (by decide) (stageIf (by decide) TrainingData.AllGot.lasting ⟨.nil, .none⟩
    fun _ grown entered => .datasetStage (gotSource.mono grown) entered unlimited)
    fun _ training _ gotTraining => ?_
  refine .bind (by decide) (inStage (by decide) Ensures.AllReady.lasting
    fun _ grown entered => .clusterStage rfl (gotTraining.mono grown) entered.uncalled)
    fun _ clusters grownBuilt ready => ?_
  have gotData := gotTraining.mono grownBuilt
  refine .bind (by decide) (stageIf (by decide) AllGot.lasting .nil
    fun _ grown entered => .testDataStage (gotData.mono grown) entered.uncalled)
    fun _ tests grownTested gotTests => ?_
  refine .bind (by decide) (stageIf (by decide) lasting_true trivial fun _ grown entered =>
    .useCluster (Ensures.AllReady.lasting (grownTested.trans grown) ready.1)
      (gotTests.mono grown) entered.uncalled _) fun _ _ _ _ => ?_
  exact report (by decide)

theorem runPipeline :
    run.Staged invocation [] 0 (Stage.report.place + 1) (run.runPipeline invocation)
      fun later _ => statesAfter later .report = .completed := by
  cases invocation with
  | main options => exact runMain options
  | cluster options => exact runCluster options

end Staged

/-! ## Whole runs -/

/-- A new run behind no earlier exchange. -/
theorem course {resuming : Bool} {trace : List Exchange} {outcome : Except Failure Unit}
    {after : Progress}
    (goes : Goes (run.runPipeline invocation) (Progress.start resuming) trace outcome after) :
    run.Course invocation [] 0 (Stage.report.place + 1)
      (fun later _ => statesAfter later .report = .completed) trace outcome after :=
  Staged.runPipeline (Progress.start resuming) trace outcome after rfl Tidy.start goes

/-- A run with this beginning fails in this way, whatever is answered from then on. -/
def Certain (run : RunContext) (invocation : Invocation) (resuming : Bool)
    (front : List Exchange) (failure : Failure) : Prop :=
  ∀ back outcome after, Goes (run.runPipeline invocation) (Progress.start resuming)
    (front ++ back) outcome after → outcome = .error failure

/-- Nothing is called once a failure is certain: the call might bring another one. -/
theorem Certain.uncalled {resuming : Bool} {front back : List Exchange}
    {outcome : Except Failure Unit} {after : Progress} {failure : Failure}
    (certain : run.Certain invocation resuming front failure)
    (goes : Goes (run.runPipeline invocation) (Progress.start resuming) (front ++ back) outcome
      after) : ∀ exchange ∈ back, ¬exchange.asked.IsCall := by
  rintro ⟨asked, answer⟩ member called
  rcases List.append_of_mem member with ⟨before, behind, rfl⟩
  rw [← List.append_assoc] at goes
  rcases Failure.exists_ne failure with ⟨other, different⟩
  rcases called.refused other with ⟨refusal, brings⟩
  rcases Program.Runs.redirect (fun _ asked => asked.granted) goes refusal [] with
    ⟨later, result, goesElse, _⟩
  rw [List.append_assoc] at goesElse
  have stopped : result.1 = .error failure := certain _ _ _ goesElse
  have stops := ((course goesElse).failed failure stopped).1
  exact different (stops.brought (List.mem_append_right _ (List.mem_append_right _
    List.mem_cons_self)) called brings).symm

/-- The stages of a run.  Every move is timely, and no stage is left in progress.  A run that
succeeds has completed the stages that it entered, the report among them.  A run that fails
has failed in one stage, which is the reason that it keeps, and asks nothing more once the
request or the check that brings the failure is behind it.  Whenever a failure is certain,
nothing more is called. -/
structure StagesInOrder (run : RunContext) (invocation : Invocation) (resuming : Bool)
    (trace : List Exchange) (outcome : Except Failure Unit) (after : Progress) : Prop where
  timely : Throughout Timely [] trace
  states : after.cursor.state = statesAfter trace
  ended : ∀ stage, after.cursor.state stage ≠ .inProgress
  completed : outcome = .ok () →
    (∀ stage, after.cursor.state stage ≠ .notStarted → after.cursor.state stage = .completed) ∧
      after.cursor.state .report = .completed
  failed : ∀ failure, outcome = .error failure →
    run.Stops invocation [] trace failure ∧ ∃ stage, At stage .failed after.cursor.state ∧
      after.cursor.failureReason = some (stage.text ++ ": " ++ failure.message)
  uncalled : ∀ failure front back, trace = front ++ back →
    run.Certain invocation resuming front failure →
      ∀ exchange ∈ back, ¬exchange.asked.IsCall

/-- Stages come in their order, and a run stops where it fails. -/
theorem stages_inOrder {resuming : Bool} {trace : List Exchange} {outcome : Except Failure Unit}
    {after : Progress}
    (goes : Goes (run.runPipeline invocation) (Progress.start resuming) trace outcome after) :
    run.StagesInOrder invocation resuming trace outcome after := by
  have uncalled : ∀ failure front back, trace = front ++ back →
      run.Certain invocation resuming front failure →
        ∀ exchange ∈ back, ¬exchange.asked.IsCall := by
    rintro failure front back rfl certain
    exact certain.uncalled goes
  have course := course goes
  have states : after.cursor.state = statesAfter trace := course.states
  cases outcome with
  | ok done =>
    rcases course.granted done rfl with ⟨_, tidy, reported⟩
    rw [List.nil_append, ← states] at tidy reported
    have passed : ∀ stage, after.cursor.state stage = .notStarted ∨
        after.cursor.state stage = .completed := fun stage => tidy.passed stage (by
      cases stage <;> decide)
    refine ⟨course.timely, states, ?_, fun _ => ⟨?_, reported⟩, nofun, uncalled⟩
    · intro stage running
      rcases passed stage with unentered | completed
      · cases running.symm.trans unentered
      · cases running.symm.trans completed
    · exact fun stage entered => (passed stage).resolve_left entered
  | error failure =>
    rcases course.failed failure rfl with ⟨stops, stage, current, reason⟩
    rw [List.nil_append, ← states] at current
    refine ⟨course.timely, states, ?_, nofun, ?_, uncalled⟩
    · intro other running
      rw [current.eq_of_inProgress running, current.here] at running
      cases running
    · rintro _ ⟨⟩
      exact ⟨stops, stage, current, reason⟩

/-- Centroids that break down fail in the stage of the test data, and those that are found
complete it. -/
theorem stages_inOrder_centroids :
    let broken := Outside.numbered.attempt centroidRun centroidInvocation false 1 []
    let found := Outside.numbered.attempt centroidRun centroidInvocation false 3 []
    centroidRun.StagesInOrder centroidInvocation false broken.1 broken.2.1 broken.2.2 ∧
      statesAfter broken.1 .testData = .failed ∧
      centroidRun.StagesInOrder centroidInvocation false found.1 found.2.1 found.2.2 ∧
      statesAfter found.1 .testData = .completed := by
  refine ⟨stages_inOrder (Outside.goes_attempt _ _ _ _ _ _), ?_,
    stages_inOrder (Outside.goes_attempt _ _ _ _ _ _), ?_⟩ <;> decide +kernel

/-- Nothing is built on an unfinished resource, changed or downloaded: a run uses only what a
look found finished before, or a finished cluster from the cluster file. -/
theorem uses_ready {resuming : Bool} {trace : List Exchange} {outcome : Except Failure Unit}
    {after : Progress}
    (goes : Goes (run.runPipeline invocation) (Progress.start resuming) trace outcome after) :
    Throughout (run.UsesReady invocation) [] trace :=
  (course goes).ready

/-- The test source, the cluster and the test dataset are ready when the centroids are built on
them. -/
theorem uses_ready_centroids :
    let found := Outside.numbered.attempt centroidRun centroidInvocation false 3 []
    Throughout (centroidRun.UsesReady centroidInvocation) [] found.1 ∧
      found.1.flatMap (fun exchange => exchange.asked.uses.map ResourceId.text) =
        ["source/000000000000000000000001", "cluster/5143a51a37203f2cf7000972",
          "dataset/000000000000000000000002", "batchcentroid/000000000000000000000003"] := by
  refine ⟨uses_ready (Outside.goes_attempt _ _ _ _ _ _), ?_⟩
  decide +kernel

end RunContext

end ModelRuns
