import ModelRuns.Proofs.Checkpoint.Reset
import ModelRuns.Proofs.Invocation.Accepted
import ModelRuns.Proofs.Pipeline.Afresh
import ModelRuns.Proofs.Run.Confined
import ModelRuns.Proofs.Run.Objections

namespace ModelRuns

open Stateful

/-!
# Inputs of a fresh run

A fresh run resets its output directory before it comes to its pipeline.  What it is told to
read may lie in that directory, and even where a checkpoint lies: the models of an earlier
run are read from the file that this run would take for its own.

Every local file of a run is named by one of a few flags.  The run hands these files to the
reset, and its pipeline opens no others: it reads them as it comes to them, or sends their
content to the service.  Checkpoints are read only by a run that resumes.  So no file that
is removed is opened, however it is spelled.
-/

/-! ## Opening files -/

def Origin.file? : Origin → Option Path
  | .localFile path => some path
  | _ => none

/-- The local file that a request opens, to read it or to send its content. -/
def Request.opened? : Request → Option Path
  | .file (.read path) => some path
  | .api (.create creation) => creation.origin.file?
  | _ => none

/-- The file that a request removes. -/
def Request.removed? : Request → Option Path
  | .file (.remove path) => some path
  | _ => none

/-- A request opens no local files but good ones, and removes none. -/
structure Request.Careful (good : Path → Prop) (asked : Request) : Prop where
  opens : ∀ path, asked.opened? = some path → good path
  removes : asked.removed? = none

namespace Request.Careful

variable {good : Path → Prop} {asked : Request}

/-- A request that is about no file. -/
theorem aside (opens : asked.opened? = none) (removes : asked.removed? = none) :
    asked.Careful good := by
  refine ⟨fun path opened => ?_, removes⟩
  cases opens.symm.trans opened

theorem read {path : Path} (input : good path) : Careful good (.file (.read path)) := by
  refine ⟨fun other opened => ?_, rfl⟩
  cases opened
  exact input

theorem of_keeps {log : SessionLog} (keeps : log.Keeps asked) : asked.Careful good := by
  cases keeps <;> exact aside rfl rfl

theorem of_polls (polls : asked.Polls) : asked.Careful good := by
  cases polls <;> exact aside rfl rfl

theorem of_mayAsk {run : RunContext} {invocation : Invocation}
    (allowed : run.MayAsk invocation asked) : asked.Careful good := by
  cases asked with
  | file request => cases request <;> first | exact absurd allowed id | exact aside rfl rfl
  | api request => cases request <;> first | exact absurd allowed id | exact aside rfl rfl
  | _ => first | exact absurd allowed id | exact aside rfl rfl

end Request.Careful

theorem datasetOrigin_file? (ids : List ResourceId) : (datasetOrigin ids).file? = none := by
  unfold datasetOrigin
  split <;> rfl

theorem MainOptions.file?_of_mem_modelCreations {options : MainOptions} {training : TrainingData}
    {creation : Creation} (member : creation ∈ options.modelCreations training) :
    creation.origin.file? = none := by
  unfold modelCreations at member
  split at member
  all_goals
    rcases List.mem_map.mp member with ⟨_, _, rfl⟩
  · rfl
  · exact datasetOrigin_file? _

namespace RunContext

variable {run : RunContext} {invocation : Invocation}

/-- What a run sends the content of is one of its inputs. -/
theorem Sends.careful {checkpoint : Checkpoint} {creation : Creation}
    (sent : run.Sends invocation checkpoint creation) :
    (Request.api (.create creation)).Careful (run.Reads invocation) := by
  have elsewhere (none : creation.origin.file? = none) :
      (Request.api (.create creation)).Careful (run.Reads invocation) := .aside none rfl
  have local_ {path : Path} (given : path ∈ invocation.inputFiles)
      (origin : creation.origin = .localFile (run.resolvePath path)) :
      (Request.api (.create creation)).Careful (run.Reads invocation) := by
    refine ⟨fun other opened => ?_, rfl⟩
    have same : some (run.resolvePath path) = some other := by
      rw [← opened, Request.opened?, origin]
      rfl
    exact ⟨path, given, (Option.some.inj same).symm⟩
  cases sent with
  | source _ path given =>
    exact local_ (Parallel.mem_inputFiles invocation path (by simp [← given])) rfl
  | testSource _ path given =>
    exact local_ (Parallel.mem_inputFiles invocation path (by simp [← given])) rfl
  | model options single training _ member =>
    exact elsewhere (MainOptions.file?_of_mem_modelCreations member)
  | cluster options datasets => exact elsewhere (datasetOrigin_file? datasets)
  | ensemble options asked datasets => exact elsewhere (datasetOrigin_file? datasets)
  | _ => exact elsewhere rfl

/-! ## The pipeline of a fresh run -/

/-- Begun as part of a fresh run, a step opens only inputs of the run, and the run goes on
as a fresh one. -/
def OpensInputs (run : RunContext) (invocation : Invocation) {α : Type} (step : Step α) : Prop :=
  ∀ before trace outcome after, before.cursor.resuming = false →
    Goes step before trace outcome after →
    (∀ exchange ∈ trace, exchange.asked.Careful (run.Reads invocation)) ∧
      ∀ value, outcome = .ok value → after.cursor.resuming = false

namespace OpensInputs

variable {α β : Type}

/-- A step that leaves the cursor alone. -/
theorem of_still {step : Step α} (asks : Asks (Request.Careful (run.Reads invocation)) step)
    (still : ∀ before trace outcome after, Goes step before trace outcome after →
      after.cursor = before.cursor) : run.OpensInputs invocation step := by
  intro before trace outcome after fresh goes
  refine ⟨asks _ _ _ _ goes, fun _ _ => ?_⟩
  rw [still _ _ _ _ goes]
  exact fresh

theorem act {action : Action α} (asks : action.Asks (Request.Careful (run.Reads invocation))) :
    run.OpensInputs invocation (Stateful.act action) :=
  of_still (.act asks) fun _ _ _ _ goes =>
    congrArg Progress.cursor ((goes_act_iff _ _ _ _ _).mp goes).2

theorem asking (asked : Request) (finish : asked.Answer → Except Failure α)
    (allowed : run.MayAsk invocation asked) :
    run.OpensInputs invocation (Stateful.act (Action.asking asked finish)) :=
  act (.asking asked finish (.of_mayAsk allowed))

theorem bind {step : Step β} {next : β → Step α} (first : run.OpensInputs invocation step)
    (second : ∀ value, run.OpensInputs invocation (next value)) :
    run.OpensInputs invocation (step >>= next) := by
  intro before trace outcome after fresh goes
  rcases (goes_bind_iff _ _ _ _ _ _).mp goes with
    ⟨failure, failed, rfl⟩ | ⟨front, back, value, middle, rfl, done, rest⟩
  · exact ⟨(first _ _ _ _ fresh failed).1, nofun⟩
  · rcases first _ _ _ _ fresh done with ⟨careful, goesOn⟩
    rcases second value _ _ _ _ (goesOn value rfl) rest with ⟨later, ends⟩
    exact ⟨List.forall_mem_append.mpr ⟨careful, later⟩, ends⟩

/-- A stage that is entered leaves a fresh run fresh. -/
theorem resuming_of_enterStage {stage : Stage} {before after : Progress} {trace : List Exchange}
    (goes : Goes (enterStage stage) before trace (.ok ()) after) :
    after.cursor.resuming = before.cursor.resuming := by
  unfold enterStage at goes
  rw [goes_cursor_bind_iff] at goes
  cases found : before.cursor.state stage with
  | inProgress =>
    simp only [found] at goes
    rw [((goes_pure_iff _ _ _ _ _).mp goes).2.2]
  | completed =>
    simp only [found] at goes
    rcases (goes_throw_iff _ _ _ _ _).mp goes with ⟨_, impossible, _⟩
    cases impossible
  | _ =>
    simp only [found] at goes
    rw [(goes_transition goes).2.2 rfl]
    rfl

theorem inStage {stage : Stage} {body : Step α} (inside : run.OpensInputs invocation body) :
    run.OpensInputs invocation (inStage stage body) := by
  have notes {trace : List Exchange} (noted : ∀ exchange ∈ trace, exchange.IsNote) :
      ∀ exchange ∈ trace, exchange.asked.Careful (run.Reads invocation) := by
    rintro ⟨asked, answer⟩ member
    have isNote := noted _ member
    cases asked with
    | note event => exact .aside rfl rfl
    | _ => exact absurd isNote id
  intro before trace outcome after fresh goes
  rcases goes_inStage goes with ⟨failure, failed, rfl⟩ |
    ⟨entry, middle, exit, result, entered, left, rfl, entering, going, leaving⟩
  · exact ⟨notes (notes_enterStage failed), nofun⟩
  have begun : entered.cursor.resuming = false := by
    rw [resuming_of_enterStage entering]
    exact fresh
  rcases inside _ _ _ _ begun going with ⟨careful, goesOn⟩
  have exiting : (∀ exchange ∈ exit, exchange.IsNote) ∧
      ∀ value, outcome = .ok value → after.cursor.resuming = false := by
    cases result with
    | error failure =>
      rcases goes_leaveStage_error leaving with ⟨noted, last, rfl⟩
      exact ⟨noted, nofun⟩
    | ok value =>
      rcases goes_leaveStage_ok leaving with ⟨noted, known, completed⟩
      refine ⟨noted, fun other succeeded => ?_⟩
      have same : outcome = .ok value := by
        cases checked : StageState.checkStep false (left.cursor.state stage) .completed with
        | error failure =>
          rw [checked, succeeded] at known
          cases known
        | ok done =>
          rw [checked] at known
          exact known
      rw [completed same]
      exact goesOn value rfl
  exact ⟨List.forall_mem_append.mpr ⟨notes (notes_enterStage entering),
    List.forall_mem_append.mpr ⟨careful, notes exiting.1⟩⟩, exiting.2⟩

/-! ### Obtaining resources -/

theorem say (message : String) : Asks (Request.Careful (run.Reads invocation)) (run.say message) :=
  .act ((run.log.asks_step message).mono fun _ => Request.Careful.of_keeps)

theorem poll (id : ResourceId) :
    (run.policy.await id none).Asks (Request.Careful (run.Reads invocation)) :=
  (asks_poll _ id none 0 _).mono fun _ => Request.Careful.of_polls

theorem awaitAll (stage : Stage) (ids : List ResourceId) :
    Asks (Request.Careful (run.Reads invocation)) (run.awaitAll stage ids) := by
  induction ids with
  | nil => exact .pure []
  | cons id rest inductionHypothesis =>
    have first : Asks (Request.Careful (run.Reads invocation)) (run.await stage id) :=
      .bind (.act (poll id)) fun _ => .bind (.changing _) fun _ => .pure _
    exact .bind first fun _ => .bind inductionHypothesis fun _ => .pure _

theorem createAll {stage : Stage} {checkpoint : Checkpoint} {creations : List Creation}
    (sent : ∀ creation ∈ creations, run.Sends invocation checkpoint creation) :
    Asks (Request.Careful (run.Reads invocation)) (run.createAll stage checkpoint creations) := by
  induction creations with
  | nil => exact .pure []
  | cons creation rest inductionHypothesis =>
    rcases List.forall_mem_cons.mp sent with ⟨allowed, others⟩
    have first : Asks (Request.Careful (run.Reads invocation))
        (run.create stage checkpoint creation) := by
      refine .bind (say _) fun _ => ?_
      refine .bind (.act (.asking (.api (.create _)) (fun answer => answer) allowed.careful))
        fun created => ?_
      refine .bind (.act (.asking (.file (.append _ _)) (fun answer => answer) ?_)) fun _ => ?_
      · exact .aside rfl rfl
      refine .bind (.act (.asking (.note _) .ok (.aside rfl rfl))) fun _ => ?_
      exact .bind (say _) fun _ => .pure _
    exact .bind first fun _ => .bind (inductionHypothesis others) fun _ => .pure _

/-- A fresh run does not look into a checkpoint. -/
theorem obtainMany {stage : Stage} {checkpoint : Checkpoint} {creations : List Creation}
    (sent : ∀ creation ∈ creations, run.Sends invocation checkpoint creation) :
    run.OpensInputs invocation (run.obtainMany stage checkpoint creations) := by
  have taking : run.OpensInputs invocation (run.takeUp checkpoint creations.length) := by
    intro before trace outcome after fresh goes
    rcases goes_takeUp_fresh fresh goes with ⟨rfl, _, rfl⟩
    exact ⟨List.forall_mem_nil _, fun _ _ => fresh⟩
  refine bind taking fun known => bind ?_ fun created => ?_
  · have remaining : ∀ creation ∈ creations.drop known.length,
        run.Sends invocation checkpoint creation :=
      fun creation member => sent creation (List.mem_of_mem_drop member)
    exact of_still (createAll remaining) fun _ _ _ _ goes => by
      rw [(goes_createAll remaining goes).1]
  · have idle : run.Idle invocation (run.awaitAll stage (known ++ created)) :=
      idle_awaitAll stage _
    exact of_still (awaitAll stage _) idle.still

theorem obtainOne {stage : Stage} {checkpoint : Checkpoint} {creation : Creation}
    (sent : run.Sends invocation checkpoint creation) :
    run.OpensInputs invocation (run.obtainOne stage checkpoint creation) := by
  intro before trace outcome after fresh goes
  rcases obtainMany (List.forall_mem_singleton.mpr sent) _ _ _ _ fresh
    (goes_obtainMany_of_single goes) with ⟨careful, goesOn⟩
  refine ⟨careful, ?_⟩
  rintro value rfl
  exact goesOn [value] rfl

end OpensInputs

/-- Both of two parallel steps open only inputs. -/
theorem Parallel.opensInputs {α : Type} {start stop : Nat} {related : α → α → Prop}
    {left right : Step α} (parallel : Parallel run invocation start stop related left right) :
    run.OpensInputs invocation left ∧ run.OpensInputs invocation right := by
  induction parallel with
  | pure ordered alike => exact ⟨.act (.pure _), .act (.pure _)⟩
  | fail ordered left right => exact ⟨.act (.throw left), .act (.throw right)⟩
  | bind reflexive first second firstHypothesis secondHypothesis =>
    exact ⟨.bind firstHypothesis.1 fun value =>
        (secondHypothesis value value (reflexive value)).1,
      .bind firstHypothesis.2 fun value => (secondHypothesis value value (reflexive value)).2⟩
  | ask ordered asked other finish conclude allowed allowedOther granted =>
    exact ⟨.asking asked finish allowed, .asking other conclude allowedOther⟩
  | askLeft asked finish allowed rest restHypothesis =>
    exact ⟨.bind (.asking asked finish allowed) fun _ => restHypothesis.1, restHypothesis.2⟩
  | askRight asked finish allowed granted rest restHypothesis =>
    exact ⟨restHypothesis.1, .bind (.asking asked finish allowed) fun _ => restHypothesis.2⟩
  | read ordered path input =>
    have opens : run.OpensInputs invocation (Stateful.act (Action.readText path)) :=
      .act (.asking (.file (.read path)) (fun answer => answer) (.read input))
    exact ⟨opens, opens⟩
  | await ordered id => exact ⟨.act (OpensInputs.poll id), .act (OpensInputs.poll id)⟩
  | meet ordered stage id =>
    have idle : run.Idle invocation (RunContext.meet stage id) := .meet stage id
    exact ⟨.of_still (.changing _) idle.still, .of_still (.changing _) idle.still⟩
  | progress ordered =>
    have idle : run.Idle invocation (get : Step Progress) := .state
    exact ⟨.of_still .state idle.still, .of_still .state idle.still⟩
  | inStage stage body bodyHypothesis =>
    exact ⟨.inStage bodyHypothesis.1, .inStage bodyHypothesis.2⟩
  | obtainOne stage checkpoint creation sent after before =>
    exact ⟨.obtainOne sent, .obtainOne sent⟩
  | obtainMany stage checkpoint creations sent after before =>
    exact ⟨.obtainMany sent, .obtainMany sent⟩

end RunContext

/-! ## Flags for local files -/

/-- The flags that name a local file to read. -/
def Mode.fileFlags : Mode → List Flag
  | .main => [.train, .datasets, .test, .testDatasets, .newFields, .models]
  | .cluster => [.train, .datasets, .test, .testDatasets, .newFields, .clusters, .clusterFile]

/-- A command line names a local file with one of the flags for them. -/
def NamesFile (tokens : List String) (path : Path) : Prop :=
  ∃ given flag, Accepted (Mode.ofArguments tokens) [] none
      ((Mode.ofArguments tokens).optionTokens tokens) given ∧
    flag ∈ (Mode.ofArguments tokens).fileFlags ∧ Given.path? given flag = some path

/-- The inputs of an invocation are the files that its command line names. -/
theorem Invocation.mem_inputFiles_iff {tokens : List String} {invocation : Invocation}
    (read : Invocation.read tokens = .ok invocation) (path : Path) :
    path ∈ invocation.inputFiles ↔ NamesFile tokens path := by
  rcases (Invocation.read_ok_iff tokens invocation).mp read with ⟨given, accepted, _, rfl⟩
  have only : ∀ other, Accepted (Mode.ofArguments tokens) [] none
      ((Mode.ofArguments tokens).optionTokens tokens) other → other = given := by
    intro other also
    have walked := (readTokens_ok_iff _ _ _ _ _).mpr also
    rw [(readTokens_ok_iff _ _ _ _ _).mpr accepted] at walked
    exact (Except.ok.inj walked).symm
  have listed : path ∈ (given.invocation (Mode.ofArguments tokens)).inputFiles ↔
      ∃ flag ∈ (Mode.ofArguments tokens).fileFlags, Given.path? given flag = some path := by
    cases Mode.ofArguments tokens <;>
      simp [Given.invocation, Invocation.inputFiles, Invocation.common, Given.mainOptions,
        Given.clusterOptions, Given.commonOptions, Mode.fileFlags, eq_comm, or_assoc]
  rw [listed]
  constructor
  · rintro ⟨flag, member, named⟩
    exact ⟨given, flag, accepted, member, named⟩
  · rintro ⟨other, flag, also, member, named⟩
    cases only other also
    exact ⟨flag, member, named⟩

/-! ## The run of a fresh command -/

/-- A fresh run asks this of local files: it opens the defaults file and its inputs, and
removes checkpoints that are no inputs. -/
structure Request.Considerate (directory output : Path) (inputs : List Path)
    (asked : Request) : Prop where
  opens : ∀ path, asked.opened? = some path →
    path = directory.child defaultsFileName ∨ path ∈ inputs
  removes : ∀ path, asked.removed? = some path → ∃ checkpoint,
    path = Checkpoint.path output checkpoint ∧ inputs.any (fun input => input.same path) = false

namespace Request.Considerate

variable {directory output : Path} {inputs : List Path} {asked : Request}

theorem of_careful {good : Path → Prop} (careful : asked.Careful good)
    (known : ∀ path, good path → path = directory.child defaultsFileName ∨ path ∈ inputs) :
    asked.Considerate directory output inputs :=
  ⟨fun path opened => known path (careful.opens path opened),
    fun path removed => by cases careful.removes.symm.trans removed⟩

/-- A request that is about no file, or writes to one. -/
theorem aside (opens : asked.opened? = none) (removes : asked.removed? = none) :
    asked.Considerate directory output inputs :=
  have careful : asked.Careful fun _ => False := .aside opens removes
  of_careful careful fun _ => False.elim

theorem of_keeps {log : SessionLog} (keeps : log.Keeps asked) :
    asked.Considerate directory output inputs :=
  have careful : asked.Careful fun _ => False := .of_keeps keeps
  of_careful careful fun _ => False.elim

theorem defaults : Considerate directory output inputs
    (.file (.read (directory.child defaultsFileName))) :=
  have careful : Request.Careful (· = directory.child defaultsFileName)
      (.file (.read (directory.child defaultsFileName))) := .read rfl
  of_careful careful fun _ => .inl

/-- What is opened is not what is removed: the defaults file is no checkpoint, and the inputs
are kept. -/
theorem apart {removing opening : Request} {path removed : Path}
    (removes : removing.Considerate directory output inputs)
    (gone : removing.removed? = some removed)
    (opens : opening.Considerate directory output inputs) (opened : opening.opened? = some path) :
    path.same removed = false := by
  rcases removes.removes removed gone with ⟨checkpoint, rfl, free⟩
  rcases opens.opens path opened with rfl | input
  · refine Path.child_same_child _ _ (by decide) checkpoint.fileName_isPlain ?_
    cases checkpoint <;> decide
  · exact Bool.eq_false_iff.mpr (List.any_eq_false.mp free path input)

end Request.Considerate

theorem asks_removeAll_considerate (directory output : Path) (inputs : List Path)
    (checkpoints : List Checkpoint) :
    (Checkpoint.removeAll output inputs checkpoints).Asks
      (Request.Considerate directory output inputs) := by
  induction checkpoints with
  | nil => exact .pure ()
  | cons checkpoint rest inductionHypothesis =>
    refine .bind (.asking (.file (.fileExists _)) .ok (.aside rfl rfl)) fun present => ?_
    split
    next =>
      split
      next free =>
        refine .bind (.asking (.file (.remove _)) (fun answer => answer) ⟨nofun, ?_⟩) fun _ =>
          inductionHypothesis
        intro path same
        cases same
        exact ⟨checkpoint, rfl, (Bool.not_eq_true' _).mp free⟩
      next => exact inductionHypothesis
    next => exact inductionHypothesis

/-- A pipeline whose inputs are kept. -/
theorem asks_perform_considerate {run : RunContext} {invocation : Invocation}
    {directory output : Path} {inputs : List Path}
    (kept : ∀ input ∈ invocation.inputFiles, run.resolvePath input ∈ inputs) :
    (run.perform invocation false).Asks (Request.Considerate directory output inputs) := by
  refine .bind ?_ fun ⟨outcome, progress⟩ => ?_
  · intro trace outcome yields exchange member
    rcases (Action.yields_lift_iff _ _ _).mp yields with ⟨⟨result, after⟩, runs, _⟩
    have parallel : run.Parallel invocation 0 12 Eq (run.runPipeline invocation)
      (run.runPipeline invocation) := .runPipeline
    refine .of_careful ((parallel.opensInputs.1 _ _ _ _ rfl runs).1 exchange member) ?_
    rintro path ⟨input, listed, rfl⟩
    exact .inr (kept input listed)
  · cases outcome with
    | ok done => exact .pure ()
    | error failure =>
      exact (run.asks_failing _ failure).mono fun _ => Request.Considerate.of_keeps

section

variable {session : Session} {output : Path} {inputs : List Path}
  (placed : session.defaultsFile = session.directory.child defaultsFileName)

include placed

theorem asks_copyDefaults_considerate :
    (copyDefaults session output).Asks
      (Request.Considerate session.directory output inputs) := by
  refine .bind (.asking (.file (.fileExists _)) .ok (.aside rfl rfl)) fun present => ?_
  refine .ite ?_ (.pure ())
  split
  next => exact .pure ()
  next name named =>
    refine .bind (Action.Asks.attempt ?_) fun result => ?_
    · refine .bind (.asking (.file (.read _)) (fun answer => answer) ?_) fun text =>
        .asking (.file (.write _ _)) (fun answer => answer) (.aside rfl rfl)
      rw [placed]
      exact .defaults
    · cases result with
      | ok done => exact .pure ()
      | error failure => exact .asking (.note _) .ok (.aside rfl rfl)

/-- The pipeline of a fresh run is handed the inputs that the reset has kept. -/
theorem asks_carryOut_considerate (settings : Settings) (environment : Environment)
    (clearing : Bool) (fallback : Path) {command : EffectiveCommand} (invocation : Invocation)
    (runId : Option RunId) (fresh : command.resuming = false) :
    (carryOut settings environment session clearing fallback command invocation runId).Asks
      (Request.Considerate session.directory (command.paths session invocation fallback).output
        (invocation.inputFiles.map session.resolve)) := by
  have keeping {α : Type} {action : Action α} {log : SessionLog} (asks : action.Asks log.Keeps) :
      action.Asks (Request.Considerate session.directory
        (command.paths session invocation fallback).output
        (invocation.inputFiles.map session.resolve)) :=
    asks.mono fun _ => Request.Considerate.of_keeps
  refine .bind (.asking (.note _) .ok (.aside rfl rfl)) fun _ => .bind ?_ fun _ => ?_
  · refine .bind (.asking (.file (.makeDirectory _)) (fun answer => answer) (.aside rfl rfl))
      fun _ => .when (asks_removeAll_considerate _ _ _ _)
  refine .bind ?_ fun _ => .bind ?_ fun _ => ?_
  · rw [fresh]
    refine .bind (.when (keeping (SessionLog.asks_emptyLog _))) fun _ => ?_
    refine .bind (keeping (SessionLog.asks_raw _ _)) fun _ => ?_
    refine .bind (asks_copyDefaults_considerate placed) fun _ => ?_
    cases runId with
    | none => exact .pure ()
    | some id => exact .asking (.file (.append _ _)) (fun answer => answer) (.aside rfl rfl)
  · refine .ite (.bind (.ofExcept _) fun api => ?_) (keeping (SessionLog.asks_step _ _))
    refine .bind (.asking (.connect _) (fun answer => answer) (.aside rfl rfl)) fun _ => ?_
    rw [fresh]
    refine asks_perform_considerate fun input listed => ?_
    rw [RunContext.resolvePath, EffectiveCommand.paths, RunPaths.directory_resolve]
    exact List.mem_map_of_mem listed
  · refine .bind (.asking (.note _) .ok (.aside rfl rfl)) fun _ => ?_
    exact .bind (keeping (SessionLog.asks_close _)) fun _ => .pure exitSuccess

end

/-! ## Whole runs -/

theorem asks_loadSettings_careful (directory : Path) :
    (Settings.load directory).Asks
      (Request.Careful (· = directory.child defaultsFileName)) := by
  refine .bind (.asking (.file (.fileExists _)) .ok (.aside rfl rfl)) fun present => ?_
  refine .ite (.bind ?_ fun text => .ofExcept _) (.ofExcept _)
  exact .asking (.file (.read _)) (fun answer => answer) (.read rfl)

theorem asks_clearSessionLogs_careful (session : Session) (good : Path → Prop) :
    (clearSessionLogs session).Asks (Request.Careful good) := by
  refine (asks_clearSessionLogs session).mono ?_
  rintro asked (rfl | rfl | ⟨line, rfl⟩) <;> exact .aside rfl rfl

theorem asks_identify_careful (session : Session) {arguments : List String}
    (fresh : resumeToken ∉ arguments) (time : Instant) (good : Path → Prop) :
    (identify session (freshCommand arguments) time).Asks (Request.Careful good) := by
  intro trace outcome yields
  rcases yields_identify_fresh session fresh time yields with ⟨answer, rfl, _⟩
  exact List.forall_mem_singleton.mpr (.aside rfl rfl)

namespace Launch

variable {launch : Launch} {arguments : List String} {trace : List Exchange}
  {outcome : Except Failure Nat}

/-- A fresh run opens no more than the defaults file and removes nothing, or it comes to
carry out its invocation. -/
theorem careful_or_considerate (readable : launch.arguments.mapM readArgument = .ok arguments)
    (fresh : resumeToken ∉ arguments) (runs : launch.invoke.Yields trace outcome) :
    (∀ exchange ∈ trace,
      exchange.asked.Careful (· = launch.directory.child defaultsFileName)) ∨
    ∃ invocation paths front, front <+: trace ∧ launch.Resolves invocation paths front ∧
      Invocation.read (recordedTokens arguments) = .ok invocation ∧
      ∀ exchange ∈ trace, exchange.asked.Considerate launch.directory paths.output
        (invocation.inputFiles.map (absolutize launch.directory)) := by
  rcases (Action.yields_bind_iff _ _ _ _).mp runs with
    ⟨failure, failed, _⟩ | ⟨none, rest, parsed, rfl, parses, goesOn⟩
  · rw [((Action.yields_ofExcept_iff _ _ _).mp failed).1]
    exact .inl (List.forall_mem_nil _)
  rcases (Action.yields_ofExcept_iff _ _ _).mp parses with ⟨rfl, same⟩
  cases same.trans readable
  rw [List.nil_append]
  rcases (asks_loadSettings_careful launch.directory).yields_bind goesOn with
    all | ⟨loading, back, settings, rfl, before, loaded, ran⟩
  · exact .inl all
  have clears : (if arguments.contains clearLogsToken then
        clearSessionLogs (launch.session settings arguments) else return ()).Asks
      (Request.Careful (· = launch.directory.child defaultsFileName)) :=
    .when (asks_clearSessionLogs_careful _ _)
  rcases clears.yields_bind ran with all | ⟨cleared, last, _, rfl, emptied, clearing, looks⟩
  · exact .inl (List.forall_mem_append.mpr ⟨before, all⟩)
  rcases (Action.yields_asking_bind_iff .now _ _ _).mp looks with ⟨time, later, rfl, commands⟩
  have found := effectiveCommand_fresh (launch.session settings arguments)
    ⟨defaultDirectoryName time⟩ fresh
  have finds : (effectiveCommand (launch.session settings arguments) arguments
      ⟨defaultDirectoryName time⟩).Yields [] (.ok (freshCommand arguments)) := by
    rw [found]
    exact (Action.yields_pure_iff _ _ _).mpr ⟨rfl, rfl⟩
  have opening : ∀ exchange ∈ loading ++ (cleared ++ [⟨.now, time⟩]),
      exchange.asked.Careful (· = launch.directory.child defaultsFileName) :=
    List.forall_mem_append.mpr ⟨before, List.forall_mem_append.mpr
      ⟨emptied, List.forall_mem_singleton.mpr (.aside rfl rfl)⟩⟩
  have split : loading ++ (cleared ++ ⟨.now, time⟩ :: later) =
      loading ++ (cleared ++ [⟨.now, time⟩]) ++ later := by simp
  rw [split]
  change Action.Yields (effectiveCommand (launch.session settings arguments) arguments
    ⟨defaultDirectoryName time⟩ >>= _) _ _ at commands
  rw [found, pure_bind] at commands
  rcases yields_runCommand_or (.aside rfl rfl) (fun _ _ => .aside rfl rfl)
      (asks_identify_careful _ fresh time (· = launch.directory.child defaultsFileName)) commands
    with all | ⟨invocation, runId, identified, working, rfl, noted, read, carried⟩
  · exact .inl (List.forall_mem_append.mpr ⟨opening, all⟩)
  refine .inr ⟨invocation, _, _, List.prefix_append _ _,
    .intro readable loaded clearing finds read, read, ?_⟩
  have early : ∀ exchange : Exchange,
      exchange.asked.Careful (· = launch.directory.child defaultsFileName) →
      exchange.asked.Considerate launch.directory
        ((freshCommand arguments).paths (launch.session settings arguments) invocation
          ⟨defaultDirectoryName time⟩).output
        (invocation.inputFiles.map (absolutize launch.directory)) :=
    fun exchange careful => .of_careful careful fun _ => .inl
  have working := asks_carryOut_considerate rfl settings (readEnvironment launch.environment)
    (arguments.contains clearLogsToken) ⟨defaultDirectoryName time⟩ invocation runId rfl _ _ carried
  refine List.forall_mem_append.mpr ⟨fun exchange member => early exchange (opening exchange member),
    List.forall_mem_append.mpr ⟨fun exchange member => early exchange (noted exchange member),
      working⟩⟩

end Launch

/-! ## Resetting and reading -/

/-- Where nothing is refused, a reset removes exactly the checkpoints that are no inputs.  It
leaves every other file, so that what is left of the checkpoints is given, and there is
nothing more to remove.

A fresh run hands the reset every file that its command line names.  So of all that it
removes nothing is named on its command line, and nothing is opened by the run. -/
theorem reset_spares_inputs :
    (∀ (files : Files) (output : Path) (inputs : List Path) (trace : List Exchange)
        (outcome : Except Failure Unit),
      (Checkpoint.reset output inputs).Yields trace outcome → files.Serve [] trace →
      outcome = .ok () ∧
      (∀ path, textAfter path (files.text path) trace =
        if Checkpoint.isStale output inputs path then none else files.text path) ∧
      (∀ checkpoint reading found,
        inputs.any (fun input => input.same (Checkpoint.path output checkpoint)) = false →
        (Checkpoint.read output checkpoint).Yields reading found → files.Serve trace reading →
        found = .ok []) ∧
      ∀ again ended, (Checkpoint.reset output inputs).Yields again ended →
        files.Serve trace again → ended = .ok () ∧
          ∀ path, textAfter path (files.text path) (trace ++ again) =
            textAfter path (files.text path) trace) ∧
    (∀ (tokens : List String) (invocation : Invocation) (session : Session) (output : Path),
      Invocation.read tokens = .ok invocation →
      ∃ inputs, prepareOutput session invocation false output =
          (Action.makeDirectory output >>= fun _ => Checkpoint.reset output inputs) ∧
        ∀ path, NamesFile tokens path → session.resolve path ∈ inputs) ∧
    ∀ (launch : Launch) (arguments : List String) (trace : List Exchange)
        (outcome : Except Failure Nat),
      launch.arguments.mapM readArgument = .ok arguments → resumeToken ∉ arguments →
      launch.invoke.Yields trace outcome →
      ∀ exchange ∈ trace, ∀ removed, exchange.asked.removed? = some removed →
        (∃ invocation paths front checkpoint, front <+: trace ∧
          launch.Resolves invocation paths front ∧
          removed = Checkpoint.path paths.output checkpoint) ∧
        (∀ path, NamesFile (recordedTokens arguments) path →
          (absolutize launch.directory path).same removed = false) ∧
        ∀ other ∈ trace, ∀ path, other.asked.opened? = some path → path.same removed = false := by
  refine ⟨fun files output inputs trace outcome yields serve => ?_,
    fun tokens invocation session output read => ?_,
    fun launch arguments trace outcome readable fresh runs exchange member removed gone => ?_⟩
  · rcases files.reset yields serve with ⟨done, left⟩
    refine ⟨done, left, fun checkpoint reading found free reads serves => ?_,
      fun again ended resets serves => ?_⟩
    · refine Files.read_of_missing ?_ reads serves
      have stale : Checkpoint.isStale output inputs (Checkpoint.path output checkpoint) = true := by
        rw [Checkpoint.isStale_path, free]
        rfl
      exact (left _).trans (if_pos stale)
    · rcases files.reset resets serves with ⟨done, still⟩
      refine ⟨done, fun path => ?_⟩
      have before : textAfter path (files.text path) trace =
          if Checkpoint.isStale output inputs path then none else files.text path := left path
      rw [still, before]
      split <;> rfl
  · refine ⟨invocation.inputFiles.map session.resolve, rfl, fun path names => ?_⟩
    exact List.mem_map_of_mem ((Invocation.mem_inputFiles_iff read path).mpr names)
  · rcases Launch.careful_or_considerate readable fresh runs with
      careful | ⟨invocation, paths, front, begins, resolves, read, considerate⟩
    · cases (careful exchange member).removes.symm.trans gone
    · rcases (considerate exchange member).removes removed gone with ⟨checkpoint, placed, free⟩
      refine ⟨⟨invocation, paths, front, checkpoint, begins, resolves, placed⟩,
        fun path names => ?_, fun other listed path opened => ?_⟩
      · have named := (Invocation.mem_inputFiles_iff read path).mpr names
        exact Bool.eq_false_iff.mpr (List.any_eq_false.mp free _ (List.mem_map_of_mem named))
      · exact (considerate exchange member).apart gone (considerate other listed) opened

/-! ## Models in a directory that is used again -/

/-- Identifiers of models and of a dataset from an earlier run. -/
def earlierFiles : Files :=
  (FileStore.ofFiles [(⟨"/work/out/models"⟩, "model/000000000000000000000001\n"),
    (⟨"/work/out/dataset"⟩, "dataset/000000000000000000000002\n")]).contents

/-- A reset that is given the models as an input. -/
def modelsReset : List Exchange × Except Failure Unit :=
  (Checkpoint.reset ⟨"/work/out"⟩ [⟨"/work/./out//models"⟩]).run.record
    (reportedAnswer earlierFiles.text) []

/-- Reading a checkpoint behind the reset. -/
def datasetRead : List Exchange × Except Failure (List ResourceId) :=
  (Checkpoint.read ⟨"/work/out"⟩ .dataset).run.record (reportedAnswer earlierFiles.text)
    modelsReset.1

def modelsResetAgain : List Exchange × Except Failure Unit :=
  (Checkpoint.reset ⟨"/work/out"⟩ [⟨"/work/./out//models"⟩]).run.record
    (reportedAnswer earlierFiles.text) modelsReset.1

def modelsArguments : List String :=
  ["bigmler", "--models", "./out//models", "--output-dir", "out"]

/-- A run that takes its models from the directory that it works in. -/
def modelsLaunch : Launch :=
  ⟨modelsArguments.map encodeUtf8, [usernameVariable, apiKeyVariable].map fun name =>
    (encodeUtf8 name, encodeUtf8 "alice"), ⟨"/work"⟩⟩

def modelsRun : List Exchange × Except Failure Nat :=
  modelsLaunch.invoke.run.record (timedAnswer earlierFiles.text ⟨0⟩) []

/-- A recorded run is served by the files, unless something is refused. -/
theorem serve_of_record {α : Type} (action : Action α) (earlier : List Exchange)
    (granted : ∀ exchange ∈ (action.run.record (reportedAnswer earlierFiles.text) earlier).1,
      exchange.failure? = none) :
    earlierFiles.Serve earlier (action.run.record (reportedAnswer earlierFiles.text) earlier).1 :=
  ⟨(Program.throughout_record (reportedAnswer earlierFiles.text) action.run earlier).mono
    fun _ _ => Exchange.tells_of_reportedAnswer, granted⟩

theorem modelsReset_granted :
    ∀ exchange ∈ modelsReset.1 ++ (datasetRead.1 ++ modelsResetAgain.1),
      exchange.failure? = none := by
  decide +kernel

theorem modelsRun_facts :
    modelsLaunch.arguments.mapM readArgument = .ok modelsArguments ∧
    (∃ exchange ∈ modelsRun.1, exchange.asked.removed? = some ⟨"/work/out/dataset"⟩) ∧
    (∃ exchange ∈ modelsRun.1, exchange.asked.opened? = some ⟨"/work/./out//models"⟩) := by
  decide +kernel

/-- The dataset is removed, and the models are read, under another spelling. -/
theorem reset_spares_models :
    (modelsReset.2 = .ok () ∧
      textAfter ⟨"/work/out/dataset"⟩ (earlierFiles.text ⟨"/work/out/dataset"⟩) modelsReset.1 =
        none ∧
      textAfter ⟨"/work/out/models"⟩ (earlierFiles.text ⟨"/work/out/models"⟩) modelsReset.1 =
        some "model/000000000000000000000001\n" ∧
      datasetRead.2 = .ok [] ∧ modelsResetAgain.2 = .ok ()) ∧
    (∃ invocation, Invocation.read (recordedTokens modelsArguments) = .ok invocation ∧
      NamesFile (recordedTokens modelsArguments) ⟨"./out//models"⟩ ∧
      ∃ inputs, prepareOutput (modelsLaunch.session {} modelsArguments) invocation false
          ⟨"/work/out"⟩ = (Action.makeDirectory ⟨"/work/out"⟩ >>= fun _ =>
            Checkpoint.reset ⟨"/work/out"⟩ inputs) ∧
        ⟨"/work/./out//models"⟩ ∈ inputs) ∧
    modelsLaunch.invoke.Yields modelsRun.1 modelsRun.2 ∧
      (∃ exchange ∈ modelsRun.1, exchange.asked.removed? = some ⟨"/work/out/dataset"⟩) ∧
      (∃ exchange ∈ modelsRun.1, exchange.asked.opened? = some ⟨"/work/./out//models"⟩) ∧
      (⟨"/work/./out//models"⟩ : Path).same ⟨"/work/out/dataset"⟩ = false := by
  refine ⟨?_, ?_, ?_⟩
  · rcases List.forall_mem_append.mp modelsReset_granted with ⟨first, later⟩
    rcases List.forall_mem_append.mp later with ⟨second, third⟩
    have resets := Action.yields_record (reportedAnswer earlierFiles.text)
      (Checkpoint.reset ⟨"/work/out"⟩ [⟨"/work/./out//models"⟩]) [] rfl
    rcases reset_spares_inputs.1 earlierFiles _ _ _ _ resets (serve_of_record _ _ first) with
      ⟨done, left, empty, again⟩
    have stale : Checkpoint.isStale ⟨"/work/out"⟩ [⟨"/work/./out//models"⟩]
        ⟨"/work/out/dataset"⟩ = true := by decide +kernel
    have spared : ¬Checkpoint.isStale ⟨"/work/out"⟩ [⟨"/work/./out//models"⟩]
        ⟨"/work/out/models"⟩ = true := by decide +kernel
    have held : earlierFiles.text ⟨"/work/out/models"⟩ =
        some "model/000000000000000000000001\n" := by decide +kernel
    refine ⟨done, (left _).trans (if_pos stale), (left _).trans ((if_neg spared).trans held),
      ?_, ?_⟩
    · exact empty .dataset _ _ (by decide +kernel)
        (Action.yields_record (reportedAnswer earlierFiles.text) _ _ rfl)
        (serve_of_record _ _ second)
    · exact (again _ _ (Action.yields_record (reportedAnswer earlierFiles.text) _ _ rfl)
        (serve_of_record _ _ third)).1
  · have listed : (Invocation.read (recordedTokens modelsArguments)).toOption.map
        (·.inputFiles) = some [⟨"./out//models"⟩] := by decide +kernel
    cases read : Invocation.read (recordedTokens modelsArguments) with
    | error failure =>
      rw [read] at listed
      cases listed
    | ok invocation =>
      rw [read] at listed
      have names : NamesFile (recordedTokens modelsArguments) ⟨"./out//models"⟩ := by
        have inputs : invocation.inputFiles = [⟨"./out//models"⟩] := Option.some.inj listed
        rw [← Invocation.mem_inputFiles_iff read, inputs]
        exact List.mem_singleton_self _
      rcases reset_spares_inputs.2.1 _ _ (modelsLaunch.session {} modelsArguments) ⟨"/work/out"⟩
        read with ⟨inputs, prepares, given⟩
      exact ⟨invocation, rfl, names, inputs, prepares, given _ names⟩
  · rcases modelsRun_facts with ⟨readable, ⟨removing, member, gone⟩, ⟨reading, listed, opened⟩⟩
    have runs : modelsLaunch.invoke.Yields modelsRun.1 modelsRun.2 :=
      Action.yields_record (timedAnswer earlierFiles.text ⟨0⟩) modelsLaunch.invoke [] rfl
    have spares := (reset_spares_inputs.2.2 _ _ _ _ readable (by decide) runs removing member _
      gone).2.2
    exact ⟨runs, ⟨removing, member, gone⟩, ⟨reading, listed, opened⟩,
      spares reading listed _ opened⟩

end ModelRuns
