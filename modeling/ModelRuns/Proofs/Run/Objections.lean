import ModelRuns.Proofs.Pipeline.Stages
import ModelRuns.Proofs.Run.Rejected

namespace ModelRuns

open Stateful

/-!
# Where objections come from

The options of an invocation are checked before anything is asked of the service.  Two more
objections are raised in the stage of the datasets, behind a look at a dataset: to new
fields that are no document, and to an objective that is no categorical field.

All other parts of a run fail in other ways, or hand on what an answer brings.
`Action.Objects` says where an objection that ends an action comes from.
-/

/-! ## Computations that raise no objections -/

/-- The computation may fail, but not with an objection. -/
def Unobjecting {α : Type} (result : Except Failure α) : Prop :=
  ∀ cause, result ≠ .error (.objection cause)

namespace Unobjecting

variable {α β : Type}

theorem ok (value : α) : Unobjecting (.ok value) := fun _ impossible => nomatch impossible

theorem bind {result : Except Failure α} {next : α → Except Failure β}
    (first : Unobjecting result) (second : ∀ value, Unobjecting (next value)) :
    Unobjecting (result >>= next) := by
  cases result with
  | ok value => exact second value
  | error failure =>
    rintro cause ⟨⟩
    exact first cause rfl

theorem mapM {read : β → Except Failure α} (each : ∀ item, Unobjecting (read item))
    (items : List β) : Unobjecting (items.mapM read) := by
  induction items with
  | nil => exact .ok []
  | cons item rest inductionHypothesis =>
    rw [List.mapM_cons]
    exact .bind (each item) fun value => .bind inductionHypothesis fun values => .ok _

theorem readArgument (argument : RawText) : Unobjecting (ModelRuns.readArgument argument) := by
  intro cause failed
  unfold ModelRuns.readArgument at failed
  split at failed <;> cases failed

theorem settingsOfText (text : String) : Unobjecting (Settings.ofText text) := by
  intro cause failed
  unfold Settings.ofText at failed
  split at failed <;> cases failed

theorem checkSettings (settings : Settings) : Unobjecting settings.check := by
  intro cause failed
  unfold Settings.check at failed
  repeat' split at failed
  all_goals cases failed

theorem settingsOfDefaults (text : Option String) : Unobjecting (Settings.ofDefaults text) := by
  refine .bind ?_ fun settings => .bind (checkSettings settings) fun _ => .ok settings
  cases text with
  | none => exact .ok ({} : Settings)
  | some text => exact settingsOfText text

theorem firstSet (values : List (Option String)) (missing : String) :
    Unobjecting (ModelRuns.firstSet values missing) := by
  intro cause failed
  unfold ModelRuns.firstSet at failed
  repeat' split at failed
  all_goals cases failed

theorem resolveApi (settings : Settings) (environment : Environment)
    (username apiKey : Option String) :
    Unobjecting (settings.resolveApi environment username apiKey) :=
  .bind (firstSet _ _) fun _ => .bind (firstSet _ _) fun _ => .ok _

theorem parseId (text : String) : Unobjecting (ResourceId.parse text) := by
  intro cause failed
  unfold ResourceId.parse at failed
  dsimp only at failed
  repeat' split at failed
  all_goals cases failed

theorem parseKind (text : String) (kind : ResourceKind) :
    Unobjecting (ResourceId.parseKind text kind) := by
  intro cause failed
  unfold ResourceId.parseKind at failed
  split at failed
  next failure parsed =>
    cases failed
    exact parseId text cause parsed
  next id _ => split at failed <;> cases failed

theorem idsOfText (kind : ResourceKind) (text : String) :
    Unobjecting (RunContext.idsOfText kind text) :=
  mapM (fun line => parseKind line kind) _

theorem checkpointOfText (file : Path) (text : String) :
    Unobjecting (Checkpoint.ofText file text) := by
  refine mapM (fun line => ?_) _
  intro cause failed
  split at failed <;> cases failed

theorem parseResource (body : Json) : Unobjecting (Resource.parse body) := by
  intro cause failed
  unfold Resource.parse at failed
  repeat' split at failed
  all_goals cases failed
  exact parseId _ cause (by assumption)

end Unobjecting

/-! ## Objections behind a look at a dataset -/

/-- An objection that is raised behind these exchanges.  A dataset was found by then. -/
inductive RaisesLate (directory : Path) (invocation : Invocation) (earlier : List Exchange) :
    Objection → Prop
  | newFields (path : Path) (text : String) (error : JsonError) (dataset : Resource)
      (named : invocation.common.newFields = some path) (got : Got earlier dataset)
      (read : earlier.getLast? = some ⟨.file (.read (absolutize directory path)), .ok text⟩)
      (malformed : Json.read text = .error error) :
      RaisesLate directory invocation earlier (.invalidValue
        ((absolutize directory path).text ++ " is not valid JSON: " ++ error.message))
  | objective {cause : Objection} (options : MainOptions) (limit : CategoryLimit)
      (dataset : Resource) (main : invocation = .main options)
      (limited : options.categoryLimit = some limit) (got : Got earlier dataset)
      (unfit : objectiveCategories dataset limit.objective = .error (.objection cause)) :
      RaisesLate directory invocation earlier cause

theorem RaisesLate.called {directory : Path} {invocation : Invocation} {earlier : List Exchange}
    {cause : Objection} (raised : RaisesLate directory invocation earlier cause) :
    ∃ exchange ∈ earlier, exchange.asked.IsCall := by
  have looked : ∀ dataset, Got earlier dataset → ∃ exchange ∈ earlier, exchange.asked.IsCall :=
    fun _ ⟨_, _, _, member⟩ => ⟨_, member, trivial⟩
  cases raised with
  | newFields path text error dataset named got read malformed => exact looked dataset got
  | objective options limit dataset main limited got unfit => exact looked dataset got

/-- Of the checks of the pipeline no others object. -/
theorem RunContext.Faults.raisesLate {run : RunContext} {invocation : Invocation}
    {earlier : List Exchange} {cause : Objection}
    (fault : run.Faults invocation earlier (.objection cause)) :
    RaisesLate run.paths.directory invocation earlier cause := by
  cases fault with
  | identifier stage kind text named entered malformed =>
    exact absurd malformed (Unobjecting.parseKind text kind cause)
  | identifiers path kind text read malformed =>
    exact absurd malformed (Unobjecting.idsOfText kind text cause)
  | checkpoint checkpoint text read malformed =>
    exact absurd malformed (Unobjecting.checkpointOfText _ text cause)
  | newFields path text error dataset named got read malformed =>
    exact .newFields path text error dataset named got read malformed
  | objective options limit dataset front source training main limited got first trained unfit =>
    exact .objective options limit dataset main limited got unfit
  | cluster path text body read document malformed =>
    exact absurd malformed (Unobjecting.parseResource body cause)

theorem RunPaths.directory_resolve (directory : Path) (output predictions : Option Path)
    (defaultName : String) (fallback : Path) :
    (RunPaths.resolve directory output predictions defaultName fallback).directory = directory := by
  unfold RunPaths.resolve
  dsimp only
  repeat' split
  all_goals rfl

/-! ## Actions -/

namespace Action

variable {α β : Type}

/-- An objection that ends the action is brought by an answer, or raised behind a part of
its trace. -/
def Objects (raised : List Exchange → Objection → Prop) (action : Action α) : Prop :=
  ∀ trace cause, action.Yields trace (.error (.objection cause)) →
    (∃ exchange ∈ trace, exchange.failure? = some (.objection cause)) ∨
      ∃ part, part <:+: trace ∧ raised part cause

/-- An action that does not fail goes before another one. -/
theorem yields_lift_bind {program : Program β} {next : β → Action α} {trace : List Exchange}
    {outcome : Except Failure α} (yields : Yields (ExceptT.lift program >>= next) trace outcome) :
    ∃ front back value, trace = front ++ back ∧ program.Runs front value ∧
      (next value).Yields back outcome := by
  rcases (yields_bind_iff _ _ _ _).mp yields with
    ⟨failure, failed, _⟩ | ⟨front, back, value, rfl, lifted, rest⟩
  · rcases (yields_lift_iff _ _ _).mp failed with ⟨_, _, impossible⟩
    cases impossible
  · rcases (yields_lift_iff _ _ _).mp lifted with ⟨_, runs, same⟩
    cases same
    exact ⟨front, back, value, rfl, runs, rest⟩

namespace Objects

variable {raised : List Exchange → Objection → Prop}

theorem pure (value : α) : Objects raised (Pure.pure value : Action α) := by
  intro trace cause yields
  rcases (yields_pure_iff _ _ _).mp yields with ⟨_, impossible⟩
  cases impossible

theorem ofExcept {result : Except Failure α} (silent : Unobjecting result) :
    Objects raised (Action.ofExcept result) := by
  intro trace cause yields
  exact absurd ((yields_ofExcept_iff _ _ _).mp yields).2.symm (silent cause)

theorem bind {action : Action α} {next : α → Action β} (first : action.Objects raised)
    (second : ∀ value, (next value).Objects raised) : (action >>= next).Objects raised := by
  intro trace cause yields
  rcases (yields_bind_iff _ _ _ _).mp yields with
    ⟨failure, failed, same⟩ | ⟨front, back, value, rfl, _, ended⟩
  · cases same
    exact first trace cause failed
  · rcases second value back cause ended with ⟨exchange, member, brings⟩ | ⟨part, inside, late⟩
    · exact .inl ⟨exchange, List.mem_append_right front member, brings⟩
    · exact .inr ⟨part, inside.trans (List.suffix_append front back).isInfix, late⟩

/-- One request, whose failure is handed on. -/
theorem asking (asked : Request) (finish : asked.Answer → Except Failure α)
    (handsOn : ∀ answer failure, finish answer = .error failure →
      Exchange.failure? ⟨asked, answer⟩ = some failure) :
    Objects raised (Action.asking asked finish) := by
  intro trace cause yields
  rcases (yields_asking_iff _ _ _ _).mp yields with ⟨answer, rfl, failed⟩
  exact .inl ⟨_, List.mem_singleton_self _, handsOn answer _ failed.symm⟩

theorem lift (program : Program α) : Objects raised (ExceptT.lift program : Action α) := by
  intro trace cause yields
  rcases (yields_lift_iff _ _ _).mp yields with ⟨_, _, impossible⟩
  cases impossible

theorem ite {condition : Prop} [Decidable condition] {first second : Action α}
    (whenTrue : first.Objects raised) (whenFalse : second.Objects raised) :
    Objects raised (if condition then first else second) := by
  split
  · exact whenTrue
  · exact whenFalse

theorem when {condition : Bool} {action : Action Unit} (objects : action.Objects raised) :
    (Action.when condition action).Objects raised := .ite objects (.pure ())

theorem throw {failure : Failure} (other : ∀ cause, failure ≠ .objection cause) :
    Objects raised (throw failure : Action α) := by
  intro trace cause yields
  rcases (yields_throw_iff _ _ _).mp yields with ⟨_, same⟩
  cases same
  exact absurd rfl (other cause)

/-! ## Up to the pipeline -/

theorem appendLine (path : Path) (line : String) :
    Objects raised (Action.appendLine path line) :=
  .asking (.file (.append path line)) (fun answer => answer) fun _ _ failed => by cases failed; rfl

theorem readText (path : Path) : Objects raised (Action.readText path) :=
  .asking (.file (.read path)) (fun answer => answer) fun _ _ failed => by cases failed; rfl

theorem loadSettings (directory : Path) : Objects raised (Settings.load directory) := by
  refine .bind (.lift _) fun present => .ite ?_ (.ofExcept (.settingsOfDefaults _))
  exact .bind (.readText _) fun text => .ofExcept (.settingsOfDefaults _)

theorem clearSessionLogs (session : Session) : Objects raised (ModelRuns.clearSessionLogs session) := by
  refine .bind (.lift _) fun cleared => .when ?_
  exact .asking (.printErrorLine _) (fun answer => answer) fun _ _ failed => by cases failed; rfl

theorem blameLog (path : Path) (action : Action α) : Objects raised (ModelRuns.blameLog path action) := by
  intro trace cause yields
  rcases (yields_blameLog_iff _ _ _ _).mp yields with ⟨result, _, same⟩
  cases result with
  | ok value => cases same
  | error failure => cases same

theorem recalling (session : Session) (current : List String) (default : Path) :
    Objects raised (session.recall current default) := by
  refine .bind (.blameLog _ _) fun records => ?_
  split
  next => exact .throw nofun
  next last _ =>
    refine .ite (.bind (.throw nofun) fun _ => ?_) ?_ <;>
      exact .bind (.blameLog _ _) fun _ => .pure _

theorem effectiveCommand (session : Session) (arguments : List String) (fallback : Path) :
    Objects raised (ModelRuns.effectiveCommand session arguments fallback) :=
  .ite (.bind (.recalling _ _ _) fun _ => .pure _) (.pure _)

theorem identify (session : Session) (command : EffectiveCommand) (time : Instant) :
    Objects raised (ModelRuns.identify session command time) := by
  refine .ite (.pure _) (.bind ?_ fun _ => .pure _)
  exact .ite (.pure _) (.bind (.appendLine _ _) fun _ => .pure _)

theorem prepareOutput (session : Session) (invocation : Invocation) (resuming : Bool)
    (output : Path) :
    Objects raised (ModelRuns.prepareOutput session invocation resuming output) := by
  have removes : ∀ inputs checkpoints,
      Objects raised (Checkpoint.removeAll output inputs checkpoints) := by
    intro inputs checkpoints
    induction checkpoints with
    | nil => exact .pure ()
    | cons checkpoint rest inductionHypothesis =>
      refine .bind (.lift _) fun present => ?_
      refine .ite (.ite (.bind ?_ fun _ => inductionHypothesis) inductionHypothesis)
        inductionHypothesis
      exact .asking (.file (.remove _)) (fun answer => answer) fun _ _ failed => by cases failed; rfl
  refine .bind ?_ fun _ => .when (removes _ _)
  exact .asking (.file (.makeDirectory _)) (fun answer => answer) fun _ _ failed => by
    cases failed; rfl

theorem step (log : SessionLog) (message : String) : Objects raised (log.step message) := by
  refine .bind (.lift _) fun time => .bind (.appendLine _ _) fun _ => .ite ?_ (.pure ())
  exact .asking (.printLine _) (fun answer => answer) fun _ _ failed => by cases failed; rfl

theorem copyDefaults (session : Session) (output : Path) :
    Objects raised (ModelRuns.copyDefaults session output) := by
  refine .bind (.lift _) fun present => .ite ?_ (.pure ())
  split
  next => exact .pure ()
  next =>
    refine .bind (.lift _) fun result => ?_
    cases result with
    | ok done => exact .pure ()
    | error failure => exact .lift _

theorem beginLog (session : Session) (log : SessionLog) (clearing resuming : Bool)
    (command : String) (runId : Option RunId) (output : Path) :
    Objects raised (ModelRuns.beginLog session log clearing resuming command runId output) := by
  refine .bind (.when (.bind (.lift _) fun result => ?_)) fun _ => .ite (.step _ _) ?_
  · cases result with
    | ok done => exact .pure ()
    | error failure => exact .lift _
  refine .bind (.appendLine _ _) fun _ => .bind (.copyDefaults _ _) fun _ => ?_
  cases runId with
  | none => exact .pure ()
  | some id => exact .appendLine _ _

/-! ## The pipeline -/

/-- A pipeline that has failed says so, and hands its failure on. -/
theorem perform {run : RunContext} {directory : Path} (place : run.paths.directory = directory)
    (invocation : Invocation) (resuming : Bool) :
    (run.perform invocation resuming).Objects (RaisesLate directory invocation) := by
  subst place
  intro trace cause yields
  rcases yields_lift_bind yields with ⟨calls, back, ⟨result, progress⟩, rfl, goes, rest⟩
  cases result with
  | ok done =>
    rcases (yields_pure_iff _ _ _).mp rest with ⟨_, impossible⟩
    cases impossible
  | error failure =>
    rcases yields_lift_bind rest with ⟨_, _, _, rfl, _, said⟩
    rcases yields_lift_bind said with ⟨_, _, _, rfl, _, closed⟩
    rcases yields_lift_bind closed with ⟨_, _, _, rfl, _, thrown⟩
    rcases (yields_throw_iff _ _ _).mp thrown with ⟨_, same⟩
    cases same
    cases ((RunContext.course goes).failed _ rfl).1 with
    | answered granted brings noted =>
      refine .inl ⟨_, List.mem_append_left _ ?_, brings⟩
      exact List.mem_append_right _ List.mem_cons_self
    | checked granted fault noted =>
      refine .inr ⟨_, ?_, fault.raisesLate⟩
      rw [List.append_assoc]
      exact (List.prefix_append _ _).isInfix

theorem carryOut (settings : Settings) (environment : Environment) (session : Session)
    (clearing : Bool) (fallback : Path) (command : EffectiveCommand) (invocation : Invocation)
    (runId : Option RunId) :
    (ModelRuns.carryOut settings environment session clearing fallback command invocation
      runId).Objects (RaisesLate session.directory invocation) := by
  refine .bind (.lift _) fun _ => .bind (.prepareOutput _ _ _ _) fun _ => ?_
  refine .bind (.beginLog _ _ _ _ _ _ _) fun _ => .bind ?_ fun _ => ?_
  · refine .ite (.bind (.ofExcept (.resolveApi _ _ _ _)) fun api => .bind ?_ fun _ => ?_) (.step _ _)
    · exact .asking (.connect _) (fun answer => answer) fun _ _ failed => by cases failed; rfl
    · refine .perform ?_ invocation command.resuming
      exact RunPaths.directory_resolve _ _ _ _ _
  · exact .bind (.lift _) fun _ => .bind (.appendLine _ _) fun _ => .pure exitSuccess

end Objects

end Action

/-! ## Whole invocations -/

section

variable {trace : List Exchange} {cause : Objection}
  (own : ∀ exchange ∈ trace, ∀ other, exchange.failure? ≠ some (.objection other))

include own

/-- An objection that no answer brings is raised. -/
theorem Action.Objects.raises {α : Type} {action : Action α}
    {raised : List Exchange → Objection → Prop} (objects : action.Objects raised)
    (yields : action.Yields trace (.error (.objection cause))) :
    ∃ part, part <:+: trace ∧ raised part cause :=
  (objects trace cause yields).resolve_left fun ⟨exchange, member, brings⟩ =>
    own exchange member cause brings

/-- An action that raises nothing does not end with an objection. -/
theorem Action.not_objects {α : Type} {action : Action α}
    (objects : ∀ raised, action.Objects raised) :
    ¬action.Yields trace (.error (.objection cause)) := by
  intro yields
  rcases (objects fun _ _ => False).raises own yields with ⟨_, _, impossible⟩
  exact impossible

/-- The objection is the one to the options, or comes late. -/
theorem objection_runInvocation {settings : Settings} {environment : Environment}
    {session : Session} {clearing : Bool} {time : Instant} {fallback : Path}
    {command : EffectiveCommand} {invocation : Invocation}
    (yields : (runInvocation settings environment session clearing time fallback command
      invocation).Yields trace (.error (.objection cause))) :
    (invocation.check = .error cause ∧ ∀ exchange ∈ trace, ¬exchange.asked.IsCall) ∨
      (invocation.check = .ok () ∧
        ∃ part, part <:+: trace ∧ RaisesLate session.directory invocation part cause) := by
  have opens : ∀ raised file debug, (Action.openRunLog file debug).Objects raised :=
    fun _ _ _ => .asking (.openRunLog _ _) (fun answer => answer) fun _ _ failed => by
      cases failed
      rfl
  rcases (Action.yields_bind_iff _ _ _ _).mp yields with
    ⟨failure, refused, same⟩ | ⟨front, back, _, rfl, opened, rest⟩
  · cases same
    exact absurd refused (Action.not_objects own fun raised => opens raised _ _)
  rcases (Action.yields_asking_iff (.openRunLog _ _) id _ _).mp opened with ⟨answer, rfl, _⟩
  have later : ∀ exchange ∈ back, ∀ other, exchange.failure? ≠ some (.objection other) :=
    fun exchange member => own exchange (List.mem_append_right _ member)
  rcases (Action.yields_bind_iff _ _ _ _).mp rest with
    ⟨failure, failed, same⟩ | ⟨none, last, _, rfl, passed, goesOn⟩
  · cases same
    rcases (Action.yields_ofExcept_iff _ _ _).mp failed with ⟨rfl, objected⟩
    cases checked : invocation.check with
    | ok done =>
      rw [checked] at objected
      cases objected
    | error other =>
      rw [checked] at objected
      cases objected
      exact .inl ⟨rfl, List.forall_mem_singleton.mpr id⟩
  · rcases (Action.yields_ofExcept_iff _ _ _).mp passed with ⟨rfl, accepted⟩
    cases checked : invocation.check with
    | error other =>
      rw [checked] at accepted
      cases accepted
    | ok done =>
      have carries : (identify session command time >>= fun runId =>
          carryOut settings environment session clearing fallback command invocation
            runId).Objects (RaisesLate session.directory invocation) :=
        .bind (.identify _ _ _) fun _ => .carryOut _ _ _ _ _ _ _ _
      rcases carries.raises later goesOn with ⟨part, inside, raised⟩
      exact .inr ⟨rfl, part, inside.trans (List.suffix_append _ _).isInfix, raised⟩

end

/-- The invocation that a run has read behind a part of its trace. -/
inductive Launch.Reads (launch : Launch) (invocation : Invocation) : List Exchange → Prop
  | intro {arguments : List String} {settings : Settings} {time : Instant}
      {command : EffectiveCommand} {loading cleared finding : List Exchange}
      (readable : launch.arguments.mapM readArgument = .ok arguments)
      (loaded : (Settings.load launch.directory).Yields loading (.ok settings))
      (clears : (Action.when (arguments.contains clearLogsToken)
        (clearSessionLogs (launch.session settings arguments))).Yields cleared (.ok ()))
      (found : (effectiveCommand (launch.session settings arguments) arguments
        ⟨defaultDirectoryName time⟩).Yields finding (.ok command))
      (read : Invocation.read command.tokens = .ok invocation) :
      launch.Reads invocation (loading ++ (cleared ++ ⟨.now, time⟩ :: finding))

theorem Request.Inert.not_isCall {asked : Request} (inert : asked.Inert) : ¬asked.IsCall := by
  cases asked with
  | api request => exact absurd inert id
  | _ => exact id

theorem Launch.Reads.uncalled {launch : Launch} {invocation : Invocation} {front : List Exchange}
    (reads : launch.Reads invocation front) : ∀ exchange ∈ front, ¬exchange.asked.IsCall := by
  cases reads with
  | @intro arguments settings time command loading cleared finding readable loaded clears found read =>
    have clearing : (Action.when (arguments.contains clearLogsToken)
        (clearSessionLogs (launch.session settings arguments))).Asks (¬·.IsCall) := by
      refine .when ((asks_clearSessionLogs _).mono fun asked empties => ?_)
      rcases empties with rfl | rfl | ⟨line, rfl⟩ <;> exact id
    have looking : ∀ exchange ∈ ⟨.now, time⟩ :: finding, ¬exchange.asked.IsCall :=
      List.forall_mem_cons.mpr ⟨id, fun exchange member =>
        (inert_finding found exchange member).not_isCall⟩
    exact List.forall_mem_append.mpr
      ⟨fun exchange member => (inert_loading loaded exchange member).not_isCall,
        List.forall_mem_append.mpr ⟨clearing _ _ clears, looking⟩⟩

/-- A run that ends with an objection of its own ends with the one to its options, and asks
nothing of the service.  Or there is none, and the objection is raised to new fields or an
objective behind a look at a dataset. -/
theorem Launch.objection_uncalled_or_late {launch : Launch} {trace : List Exchange}
    {cause : Objection} (runs : launch.invoke.Yields trace (.error (.objection cause)))
    (own : ∀ exchange ∈ trace, ∀ other, exchange.failure? ≠ some (.objection other)) :
    ∃ invocation front, front <+: trace ∧ launch.Reads invocation front ∧
      ((invocation.check = .error cause ∧ ∀ exchange ∈ trace, ¬exchange.asked.IsCall) ∨
        (invocation.check = .ok () ∧ (∃ exchange ∈ trace, exchange.asked.IsCall) ∧
          ∃ part, part <:+: trace ∧ RaisesLate launch.directory invocation part cause)) := by
  rcases (Action.yields_bind_iff _ _ _ _).mp runs with
    ⟨failure, failed, same⟩ | ⟨none, rest, arguments, rfl, parsed, goesOn⟩
  · cases same
    have silent : Unobjecting (launch.arguments.mapM readArgument) := .mapM .readArgument _
    exact absurd failed (Action.not_objects own fun _ => .ofExcept silent)
  rcases (Action.yields_ofExcept_iff _ _ _).mp parsed with ⟨rfl, readable⟩
  rw [List.nil_append] at own ⊢
  rcases (Action.yields_bind_iff _ _ _ _).mp goesOn with
    ⟨failure, failed, same⟩ | ⟨loading, back, settings, rfl, loaded, ran⟩
  · cases same
    exact absurd failed (Action.not_objects own fun _ => .loadSettings _)
  have later : ∀ exchange ∈ back, ∀ other, exchange.failure? ≠ some (.objection other) :=
    fun exchange member => own exchange (List.mem_append_right loading member)
  rcases yields_runArguments ran with
    ⟨failure, failed, same⟩ | ⟨cleared, time, last, rfl, clears, commands⟩
  · cases same
    exact absurd failed (Action.not_objects later fun _ => .when (.clearSessionLogs _))
  have behind : ∀ exchange ∈ last, ∀ other, exchange.failure? ≠ some (.objection other) :=
    fun exchange member =>
      later exchange (List.mem_append_right cleared (List.mem_cons_of_mem _ member))
  rcases (Action.yields_bind_iff _ _ _ _).mp commands with
    ⟨failure, failed, same⟩ | ⟨finding, working, command, rfl, found, works⟩
  · cases same
    exact absurd failed (Action.not_objects behind fun _ => .effectiveCommand _ _ _)
  have ending : ∀ exchange ∈ working, ∀ other, exchange.failure? ≠ some (.objection other) :=
    fun exchange member => behind exchange (List.mem_append_right finding member)
  unfold runCommand at works
  split at works
  next =>
    rcases (Action.yields_asking_bind_iff .printHelp _ _ _).mp works with ⟨_, _, rfl, helped⟩
    rcases (Action.yields_pure_iff _ _ _).mp helped with ⟨_, impossible⟩
    cases impossible
  next fault _ =>
    rcases (Action.yields_throw_iff _ _ _).mp works with ⟨_, impossible⟩
    cases impossible
  next invocation read =>
    have reads : launch.Reads invocation (loading ++ (cleared ++ ⟨.now, time⟩ :: finding)) :=
      .intro readable.symm loaded clears found read
    have split : loading ++ (cleared ++ ⟨.now, time⟩ :: (finding ++ working)) =
        loading ++ (cleared ++ ⟨.now, time⟩ :: finding) ++ working := by simp
    rw [split]
    refine ⟨invocation, _, List.prefix_append _ _, reads, ?_⟩
    rcases objection_runInvocation ending works with
      ⟨objected, uncalled⟩ | ⟨accepted, part, inside, raised⟩
    · exact .inl ⟨objected, List.forall_mem_append.mpr ⟨reads.uncalled, uncalled⟩⟩
    · have within := inside.trans (List.suffix_append
        (loading ++ (cleared ++ ⟨.now, time⟩ :: finding)) working).isInfix
      rcases raised.called with ⟨exchange, member, called⟩
      exact .inr ⟨accepted, ⟨exchange, within.subset member, called⟩, part, within, raised⟩

/-! ## New fields that are no document -/

def badFieldsLaunch : Launch :=
  ⟨["bigmler", "--dataset", "dataset/000000000000000000000001", "--new-fields", "bad.json",
      "--output-dir", "out"].map encodeUtf8,
    [(encodeUtf8 usernameVariable, encodeUtf8 "alice"),
      (encodeUtf8 apiKeyVariable, encodeUtf8 "secret")], ⟨"/work"⟩⟩

def badFields (path : Path) : Option String :=
  if path = ⟨"/work/bad.json"⟩ then some "\x7b" else none

/-- The objection to new fields that are not JSON. -/
def badFieldsCause : Objection :=
  .invalidValue "/work/bad.json is not valid JSON: EOF while parsing an object at line 1 column 1"

def badFieldsRun : List Exchange × Except Failure Nat :=
  badFieldsLaunch.invoke.run.record (timedAnswer badFields ⟨0⟩) []

/-- A cluster that is to be published without a description, beside it. -/
def publicRun : List Exchange × Except Failure Nat :=
  publicLaunch.invoke.run.record (timedAnswer (fun _ => none) ⟨0⟩) []

theorem badFieldsRun_facts : badFieldsRun.2 = .error (.objection badFieldsCause) ∧
    (∀ exchange ∈ badFieldsRun.1, exchange.failure? = none) ∧
    ∃ exchange ∈ badFieldsRun.1, exchange.asked.IsCall := by
  decide +kernel

theorem publicRun_facts : publicRun.2 = .error (.objection .missingDescription) ∧
    (∀ exchange ∈ publicRun.1, exchange.failure? = none) ∧
    ∀ exchange ∈ publicRun.1, ¬exchange.asked.IsCall := by
  decide +kernel

theorem own_of_unrefused {trace : List Exchange}
    (unrefused : ∀ exchange ∈ trace, exchange.failure? = none) :
    ∀ exchange ∈ trace, ∀ other, exchange.failure? ≠ some (.objection other) := by
  intro exchange member other brings
  cases (unrefused exchange member).symm.trans brings

/-- The objection to a missing description is one to the options.  The one to new fields comes
late, when the dataset was looked at. -/
theorem objection_late_newFields :
    (∃ invocation, invocation.check = .error .missingDescription ∧
      ∃ front, front <+: publicRun.1 ∧ publicLaunch.Reads invocation front) ∧
    ∃ invocation, invocation.check = .ok () ∧
      ∃ part, part <:+: badFieldsRun.1 ∧ RaisesLate ⟨"/work"⟩ invocation part badFieldsCause := by
  constructor
  · rcases Launch.objection_uncalled_or_late (Action.yields_record _ _ _ publicRun_facts.1)
      (own_of_unrefused publicRun_facts.2.1) with
      ⟨invocation, front, begins, reads, ⟨objected, _⟩ | ⟨_, ⟨exchange, member, called⟩, _⟩⟩
    · exact ⟨invocation, objected, front, begins, reads⟩
    · exact absurd called (publicRun_facts.2.2 exchange member)
  · rcases badFieldsRun_facts.2.2 with ⟨exchange, member, called⟩
    rcases Launch.objection_uncalled_or_late (Action.yields_record _ _ _ badFieldsRun_facts.1)
      (own_of_unrefused badFieldsRun_facts.2.1) with
      ⟨invocation, front, _, _, ⟨_, uncalled⟩ | ⟨accepted, _, late⟩⟩
    · exact absurd called (uncalled exchange member)
    · exact ⟨invocation, accepted, late⟩

end ModelRuns
