import ModelRuns.Proofs.Pipeline.Evaluating
import ModelRuns.Proofs.Run.Objections
import ModelRuns.Proofs.Run.Resuming

namespace ModelRuns

open Stateful

/-!
# How a session ends

A line of underscores closes a session.  A run that comes to its pipeline logs the line as
the last thing of all: behind the list of generated files when the pipeline succeeds, and
behind the reason when it fails.  A run with nothing to build logs it behind the step that
says so.

Between the start of the session and the pipeline there are two more ways to fail: a run
with something to build may lack credentials, and it may find no connection.  Such a run
leaves its session open.  If neither the files nor the terminal refuse anything, no other
run does.
-/

/-! ## The last line -/

/-- A request that is about no file. -/
def Request.Fileless : Request → Prop
  | .file _ => False
  | .openRunLog _ _ => False
  | _ => True

/-- The last that was asked about files is to append a line to this one. -/
def Logged (path : Path) (trace : List Exchange) : Prop :=
  ∃ front line back, trace = front ++ appending path line :: back ∧
    ∀ exchange ∈ back, exchange.asked.Fileless

/-- The separator was appended behind another line, and nothing was asked after it. -/
def Closed (path : Path) (trace : List Exchange) : Prop :=
  ∃ front, trace = front ++ [appending path separator] ∧ Logged path front

theorem Exchange.applyTo_of_fileless {exchange : Exchange} (fileless : exchange.asked.Fileless)
    (path : Path) (text : Option String) : exchange.applyTo path text = text := by
  rcases exchange with ⟨asked, answer⟩
  cases asked with
  | file request => exact absurd fileless id
  | _ => rfl

theorem textAfter_of_fileless {trace : List Exchange}
    (fileless : ∀ exchange ∈ trace, exchange.asked.Fileless) (path : Path)
    (text : Option String) : textAfter path text trace = text := by
  induction trace with
  | nil => rfl
  | cons exchange rest inductionHypothesis =>
    rw [textAfter_cons, Exchange.applyTo_of_fileless (fileless exchange List.mem_cons_self)]
    exact inductionHypothesis fun later member => fileless later (List.mem_cons_of_mem _ member)

theorem textAfter_appended_line (path : Path) (line : String) (text : Option String) :
    textAfter path text [appending path line] = some (text.getD "" ++ line ++ "\n") :=
  if_pos (Path.same_self path)

namespace Logged

variable {path : Path} {front back : List Exchange}

theorem behind (front : List Exchange) (logged : Logged path back) :
    Logged path (front ++ back) := by
  rcases logged with ⟨first, line, last, rfl, fileless⟩
  exact ⟨front ++ first, line, last, (List.append_assoc _ _ _).symm, fileless⟩

theorem before (logged : Logged path front)
    (fileless : ∀ exchange ∈ back, exchange.asked.Fileless) : Logged path (front ++ back) := by
  rcases logged with ⟨first, line, last, rfl, quiet⟩
  refine ⟨first, line, last ++ back, ?_, List.forall_mem_append.mpr ⟨quiet, fileless⟩⟩
  rw [List.append_assoc, List.cons_append]

/-- Whatever the file held, it now ends with a line break. -/
theorem terminated (logged : Logged path front) (text : Option String) :
    Terminated ((textAfter path text front).getD "") := by
  rcases logged with ⟨first, line, last, rfl, fileless⟩
  rw [← List.singleton_append, ← List.append_assoc, textAfter_append,
    textAfter_of_fileless fileless, textAfter_append, textAfter_appended_line]
  exact terminated_append_feed _

end Logged

theorem toList_separator : separator.toList = List.replicate 80 '_' := String.toList_ofList

theorem fitsLine_separator : FitsLine separator := by
  rw [FitsLine, toList_separator]
  decide

namespace Closed

variable {path : Path} {trace : List Exchange}

theorem behind (front : List Exchange) (closed : Closed path trace) :
    Closed path (front ++ trace) := by
  rcases closed with ⟨first, rfl, logged⟩
  exact ⟨front ++ first, (List.append_assoc _ _ _).symm, logged.behind front⟩

theorem mem (closed : Closed path trace) : appending path separator ∈ trace := by
  rcases closed with ⟨front, rfl, _⟩
  exact List.mem_append_right front (List.mem_singleton_self _)

/-- Whatever the file held, its last line is now the separator. -/
theorem getLast?_lines (closed : Closed path trace) (text : Option String) :
    (lines ((textAfter path text trace).getD "")).getLast? = some separator := by
  rcases closed with ⟨front, rfl, logged⟩
  rw [textAfter_append, textAfter_appended_line, Option.getD_some,
    lines_append_line _ _ (logged.terminated text) fitsLine_separator, List.getLast?_concat]

end Closed

/-! ## Steps that log -/

/-- An action that succeeds has appended a line and asked no more about files. -/
def Action.Logs (path : Path) {α : Type} (action : Action α) : Prop :=
  ∀ trace value, action.Yields trace (.ok value) → Logged path trace

namespace Action.Logs

variable {α β : Type} {path : Path}

theorem appendLine (line : String) : (Action.appendLine path line).Logs path := by
  intro trace value yields
  rcases (yields_asking_iff (.file (.append path line)) (fun answer => answer) _ _).mp yields with
    ⟨answer, rfl, rfl⟩
  exact ⟨[], line, [], rfl, List.forall_mem_nil _⟩

theorem behind {action : Action β} {next : β → Action α}
    (second : ∀ value, (next value).Logs path) : (action >>= next).Logs path := by
  intro trace value yields
  rcases yields_bind_ok yields with ⟨front, back, between, rfl, _, ended⟩
  exact (second between back value ended).behind front

theorem before {action : Action β} {next : β → Action α} (first : action.Logs path)
    (second : ∀ value, (next value).Asks Request.Fileless) : (action >>= next).Logs path := by
  intro trace value yields
  rcases yields_bind_ok yields with ⟨front, back, between, rfl, begun, ended⟩
  exact (first front between begun).before (second between back _ ended)

theorem step (log : SessionLog) (message : String) : (log.step message).Logs log.path := by
  refine behind fun time => before (appendLine _) fun _ => .ite ?_ (.pure ())
  exact .asking (.printLine _) (fun answer => answer) trivial

/-- A line and any number of names behind it. -/
theorem names (log : SessionLog) (line : String) (names : List String) (value : α) :
    Action.Logs log.path (log.raw line >>= fun _ => logNames log names >>= fun _ =>
      Pure.pure value) := by
  induction names generalizing line with
  | nil => exact before (appendLine line) fun _ => .bind (.pure ()) fun _ => .pure value
  | cons name rest inductionHypothesis =>
    refine behind fun _ => ?_
    rw [logNames, bind_assoc]
    exact inductionHypothesis (" - " ++ name)

theorem listGenerated (log : SessionLog) (output : Path) :
    (ModelRuns.listGenerated log output).Logs log.path :=
  behind fun _ => behind fun _ => names log _ _ _

end Action.Logs

/-- A step that succeeds has appended a line and asked no more about files. -/
def Stateful.Logs (path : Path) {α : Type} (step : Step α) : Prop :=
  ∀ before trace value after, Goes step before trace (.ok value) after → Logged path trace

namespace Stateful.Logs

variable {α β : Type} {path : Path}

theorem act {action : Action α} (logs : action.Logs path) :
    Logs path (Stateful.act action : Step α) := by
  intro before trace value after goes
  exact logs trace value ((goes_act_iff _ _ _ _ _).mp goes).1

theorem behind {step : Step β} {next : β → Step α} (second : ∀ value, Logs path (next value)) :
    Logs path (step >>= next) := by
  intro before trace value after goes
  rcases goes_bind_ok goes with ⟨front, back, between, middle, rfl, _, ended⟩
  exact (second between _ _ _ _ ended).behind front

/-- What goes on from the step only computes. -/
theorem map {step : Step β} (first : Logs path step) (change : β → α) :
    Logs path (step >>= fun value => pure (change value)) := by
  intro before trace value after goes
  rcases goes_map_ok change goes with ⟨found, _, begun⟩
  exact first _ _ _ _ begun

theorem inStage {stage : Stage} {body : Step α} (inside : Logs path body) :
    Logs path (inStage stage body) := by
  intro before trace value after goes
  rcases goes_inStage_ok goes with ⟨entry, middle, exit, _, _, rfl, _, going, leaving⟩
  refine ((inside _ _ _ _ going).before fun exchange member => ?_).behind entry
  have noted := (goes_leaveStage_ok leaving).1 exchange member
  rcases exchange with ⟨asked, answer⟩
  cases asked with
  | note event => trivial
  | _ => exact absurd noted id

end Stateful.Logs

namespace RunContext

variable (run : RunContext)

theorem logs_say (message : String) : Logs run.log.path (run.say message) :=
  .act (.step run.log message)

/-- The last stage lists the files, and says where it left a report. -/
theorem logs_reportStage (common : CommonOptions) :
    Logs run.log.path (run.reportStage common) := by
  have listing := Logs.act (Action.Logs.listGenerated run.log run.paths.output)
  unfold reportStage
  split
  next =>
    refine .behind fun files => .behind fun progress => .behind fun path => ?_
    split
    next => exact .behind fun _ => .behind fun location => run.logs_say _
    next => exact (run.logs_say _).map fun _ => ()
  next => exact listing.map fun _ => ()

theorem logs_runPipeline (invocation : Invocation) :
    Logs run.log.path (run.runPipeline invocation) := by
  have reports (common : CommonOptions) :
      Logs run.log.path (inStage .report (run.reportStage common)) :=
    .inStage (run.logs_reportStage common)
  cases invocation with
  | main options =>
    exact .behind fun source => .behind fun training => .behind fun predictor =>
      .behind fun tests => .behind fun _ => reports options.common
  | cluster options =>
    exact .behind fun source => .behind fun training => .behind fun clusters =>
      .behind fun tests => .behind fun _ => reports options.common

end RunContext

/-! ## Smooth runs -/

/-- A line that was to be shown on the terminal was shown. -/
def Exchange.Shown : Exchange → Prop
  | ⟨.printLine _, answer⟩ => answer = .ok ()
  | ⟨.printErrorLine _, answer⟩ => answer = .ok ()
  | _ => True

/-- Neither the files nor the terminal refused anything. -/
def Exchange.Smooth (exchange : Exchange) : Prop := exchange.Granted ∧ exchange.Shown

/-- An action that succeeds when all is smooth. -/
def Action.Succeeds {α : Type} (action : Action α) : Prop :=
  ∀ trace outcome, action.Yields trace outcome → (∀ exchange ∈ trace, exchange.Smooth) →
    ∃ value, outcome = .ok value

namespace Action.Succeeds

variable {α β : Type}

theorem pure (value : α) : Succeeds (Pure.pure value : Action α) := by
  intro trace outcome yields smooth
  exact ⟨value, ((yields_pure_iff _ _ _).mp yields).2⟩

theorem lift (program : Program α) : Succeeds (ExceptT.lift program : Action α) := by
  intro trace outcome yields smooth
  rcases (yields_lift_iff _ _ _).mp yields with ⟨value, _, same⟩
  exact ⟨value, same⟩

theorem bind {action : Action α} {next : α → Action β} (first : action.Succeeds)
    (second : ∀ value, (next value).Succeeds) : (action >>= next).Succeeds := by
  intro trace outcome yields smooth
  rcases (yields_bind_iff _ _ _ _).mp yields with
    ⟨failure, failed, rfl⟩ | ⟨front, back, value, rfl, begun, ended⟩
  · rcases first _ _ failed smooth with ⟨_, impossible⟩
    cases impossible
  · exact second value _ _ ended fun exchange member =>
      smooth exchange (List.mem_append_right front member)

theorem ite {condition : Prop} [Decidable condition] {first second : Action α}
    (whenTrue : first.Succeeds) (whenFalse : second.Succeeds) :
    (if condition then first else second).Succeeds := by
  split
  · exact whenTrue
  · exact whenFalse

theorem when {condition : Bool} {action : Action Unit} (succeeds : action.Succeeds) :
    (Action.when condition action).Succeeds := .ite succeeds (.pure ())

/-- A request that is answered well when it is answered smoothly. -/
theorem asking (asked : Request) (finish : asked.Answer → Except Failure α)
    (good : ∀ answer, Exchange.Smooth ⟨asked, answer⟩ → ∃ value, finish answer = .ok value) :
    (Action.asking asked finish).Succeeds := by
  intro trace outcome yields smooth
  rcases (yields_asking_iff _ _ _ _).mp yields with ⟨answer, rfl, rfl⟩
  exact good answer (smooth _ (List.mem_singleton_self _))

theorem appendLine (path : Path) (line : String) : (Action.appendLine path line).Succeeds :=
  .asking (.file (.append path line)) (fun answer => answer) fun _ smooth => ⟨(), smooth.1⟩

theorem step (log : SessionLog) (message : String) : (log.step message).Succeeds := by
  refine .bind (.lift _) fun time => .bind (appendLine _ _) fun _ => .ite ?_ (.pure ())
  exact .asking (.printLine _) (fun answer => answer) fun _ smooth => ⟨(), smooth.2⟩

theorem removeAll (output : Path) (inputs : List Path) (checkpoints : List Checkpoint) :
    (Checkpoint.removeAll output inputs checkpoints).Succeeds := by
  induction checkpoints with
  | nil => exact .pure ()
  | cons checkpoint rest inductionHypothesis =>
    refine .bind (.lift _) fun present => .ite (.ite (.bind ?_ fun _ => inductionHypothesis)
      inductionHypothesis) inductionHypothesis
    exact .asking (.file (.remove _)) (fun answer => answer) fun _ smooth => ⟨(), smooth.1⟩

theorem prepareOutput (session : Session) (invocation : Invocation) (resuming : Bool)
    (output : Path) : (ModelRuns.prepareOutput session invocation resuming output).Succeeds := by
  refine .bind ?_ fun _ => .when (removeAll _ _ _)
  exact .asking (.file (.makeDirectory _)) (fun answer => answer) fun _ smooth => ⟨(), smooth.1⟩

/-- Copying the defaults file and emptying the log may be refused without a failure. -/
theorem beginLog (session : Session) (log : SessionLog) (clearing resuming : Bool)
    (command : String) (runId : Option RunId) (output : Path) :
    (ModelRuns.beginLog session log clearing resuming command runId output).Succeeds := by
  have emptying : (emptyLog log).Succeeds := by
    refine .bind (.lift _) fun result => ?_
    cases result with
    | ok done => exact .pure ()
    | error failure => exact .lift _
  have copying : (copyDefaults session output).Succeeds := by
    refine .bind (.lift _) fun present => .ite ?_ (.pure ())
    cases session.defaultsFile.fileName? with
    | none => exact .pure ()
    | some name =>
      refine .bind (.lift _) fun result => ?_
      cases result with
      | ok done => exact .pure ()
      | error failure => exact .lift _
  refine .bind (.when emptying) fun _ => .ite (step _ _) (.bind (appendLine _ _) fun _ =>
    .bind copying fun _ => ?_)
  cases runId with
  | none => exact .pure ()
  | some id => exact appendLine _ _

end Action.Succeeds

/-! ## From the pipeline to the end -/

/-- A connection to the service was made. -/
def Exchange.Connects : Exchange → Prop
  | ⟨.connect _, answer⟩ => answer = .ok ()
  | _ => False

instance (exchange : Exchange) : Decidable exchange.Connects := by
  unfold Exchange.Connects
  split <;> infer_instance

/-- A part of a run that succeeds has logged a line, and one that fails has closed the
session. -/
inductive Finishes (path : Path) (trace : List Exchange) : Except Failure Unit → Prop
  | goesOn (logged : Logged path trace) : Finishes path trace (.ok ())
  | failed (failure : Failure) (closed : Closed path trace) : Finishes path trace (.error failure)

theorem Finishes.behind {path : Path} {trace : List Exchange} {outcome : Except Failure Unit}
    (finishes : Finishes path trace outcome) (front : List Exchange) :
    Finishes path (front ++ trace) outcome := by
  cases finishes with
  | goesOn logged => exact .goesOn (logged.behind front)
  | failed failure closed => exact .failed failure (closed.behind front)

theorem yields_close {log : SessionLog} {trace : List Exchange} {outcome : Except Failure Unit}
    (yields : log.close.Yields trace outcome) (smooth : ∀ exchange ∈ trace, exchange.Smooth) :
    trace = [appending log.path separator] ∧ outcome = .ok () := by
  rcases (Action.yields_asking_iff (.file (.append log.path separator)) (fun answer => answer)
    _ _).mp yields with ⟨answer, rfl, same⟩
  have granted : answer = .ok () := (smooth _ (List.mem_singleton_self _)).1
  rw [same, granted]
  exact ⟨rfl, rfl⟩

/-- A pipeline that fails says why, and closes the session. -/
theorem RunContext.finishes_perform {run : RunContext} {invocation : Invocation}
    {resuming : Bool} {trace : List Exchange} {outcome : Except Failure Unit}
    (yields : (run.perform invocation resuming).Yields trace outcome)
    (smooth : ∀ exchange ∈ trace, exchange.Smooth) : Finishes run.log.path trace outcome := by
  rcases Action.yields_lift_bind yields with ⟨calls, back, ⟨result, progress⟩, rfl, goes, rest⟩
  cases result with
  | ok done =>
    rcases (Action.yields_pure_iff _ _ _).mp rest with ⟨rfl, rfl⟩
    exact .goesOn ((run.logs_runPipeline invocation _ _ _ _ goes).before (List.forall_mem_nil _))
  | error failure =>
    rcases Action.yields_lift_bind rest with ⟨_, _, _, rfl, _, said⟩
    rcases Action.yields_lift_bind said with ⟨saying, _, stepped, rfl, steps, closes⟩
    rcases Action.yields_lift_bind closes with ⟨closing, _, _, rfl, close, thrown⟩
    rcases (Action.yields_throw_iff _ _ _).mp thrown with ⟨rfl, rfl⟩
    rw [List.append_nil] at smooth ⊢
    have later := fun exchange member => smooth exchange (List.mem_append_right _
      (List.mem_append_right _ member))
    rcases Action.Succeeds.step _ _ _ _ steps fun exchange member =>
      later exchange (List.mem_append_left _ member) with ⟨_, rfl⟩
    rcases yields_close close fun exchange member =>
      later exchange (List.mem_append_right _ member) with ⟨rfl, _⟩
    have closed : Closed run.log.path (saying ++ [appending run.log.path separator]) :=
      ⟨saying, rfl, Action.Logs.step _ _ _ _ steps⟩
    exact .failed failure ((closed.behind _).behind calls)

section

variable {settings : Settings} {environment : Environment} {session : Session} {clearing : Bool}
  {fallback : Path} {command : EffectiveCommand} {invocation : Invocation} {runId : Option RunId}
  {trace : List Exchange}

/-- A run that has no connection has something to build. -/
structure Unconnected (invocation : Invocation) (trace : List Exchange) : Prop where
  hasWork : invocation.hasWork = true
  refused : ∀ exchange ∈ trace, ∃ api failure, exchange = ⟨.connect api, .error failure⟩

/-- A run comes to its pipeline, or there is nothing to build. -/
def Proceeds (invocation : Invocation) (trace : List Exchange) : Prop :=
  invocation.hasWork = false ∨ ∃ exchange ∈ trace, exchange.Connects

theorem Unconnected.not_connects {invocation : Invocation}
    (unconnected : Unconnected invocation trace) :
    ∀ exchange ∈ trace, ¬exchange.Connects := by
  intro exchange member connects
  rcases unconnected.refused exchange member with ⟨api, failure, rfl⟩
  cases connects

theorem yields_build {paths : RunPaths} {log : SessionLog} {outcome : Except Failure Unit}
    (yields : (build settings environment invocation command runId paths log).Yields trace outcome)
    (smooth : ∀ exchange ∈ trace, exchange.Smooth) :
    (Unconnected invocation trace ∧ ∃ failure, outcome = .error failure) ∨
      (Proceeds invocation trace ∧ Finishes log.path trace outcome) := by
  unfold build at yields
  cases work : invocation.hasWork with
  | false =>
    rw [work, if_neg Bool.false_ne_true] at yields
    rcases Action.Succeeds.step _ _ _ _ yields smooth with ⟨_, rfl⟩
    exact .inr ⟨.inl work, .goesOn (Action.Logs.step _ _ _ _ yields)⟩
  | true =>
    rw [work, if_pos rfl] at yields
    rcases (Action.yields_bind_iff _ _ _ _).mp yields with
      ⟨failure, failed, rfl⟩ | ⟨none, rest, api, rfl, resolved, goesOn⟩
    · rcases (Action.yields_ofExcept_iff _ _ _).mp failed with ⟨rfl, _⟩
      exact .inl ⟨⟨work, List.forall_mem_nil _⟩, failure, rfl⟩
    rcases (Action.yields_ofExcept_iff _ _ _).mp resolved with ⟨rfl, _⟩
    rw [List.nil_append] at smooth ⊢
    rcases (Action.yields_bind_iff _ _ _ _).mp goesOn with
      ⟨failure, failed, rfl⟩ | ⟨front, back, _, rfl, connected, performs⟩
    · rcases (Action.yields_asking_iff (.connect api) (fun answer => answer) _ _).mp failed with
        ⟨answer, rfl, rfl⟩
      exact .inl ⟨⟨work, List.forall_mem_singleton.mpr ⟨api, failure, rfl⟩⟩, failure, rfl⟩
    · rcases (Action.yields_asking_iff (.connect api) (fun answer => answer) _ _).mp connected with
        ⟨answer, rfl, rfl⟩
      have finishes := RunContext.finishes_perform performs fun exchange member =>
        smooth exchange (List.mem_append_right _ member)
      exact .inr ⟨.inr ⟨_, List.mem_cons_self, rfl⟩, finishes.behind _⟩

end

/-! ## Up to the pipeline -/

/-- A request that neither connects nor closes a session. -/
def Request.Preliminary : Request → Prop
  | .connect _ => False
  | .file (.append _ line) => line ≠ separator
  | _ => True

theorem Request.Preliminary.not_connects {exchange : Exchange}
    (preliminary : exchange.asked.Preliminary) : ¬exchange.Connects := by
  rcases exchange with ⟨asked, answer⟩
  cases asked with
  | connect settings => exact absurd preliminary id
  | _ => exact id

theorem ne_separator_of_mem {line : String} {character : Char} (member : character ∈ line.toList)
    (other : character ≠ '_') : line ≠ separator := by
  intro same
  rw [same, toList_separator] at member
  exact other (List.eq_of_mem_replicate member)

theorem dated_ne_separator (time : Instant) (message : String) :
    dated time message ≠ separator := by
  have opened : '[' ∈ (dated time message).toList := by simp [dated]
  exact ne_separator_of_mem opened (by decide)

theorem commandLine_ne_separator (id : RunId) (timestamp : Option Nat) (tokens : List String) :
    CommandRecord.line ⟨some id, timestamp, tokens⟩ ≠ separator := by
  have tabbed : '\t' ∈ (CommandRecord.line ⟨some id, timestamp, tokens⟩).toList := by
    simp [CommandRecord.line]
  exact ne_separator_of_mem tabbed (by decide)

theorem directoryLine_ne_separator (id : RunId) (path : Path) :
    DirectoryRecord.line ⟨some id, path⟩ ≠ separator := by
  have tabbed : '\t' ∈ (DirectoryRecord.line ⟨some id, path⟩).toList := by
    simp [DirectoryRecord.line]
  exact ne_separator_of_mem tabbed (by decide)

/-- A recorded command begins with the name of the program. -/
theorem join_recordedTokens_ne_separator (arguments : List String) :
    CommandText.join (recordedTokens arguments) ≠ separator := by
  have named : 'b' ∈ CommandText.quoteChars programName.toList := by decide +kernel
  have begun : 'b' ∈ (CommandText.join (recordedTokens arguments)).toList := by
    rw [CommandText.join, String.toList_ofList, CommandText.joinTokens, recordedTokens,
      List.map_cons, List.map_cons]
    cases (arguments.drop 1).map String.toList with
    | nil => simpa [List.intercalate] using named
    | cons token rest =>
      simp only [List.map_cons, List.intercalate, List.intersperse, List.flatten_cons]
      exact List.mem_append_left _ named
  exact ne_separator_of_mem begun (by decide)

namespace Action

theorem preliminary_prepareOutput (session : Session) (invocation : Invocation) (resuming : Bool)
    (output : Path) :
    (prepareOutput session invocation resuming output).Asks Request.Preliminary := by
  have removing (inputs : List Path) (checkpoints : List Checkpoint) :
      (Checkpoint.removeAll output inputs checkpoints).Asks Request.Preliminary := by
    induction checkpoints with
    | nil => exact .pure ()
    | cons checkpoint rest inductionHypothesis =>
      refine .bind (.asking (.file (.fileExists _)) .ok trivial) fun present => ?_
      refine .ite (.ite (.bind ?_ fun _ => inductionHypothesis) inductionHypothesis)
        inductionHypothesis
      exact .asking (.file (.remove _)) (fun answer => answer) trivial
  refine .bind ?_ fun _ => .when (removing _ _)
  exact .asking (.file (.makeDirectory _)) (fun answer => answer) trivial

/-- A session begins with its command, or with a dated line if it resumes one. -/
theorem preliminary_beginLog (session : Session) (log : SessionLog) (clearing resuming : Bool)
    (command : String) (runId : Option RunId) (output : Path)
    (plain : resuming = false → command ≠ separator) :
    (beginLog session log clearing resuming command runId output).Asks Request.Preliminary := by
  have noting (level type : String) (payload : Fields) :
      (note level type payload).Asks Request.Preliminary := .asking (.note _) .ok trivial
  have appending (path : Path) {line : String} (other : line ≠ separator) :
      (appendLine path line).Asks Request.Preliminary :=
    .asking (.file (.append path line)) (fun answer => answer) other
  refine .bind (.when ?_) fun _ => ?_
  · refine .bind (Asks.attempt ?_) fun result => ?_
    · exact .asking (.file (.truncate _)) (fun answer => answer) trivial
    · cases result with
      | ok done => exact .pure ()
      | error failure => exact noting _ _ _
  cases resuming with
  | true =>
    refine .bind (.asking .now .ok trivial) fun time => ?_
    refine .bind (appending _ (dated_ne_separator time _)) fun _ => .ite ?_ (.pure ())
    exact .asking (.printLine _) (fun answer => answer) trivial
  | false =>
    refine .bind (appending _ (plain rfl)) fun _ => .bind ?_ fun _ => ?_
    · refine .bind (.asking (.file (.fileExists _)) .ok trivial) fun present => .ite ?_ (.pure ())
      cases session.defaultsFile.fileName? with
      | none => exact .pure ()
      | some name =>
        refine .bind (Asks.attempt (.bind ?_ fun text => ?_)) fun result => ?_
        · exact .asking (.file (.read _)) (fun answer => answer) trivial
        · exact .asking (.file (.write _ _)) (fun answer => answer) trivial
        · cases result with
          | ok done => exact .pure ()
          | error failure => exact noting _ _ _
    · cases runId with
      | none => exact .pure ()
      | some id => exact appending _ (directoryLine_ne_separator id _)

end Action

section

variable {settings : Settings} {environment : Environment} {session : Session} {clearing : Bool}
  {fallback : Path} {command : EffectiveCommand} {invocation : Invocation} {runId : Option RunId}
  {trace : List Exchange} {outcome : Except Failure Nat}

/-- Behind the start of its session a smooth run ends without a connection, or it proceeds
and closes the session. -/
theorem yields_building {paths : RunPaths} {log : SessionLog}
    (yields : Action.Yields (do
      build settings environment invocation command runId paths log
      Action.note "info" "run.completed" [("output_dir", .text paths.output.text)]
      log.close
      return exitSuccess) trace outcome)
    (smooth : ∀ exchange ∈ trace, exchange.Smooth) :
    Unconnected invocation trace ∨ (Proceeds invocation trace ∧ Closed log.path trace) := by
  rcases (Action.yields_bind_iff _ _ _ _).mp yields with
    ⟨failure, failed, _⟩ | ⟨built, rest, _, rfl, succeeds, concludes⟩
  · rcases yields_build failed smooth with ⟨unconnected, _⟩ | ⟨proceeds, finishes⟩
    · exact .inl unconnected
    · cases finishes with
      | failed _ closed => exact .inr ⟨proceeds, closed⟩
  rcases yields_build succeeds fun exchange member =>
    smooth exchange (List.mem_append_left _ member) with
    ⟨_, _, impossible⟩ | ⟨proceeds, finishes⟩
  · cases impossible
  cases finishes with
  | goesOn logged =>
    rcases (Action.yields_asking_bind_iff (.note _) _ _ _).mp concludes with
      ⟨noted, closing, rfl, closes⟩
    have ending := fun exchange member =>
      smooth exchange (List.mem_append_right built (List.mem_cons_of_mem _ member))
    rcases (Action.yields_bind_iff _ _ _ _).mp closes with
      ⟨_, failed, _⟩ | ⟨closed, none, _, rfl, closed, ends⟩
    · cases (yields_close failed ending).2
    · rcases yields_close closed fun exchange member =>
        ending exchange (List.mem_append_left _ member) with ⟨rfl, _⟩
      rcases (Action.yields_pure_iff _ _ _).mp ends with ⟨rfl, _⟩
      refine .inr ⟨proceeds.imp_right fun ⟨exchange, member, connects⟩ =>
          ⟨exchange, List.mem_append_left _ member, connects⟩,
        built ++ [_], (List.append_assoc built [_] [_]).symm, ?_⟩
      exact logged.before (List.forall_mem_singleton.mpr trivial)

/-- What a smooth run asks up to the start of its session closes nothing. -/
theorem yields_carryOut_closes
    (yields : (carryOut settings environment session clearing fallback command invocation
      runId).Yields trace outcome)
    (smooth : ∀ exchange ∈ trace, exchange.Smooth)
    (plain : command.resuming = false → CommandText.join command.tokens ≠ separator) :
    ∃ front back, trace = front ++ back ∧
      (∀ exchange ∈ front, exchange.asked.Preliminary) ∧
      (Unconnected invocation back ∨ (Proceeds invocation back ∧ Closed
        (session.sessionLogIn (command.paths session invocation fallback).output) back)) := by
  rcases (Action.yields_asking_bind_iff (.note _) _ _ _).mp yields with ⟨started, _, rfl, rest⟩
  rcases (Action.yields_bind_iff _ _ _ _).mp rest with
    ⟨_, failed, _⟩ | ⟨prepared, behind, _, rfl, prepares, starts⟩
  · rcases Action.Succeeds.prepareOutput _ _ _ _ _ _ failed fun exchange member =>
      smooth exchange (List.mem_cons_of_mem _ member) with ⟨_, impossible⟩
    cases impossible
  have later := fun exchange member => smooth exchange (List.mem_cons_of_mem _
    (List.mem_append_right prepared member))
  rcases (Action.yields_bind_iff _ _ _ _).mp starts with
    ⟨_, failed, _⟩ | ⟨begun, last, _, rfl, begins, builds⟩
  · rcases Action.Succeeds.beginLog _ _ _ _ _ _ _ _ _ failed later with ⟨_, impossible⟩
    cases impossible
  have early := List.forall_mem_append.mpr
    ⟨Action.preliminary_prepareOutput _ _ _ _ _ _ prepares,
      Action.preliminary_beginLog _ _ _ _ _ _ _ plain _ _ begins⟩
  refine ⟨_ :: (prepared ++ begun), last, congrArg (_ :: ·) (List.append_assoc _ _ _).symm,
    List.forall_mem_cons.mpr ⟨trivial, early⟩, ?_⟩
  exact yields_building builds fun exchange member =>
    later exchange (List.mem_append_right begun member)

end

/-! ## Whole runs -/

/-- A request of a run that has not made its output directory. -/
def Request.Early (asked : Request) : Prop :=
  asked.Preliminary ∧ ∀ path, asked ≠ .file (.makeDirectory path)

theorem Request.Inert.early {asked : Request} (inert : asked.Inert) : asked.Early := by
  cases asked with
  | file request =>
    cases request with
    | read path => exact ⟨trivial, nofun⟩
    | fileExists path => exact ⟨trivial, nofun⟩
    | _ => exact absurd inert id
  | connect settings => exact absurd inert id
  | _ => exact ⟨trivial, nofun⟩

theorem workDirectory?_append_of_early {front : List Exchange}
    (early : ∀ exchange ∈ front, exchange.asked.Early) (back : List Exchange) :
    workDirectory? (front ++ back) = workDirectory? back := by
  refine workDirectory?_append (fun exchange member => ?_) back
  have other := (early exchange member).2
  unfold Exchange.directory?
  split
  next path answer => exact absurd rfl (other path)
  next => rfl

/-- The session log of a run is in the first directory that it makes, and has the name
that the settings give it. -/
inductive Launch.KeepsLog (launch : Launch) (trace : List Exchange) : Path → Prop
  | intro {loading : List Exchange} {settings : Settings} {output : Path}
      (loaded : (Settings.load launch.directory).Yields loading (.ok settings))
      (begins : loading <+: trace) (works : workDirectory? trace = some output) :
      launch.KeepsLog trace (output.child settings.logs.sessionsLog)

/-- A run comes to carry out the invocation that it has read, in its output directory. -/
inductive Launch.CarriesOut (launch : Launch) (invocation : Invocation) (settings : Settings)
    (output : Path) (outcome : Except Failure Nat) : List Exchange → Prop
  | intro {arguments : List String} {time : Instant} {command : EffectiveCommand}
      {runId : Option RunId} {loading front opening working : List Exchange}
      (loaded : (Settings.load launch.directory).Yields loading (.ok settings))
      (begins : loading <+: front) (reads : launch.Reads invocation front)
      (earlyFront : ∀ exchange ∈ front, exchange.asked.Early)
      (earlyOpening : ∀ exchange ∈ opening, exchange.asked.Early)
      (plain : command.resuming = false → CommandText.join command.tokens ≠ separator)
      (place : (command.paths (launch.session settings arguments) invocation
        ⟨defaultDirectoryName time⟩).output = output)
      (carried : (carryOut settings (readEnvironment launch.environment)
        (launch.session settings arguments) (arguments.contains clearLogsToken)
        ⟨defaultDirectoryName time⟩ command invocation runId).Yields working outcome) :
      launch.CarriesOut invocation settings output outcome (front ++ (opening ++ working))

theorem Action.early_identify (session : Session) (command : EffectiveCommand) (time : Instant) :
    (identify session command time).Asks Request.Early := by
  refine .ite (.pure _) (.bind (.ite (.pure _) (.bind ?_ fun _ => .pure _)) fun _ => .pure _)
  exact .asking (.file (.append _ _)) (fun answer => answer)
    ⟨commandLine_ne_separator _ _ _, nofun⟩

/-- The text of a new command is the one recorded. -/
theorem plain_of_found {session : Session} {arguments : List String} {fallback : Path}
    {command : EffectiveCommand} {finding : List Exchange}
    (found : (effectiveCommand session arguments fallback).Yields finding (.ok command))
    (new : command.resuming = false) : CommandText.join command.tokens ≠ separator := by
  rcases resuming_or_fresh_of_found found with resumes | ⟨_, rfl⟩
  · rw [resumes] at new
    cases new
  · exact join_recordedTokens_ne_separator arguments

namespace Launch

variable {launch : Launch} {trace : List Exchange} {outcome : Except Failure Nat}

/-- A run comes to carry out an invocation, or makes no output directory. -/
theorem early_or_carriesOut (runs : launch.invoke.Yields trace outcome) :
    (∀ exchange ∈ trace, exchange.asked.Early) ∨ ∃ invocation settings output,
      launch.CarriesOut invocation settings output outcome trace := by
  have opens : launch.Opens trace Request.Early := by
    refine ⟨fun _ => Request.Inert.early, fun _ _ _ _ _ _ => ?_, fun _ _ _ _ _ _ _ _ _ _ _ =>
      Action.early_identify _ _ _⟩
    refine (asks_clearSessionLogs _).mono ?_
    rintro asked (rfl | rfl | ⟨line, rfl⟩) <;> exact ⟨trivial, nofun⟩
  rcases yields_invoke_or opens runs with early | carries
  · exact .inl early
  cases carries with
  | intro readable loaded clears found read front opening carried =>
    exact .inr ⟨_, _, _, .intro loaded (List.prefix_append _ _)
      (.intro readable loaded clears found read) front opening (plain_of_found found) rfl carried⟩

theorem CarriesOut.loads {invocation : Invocation} {settings : Settings} {output : Path}
    (carries : launch.CarriesOut invocation settings output outcome trace) :
    ∃ loading, loading <+: trace ∧
      (Settings.load launch.directory).Yields loading (.ok settings) := by
  cases carries with
  | intro loaded begins => exact ⟨_, begins.trans (List.prefix_append _ _), loaded⟩

/-- The settings are read from the first answers, so a run has one session log. -/
theorem KeepsLog.place {invocation : Invocation} {settings : Settings} {output path : Path}
    (keeps : launch.KeepsLog trace path)
    (carries : launch.CarriesOut invocation settings output outcome trace) :
    path = output.child settings.logs.sessionsLog := by
  cases keeps with
  | @intro loading settings output loaded begins works =>
  cases carries with
  | @intro _ _ _ _ other front opening working found leads _ earlyFront earlyOpening _ place
      carried =>
  have leads := leads.trans (List.prefix_append front (opening ++ working))
  cases (Program.Runs.eq_of_begin loaded found begins leads).2
  rw [workDirectory?_append_of_early earlyFront, workDirectory?_append_of_early earlyOpening,
    workDirectory?_carryOut carried, place] at works
  cases works
  rfl

/-- A smooth run that has a session log closes it exactly if there is nothing to build or a
connection was made.  Then the separator is the last line of the log, whatever else was in
it.  No other run logs a separator. -/
theorem closes_session_iff {path : Path} (runs : launch.invoke.Yields trace outcome)
    (smooth : ∀ exchange ∈ trace, exchange.Smooth) (keeps : launch.KeepsLog trace path) :
    ∃ invocation front, front <+: trace ∧ launch.Reads invocation front ∧
      (appending path separator ∈ trace ↔
        invocation.hasWork = false ∨ ∃ exchange ∈ trace, exchange.Connects) ∧
      (appending path separator ∈ trace → ∀ text,
        (lines ((textAfter path text trace).getD "")).getLast? = some separator) := by
  rcases early_or_carriesOut runs with early | ⟨invocation, settings, output, carries⟩
  · cases keeps with
    | intro loaded begins works =>
      have unmade := workDirectory?_append_of_early early []
      rw [List.append_nil, works] at unmade
      cases unmade
  have place := keeps.place carries
  cases carries with
  | @intro arguments time command runId loading front opening working _ _ reads earlyFront
      earlyOpening plain directory carried =>
  rcases yields_carryOut_closes carried (fun exchange member => smooth exchange
    (List.mem_append_right _ (List.mem_append_right _ member))) plain with
    ⟨start, ending, rfl, preliminary, ends⟩
  rw [directory] at ends
  have log : (launch.session settings arguments).sessionLogIn output = path := place.symm
  rw [log] at ends
  -- Everything before the building of the run keeps the session open.
  have before : ∀ exchange ∈ front ++ (opening ++ start), exchange.asked.Preliminary :=
    List.forall_mem_append.mpr ⟨fun exchange member => (earlyFront exchange member).1,
      List.forall_mem_append.mpr ⟨fun exchange member => (earlyOpening exchange member).1,
        preliminary⟩⟩
  have split : front ++ (opening ++ (start ++ ending)) = front ++ (opening ++ start) ++ ending := by
    simp
  refine ⟨invocation, front, List.prefix_append _ _, reads, ?_⟩
  rw [split]
  rcases ends with unconnected | ⟨proceeds, closed⟩
  · have absent : appending path separator ∉ front ++ (opening ++ start) ++ ending := by
      intro member
      rcases List.mem_append.mp member with early | late
      · exact before _ early rfl
      · rcases unconnected.refused _ late with ⟨_, _, impossible⟩
        cases impossible
    refine ⟨⟨fun member => absurd member absent, ?_⟩, fun member => absurd member absent⟩
    rintro (idle | ⟨exchange, member, connects⟩)
    · exact absurd (idle.symm.trans unconnected.hasWork) Bool.false_ne_true
    · rcases List.mem_append.mp member with early | late
      · exact absurd connects (before exchange early).not_connects
      · exact absurd connects (unconnected.not_connects exchange late)
  · have ended := closed.behind (front ++ (opening ++ start))
    refine ⟨⟨fun _ => ?_, fun _ => ended.mem⟩, fun _ => ended.getLast?_lines⟩
    exact proceeds.imp_right fun ⟨exchange, member, connects⟩ =>
      ⟨exchange, List.mem_append_right _ member, connects⟩

end Launch

/-! ## A run without credentials -/

/-- A run that is to train on a file. -/
def trainingLaunch (environment : List (String × String)) : Launch :=
  ⟨["bigmler", "--train", "iris.csv", "--output-dir", "out"].map encodeUtf8,
    environment.map fun (name, value) => (encodeUtf8 name, encodeUtf8 value), ⟨"/work"⟩⟩

/-- No file is found, and nothing is refused. -/
def bareAnswer : (asked : Request) → asked.Answer
  | .file (.fileExists _) => false
  | asked => asked.granted

def trainingRun (environment : List (String × String)) : List Exchange × Except Failure Nat :=
  (trainingLaunch environment).invoke.run.record (fun _ => bareAnswer) []

def credentials : List (String × String) :=
  [(usernameVariable, "alice"), (apiKeyVariable, "secret")]

def trainingLog : Path := (⟨"/work/out"⟩ : Path).child "bigmler_sessions"

theorem answered_trainingRun (environment : List (String × String)) :
    ∀ exchange ∈ (trainingRun environment).1, exchange.answer = bareAnswer exchange.asked := by
  have each (_ : List Exchange) (exchange : Exchange)
      (answered : exchange.answer = bareAnswer exchange.asked) :
      exchange.answer = bareAnswer exchange.asked := answered
  exact (Program.throughout_record (fun _ => bareAnswer) _ _).forall_mem each

theorem smooth_trainingRun (environment : List (String × String)) :
    ∀ exchange ∈ (trainingRun environment).1, exchange.Smooth := by
  rintro ⟨asked, answer⟩ member
  have answered := answered_trainingRun environment _ member
  cases asked with
  | file request =>
    cases request with
    | read path => exact ⟨trivial, trivial⟩
    | list path => exact ⟨trivial, trivial⟩
    | fileExists path => exact ⟨trivial, trivial⟩
    | _ => exact ⟨answered, trivial⟩
  | openRunLog file debug => exact ⟨answered, trivial⟩
  | printLine line => exact ⟨trivial, answered⟩
  | printErrorLine line => exact ⟨trivial, answered⟩
  | _ => exact ⟨trivial, trivial⟩

/-- There is no defaults file, so the log has its own name. -/
theorem keepsLog_trainingRun (environment : List (String × String))
    (works : workDirectory? (trainingRun environment).1 = some ⟨"/work/out"⟩) :
    (trainingLaunch environment).KeepsLog (trainingRun environment).1 trainingLog := by
  have runs := Action.yields_record (fun _ => bareAnswer) (trainingLaunch environment).invoke [] rfl
  rcases Launch.early_or_carriesOut runs with early | ⟨invocation, settings, output, carries⟩
  · have unmade := workDirectory?_append_of_early early []
    rw [List.append_nil] at unmade
    cases works.symm.trans unmade
  rcases carries.loads with ⟨loading, begins, loaded⟩
  rcases (Action.yields_asking_bind_iff (.file (.fileExists _)) _ _ _).mp loaded with
    ⟨present, reading, rfl, goesOn⟩
  have absent : present = false :=
    answered_trainingRun environment _ (begins.subset List.mem_cons_self)
  rw [absent, if_neg Bool.false_ne_true] at goesOn
  cases ((Action.yields_ofExcept_iff _ _ _).mp goesOn).2
  exact .intro loaded begins works

theorem trainingRun_facts :
    (workDirectory? (trainingRun credentials).1 = some ⟨"/work/out"⟩ ∧
      ∃ exchange ∈ (trainingRun credentials).1, exchange.Connects) ∧
    workDirectory? (trainingRun []).1 = some ⟨"/work/out"⟩ ∧
      (lines ((textAfter trainingLog none (trainingRun []).1).getD "")).getLast? =
        some "bigmler --train iris.csv --output-dir out" := by
  decide +kernel

/-- With credentials the session is closed.  Without them the command stays its last line. -/
theorem closes_session_credentials :
    (∀ text, (lines ((textAfter trainingLog text (trainingRun credentials).1).getD "")).getLast? =
      some separator) ∧
    appending trainingLog separator ∉ (trainingRun []).1 ∧
    (lines ((textAfter trainingLog none (trainingRun []).1).getD "")).getLast? =
      some "bigmler --train iris.csv --output-dir out" := by
  rcases trainingRun_facts with ⟨⟨works, connects⟩, worksOpen, last⟩
  refine ⟨?_, fun member => ?_, last⟩
  · rcases Launch.closes_session_iff (Action.yields_record _ _ _ rfl)
      (smooth_trainingRun credentials) (keepsLog_trainingRun credentials works) with
      ⟨_, _, _, _, same, ends⟩
    exact ends (same.mpr (.inr connects))
  · rcases Launch.closes_session_iff (Action.yields_record _ _ _ rfl)
      (smooth_trainingRun []) (keepsLog_trainingRun [] worksOpen) with ⟨_, _, _, _, _, ends⟩
    have closed := (ends member none).symm.trans last
    exact absurd closed (by decide +kernel)

end ModelRuns
