import ModelRuns.Proofs.Pipeline.Outputs
import ModelRuns.Proofs.Run.Fresh
import ModelRuns.Proofs.Run.OutputDirectory

namespace ModelRuns

/-!
# The ledger of a run

A run of a new command is a pipeline with requests around it that create nothing and
leave the checkpoints alone.  Its ledger is the journal of the pipeline: it lists all
that the run created, and where the identifiers went.

What a checkpoint holds in the end follows from the ledger and from the results that
were written over it.  Only the two results that the user names can be.
-/

/-! ## Idle requests -/

/-- A request that creates nothing and leaves the checkpoints alone. -/
def Request.Idle (output : Path) : Request → Prop
  | .api (.create _) => False
  | .file (.write path _) => ∀ checkpoint, path.same (Checkpoint.path output checkpoint) = false
  | .file (.append path _) => ∀ checkpoint, path.same (Checkpoint.path output checkpoint) = false
  | .file (.truncate path) => ∀ checkpoint, path.same (Checkpoint.path output checkpoint) = false
  | .file (.remove path) => ∀ checkpoint, path.same (Checkpoint.path output checkpoint) = false
  | .openRunLog (some path) _ =>
    ∀ checkpoint, path.same (Checkpoint.path output checkpoint) = false
  | _ => True

namespace Request

variable {output : Path}

theorem Idle.created?_eq {exchange : Exchange} (idle : exchange.asked.Idle output) :
    exchange.created? = none := by
  rcases exchange with ⟨asked, answer⟩
  cases asked with
  | api request =>
    cases request with
    | create creation => exact absurd idle id
    | _ => rfl
  | _ => rfl

theorem Idle.not_overwrites {exchange : Exchange} (idle : exchange.asked.Idle output)
    (checkpoint : Checkpoint) : ¬exchange.Overwrites (Checkpoint.path output checkpoint) := by
  rcases exchange with ⟨asked, answer⟩
  cases asked with
  | file request =>
    cases request with
    | write path text => exact Bool.eq_false_iff.mp (idle checkpoint)
    | _ => exact id
  | openRunLog file debug =>
    cases file with
    | some path => exact Bool.eq_false_iff.mp (idle checkpoint)
    | none => exact id
  | _ => exact id

theorem Idle.not_changes {exchange : Exchange} (idle : exchange.asked.Idle output)
    (checkpoint : Checkpoint) : exchange.changes (Checkpoint.path output checkpoint) = false := by
  refine Exchange.not_changes_of_spares ?_ (idle.not_overwrites checkpoint)
  rcases exchange with ⟨asked, answer⟩
  cases asked with
  | file request =>
    cases request with
    | append path line => exact idle checkpoint
    | truncate path => exact idle checkpoint
    | remove path => exact idle checkpoint
    | _ => trivial
  | _ => trivial

theorem idle_of_inspects {asked : Request} (inspects : asked.Inspects) : asked.Idle output := by
  cases asked with
  | file request =>
    cases request with
    | read path => trivial
    | fileExists path => trivial
    | _ => exact absurd inspects id
  | _ => exact absurd inspects id

end Request

/-- Idle requests leave every checkpoint as it is. -/
theorem textAfter_of_idle {output : Path} {trace : List Exchange}
    (idle : ∀ exchange ∈ trace, exchange.asked.Idle output) (checkpoint : Checkpoint)
    (text : Option String) : textAfter (Checkpoint.path output checkpoint) text trace = text := by
  refine textAfter_of_changesAt_nil _ ?_ text
  rw [changesAt, List.filter_eq_nil_iff]
  exact fun exchange member => Bool.eq_false_iff.mp ((idle exchange member).not_changes checkpoint)

theorem SessionLog.Keeps.idle {log : SessionLog} {output : Path} {asked : Request}
    (keeps : log.Keeps asked)
    (off : ∀ checkpoint, log.path.same (Checkpoint.path output checkpoint) = false) :
    asked.Idle output := by
  cases keeps with
  | append line => exact off
  | truncate => exact off
  | _ => trivial

section

variable {session : Session} {output : Path} (off : session.LogsOff output)

include off

theorem Session.Begins.idle {log : SessionLog} {resuming : Bool} {asked : Request}
    (begins : session.Begins log output resuming asked)
    (logOff : ∀ checkpoint, log.path.same (Checkpoint.path output checkpoint) = false) :
    asked.Idle output := by
  cases begins with
  | keeps keeps => exact keeps.idle logOff
  | copy name text named => exact off.copy name named
  | place line new => exact off.directoryLog
  | _ => trivial

/-- Before a run records itself it leaves the checkpoints alone, if its run log does. -/
theorem Request.Opens.idle {asked : Request} (opens : asked.Opens session)
    (logOff : ∀ file debug, asked = .openRunLog (some file) debug → ∀ checkpoint,
      file.same (Checkpoint.path output checkpoint) = false) :
    asked.Idle output := by
  rcases opens with (inspects | rfl) | rfl | rfl | ⟨line, rfl⟩ | ⟨file, debug, rfl⟩
  · exact Request.idle_of_inspects inspects
  · trivial
  · exact off.commandLog
  · exact off.directoryLog
  · trivial
  · cases file with
    | none => trivial
    | some path => exact logOff path debug rfl

end

section

variable {files : Path → Option String} {output : Path} {earlier trace : List Exchange}
  {outcome : Except Failure Unit} (reports : Throughout (Exchange.Reports files) earlier trace)
  (absent : ∀ checkpoint, textAfter (Checkpoint.path output checkpoint)
    (files (Checkpoint.path output checkpoint)) earlier = none)

include reports absent

/-- In a directory without checkpoints nothing is removed. -/
theorem idle_removeAll (inputs : List Path) (checkpoints : List Checkpoint)
    (yields : (Checkpoint.removeAll output inputs checkpoints).Yields trace outcome) :
    ∀ exchange ∈ trace, exchange.asked.Idle output := by
  induction checkpoints generalizing earlier trace with
  | nil =>
    rcases (Action.yields_pure_iff _ _ _).mp yields with ⟨rfl, _⟩
    exact List.forall_mem_nil _
  | cons checkpoint rest inductionHypothesis =>
    rcases (Action.yields_asking_bind_iff (.file (.fileExists _)) _ _ _).mp yields with
      ⟨present, back, rfl, goesOn⟩
    have told : present = (textAfter (Checkpoint.path output checkpoint)
      (files (Checkpoint.path output checkpoint)) earlier).isSome := reports.1
    rw [absent checkpoint] at told
    subst told
    refine List.forall_mem_cons.mpr ⟨trivial, inductionHypothesis reports.2 ?_ goesOn⟩
    intro other
    rw [textAfter_append, absent other]
    rfl

theorem idle_prepareOutput {session : Session} {invocation : Invocation} {resuming : Bool}
    (yields : (prepareOutput session invocation resuming output).Yields trace outcome) :
    ∀ exchange ∈ trace, exchange.asked.Idle output := by
  have making : (Action.makeDirectory output).Asks (Request.Idle output) :=
    .asking (.file (.makeDirectory _)) (fun answer => answer) trivial
  rcases (Action.yields_bind_iff _ _ _ _).mp yields with
    ⟨failure, failed, _⟩ | ⟨made, removed, _, rfl, makes, removes⟩
  · exact making _ _ failed
  refine List.forall_mem_append.mpr ⟨making _ _ makes, ?_⟩
  cases resuming with
  | true =>
    rcases (Action.yields_pure_iff _ _ _).mp removes with ⟨rfl, _⟩
    exact List.forall_mem_nil _
  | false =>
    refine idle_removeAll ((Throughout.append_iff _ _ _).mp reports).2 ?_ _ _ removes
    intro checkpoint
    rcases (Action.yields_asking_iff (.file (.makeDirectory _)) (fun answer => answer) _ _).mp makes
      with ⟨answer, rfl, _⟩
    rw [textAfter_append, absent checkpoint]
    rfl

end

/-! ## Ledgers -/

/-- A trace of idle requests and of pipelines, and what the pipelines created. -/
inductive Ledger (paths : RunPaths) (invocation : Invocation) :
    List Exchange → List Entry → Prop
  | idle {trace : List Exchange}
      (idle : ∀ exchange ∈ trace, exchange.asked.Idle paths.output) :
      Ledger paths invocation trace []
  | pipeline {run : RunContext} {trace : List Exchange} {entries : List Entry}
      (place : run.paths = paths) (logOff : run.OffCheckpoints run.log.path)
      (journal : run.Journal invocation trace entries) :
      Ledger paths invocation trace entries
  | append {front back : List Exchange} {entries later : List Entry}
      (first : Ledger paths invocation front entries)
      (second : Ledger paths invocation back later) :
      Ledger paths invocation (front ++ back) (entries ++ later)

namespace Ledger

variable {paths : RunPaths} {invocation : Invocation} {trace : List Exchange}
  {entries : List Entry} (ledger : Ledger paths invocation trace entries)

include ledger

/-- A ledger lists the creations of its trace. -/
theorem created : ModelRuns.created trace = entries.map Entry.made := by
  induction ledger with
  | idle idle =>
    exact List.filterMap_eq_nil_iff.mpr fun exchange member => (idle exchange member).created?_eq
  | pipeline place logOff journal => exact journal.created
  | append first second firstHypothesis secondHypothesis =>
    rw [created_append, firstHypothesis, secondHypothesis, List.map_append]

/-- What a ledger lists was created for its checkpoint. -/
theorem createdFor :
    ∀ entry ∈ entries, CreatedFor paths.output entry.checkpoint entry.id trace := by
  induction ledger with
  | idle idle => exact List.forall_mem_nil _
  | pipeline place logOff journal =>
    subst place
    exact journal.createdFor
  | append first second firstHypothesis secondHypothesis =>
    intro entry member
    rcases List.mem_append.mp member with early | late
    · exact (firstHypothesis entry early).mono (List.prefix_append _ _).isInfix
    · exact (secondHypothesis entry late).mono (List.suffix_append _ _).isInfix

/-- What goes over a checkpoint is a result that the user named. -/
theorem named_of_overwrites {checkpoint : Checkpoint} :
    ∀ exchange ∈ trace, exchange.Overwrites (Checkpoint.path paths.output checkpoint) →
      ∃ path text answer, exchange = ⟨.file (.write path text), answer⟩ ∧
        path ∈ paths.namedOutputs invocation ∧
        path.same (Checkpoint.path paths.output checkpoint) = true := by
  induction ledger with
  | idle idle =>
    intro exchange member covers
    exact absurd covers ((idle exchange member).not_overwrites checkpoint)
  | pipeline place logOff journal =>
    subst place
    intro exchange member covers
    rcases journal.writes_of_overwrites exchange member covers with
      ⟨path, text, answer, rfl, writes, same⟩
    rcases writes.named with named | off
    · exact ⟨path, text, answer, rfl, named, same⟩
    · rw [off checkpoint] at same
      cases same
  | append first second firstHypothesis secondHypothesis =>
    intro exchange member
    exact (List.mem_append.mp member).elim (firstHypothesis exchange) (secondHypothesis exchange)

/-- A checkpoint that no result goes over holds what the ledger lists, behind what it held
before. -/
theorem textAfter_of_spared (checkpoint : Checkpoint)
    (spared : ∀ exchange ∈ trace,
      ¬exchange.Overwrites (Checkpoint.path paths.output checkpoint))
    (text : Option String) :
    textAfter (Checkpoint.path paths.output checkpoint) text trace =
      Checkpoint.recorded text (Entry.idsAt checkpoint entries) := by
  induction ledger generalizing text with
  | idle idle => exact textAfter_of_idle idle checkpoint text
  | pipeline place logOff journal =>
    subst place
    exact journal.textAfter_of_spared logOff checkpoint spared text
  | append first second firstHypothesis secondHypothesis =>
    rcases List.forall_mem_append.mp spared with ⟨front, back⟩
    rw [textAfter_append, firstHypothesis front, secondHypothesis back, Entry.idsAt_append,
      Checkpoint.recorded_append]

/-- A result goes over a checkpoint behind some of the entries and before the others. -/
theorem at_write {checkpoint : Checkpoint} {front back : List Exchange} {path : Path}
    {text : String} {answer : Except Failure Unit}
    (point : trace = front ++ ⟨.file (.write path text), answer⟩ :: back)
    (covers : path.same (Checkpoint.path paths.output checkpoint) = true) :
    ∃ before after, entries = before ++ after ∧ Ledger paths invocation front before ∧
      Ledger paths invocation back after := by
  induction ledger generalizing front back with
  | idle idle =>
    have member : (⟨.file (.write path text), answer⟩ : Exchange) ∈ front ++ _ :: back :=
      List.mem_append_right front List.mem_cons_self
    rw [← point] at member
    exact absurd covers ((idle _ member).not_overwrites checkpoint)
  | pipeline place logOff journal =>
    rcases journal.at_write point with ⟨before, after, rfl, early, late⟩
    exact ⟨before, after, rfl, .pipeline place logOff early, .pipeline place logOff late⟩
  | @append first second entries later firstLedger secondLedger firstHypothesis
      secondHypothesis =>
    rcases List.append_eq_append_iff.mp point with ⟨more, rfl, rest⟩ | ⟨more, rfl, rest⟩
    · rcases secondHypothesis rest with ⟨before, after, rfl, early, late⟩
      exact ⟨entries ++ before, after, (List.append_assoc _ _ _).symm, .append firstLedger early,
        late⟩
    · cases more with
      | nil =>
        have start : second = [] ++ ⟨.file (.write path text), answer⟩ :: back := rest.symm
        rcases secondHypothesis start with ⟨before, after, rfl, early, late⟩
        have both := Ledger.append firstLedger early
        rw [List.append_nil, List.append_nil] at both
        exact ⟨entries ++ before, after, (List.append_assoc _ _ _).symm, both, late⟩
      | cons exchange more =>
        cases rest
        rcases firstHypothesis rfl with ⟨before, after, rfl, early, late⟩
        exact ⟨before, after ++ later, List.append_assoc _ _ _, early, .append late secondLedger⟩

end Ledger

/-! ## Actions with ledgers -/

/-- If no change to a file is refused, what the action does has a ledger. -/
def Action.Ledgered (paths : RunPaths) (invocation : Invocation) {α : Type} (action : Action α) :
    Prop :=
  ∀ trace outcome, action.Yields trace outcome → (∀ exchange ∈ trace, exchange.Granted) →
    ∃ entries, Ledger paths invocation trace entries

namespace Action.Ledgered

variable {paths : RunPaths} {invocation : Invocation} {α β : Type}

theorem idle {action : Action α} (asks : action.Asks (Request.Idle paths.output)) :
    action.Ledgered paths invocation :=
  fun _ _ yields _ => ⟨[], .idle (asks _ _ yields)⟩

theorem bind {action : Action α} {next : α → Action β} (first : action.Ledgered paths invocation)
    (second : ∀ value, (next value).Ledgered paths invocation) :
    (action >>= next).Ledgered paths invocation := by
  intro trace outcome yields granted
  rcases (yields_bind_iff _ _ _ _).mp yields with
    ⟨failure, failed, _⟩ | ⟨front, back, value, rfl, begun, ended⟩
  · exact first _ _ failed granted
  · rcases List.forall_mem_append.mp granted with ⟨grantedFront, grantedBack⟩
    rcases first _ _ begun grantedFront with ⟨entries, early⟩
    rcases second value _ _ ended grantedBack with ⟨later, late⟩
    exact ⟨entries ++ later, .append early late⟩

/-- The pipeline is not broken off, so it has a journal. -/
theorem pipeline {run : RunContext} (place : run.paths = paths)
    (logOff : run.OffCheckpoints run.log.path) (resuming : Bool) :
    Action.Ledgered paths invocation
      (ExceptT.lift ((run.runPipeline invocation).run.run (Progress.start resuming))) := by
  intro trace outcome yields granted
  rcases (yields_lift_iff _ _ _).mp yields with ⟨⟨result, after⟩, runs, _⟩
  have parallel : run.Parallel invocation 0 12 Eq (run.runPipeline invocation)
    (run.runPipeline invocation) := .runPipeline
  rcases parallel.accounted.1 _ _ _ _ runs with ⟨entries, accounts⟩
  cases accounts with
  | whole journal => exact ⟨entries, .pipeline place logOff journal⟩
  | broken breaks =>
    rcases breaks with ⟨front, checkpoint, creation, resource, refusal, notes, rfl, _⟩
    have refused := granted (run.recording checkpoint resource.id (.error refusal))
      (List.mem_append_right front (List.mem_cons_of_mem _ List.mem_cons_self))
    cases refused

theorem perform {run : RunContext} (place : run.paths = paths)
    (logOff : run.OffCheckpoints run.log.path) (resuming : Bool) :
    (run.perform invocation resuming).Ledgered paths invocation := by
  refine .bind (.pipeline place logOff resuming) fun ⟨outcome, progress⟩ => .idle ?_
  subst place
  cases outcome with
  | ok done => exact .pure ()
  | error failure => exact (run.asks_failing _ failure).mono fun _ keeps => keeps.idle logOff

variable {log : SessionLog}
  (logOff : ∀ checkpoint, log.path.same (Checkpoint.path paths.output checkpoint) = false)

include logOff

theorem build (settings : Settings) (environment : Environment) (command : EffectiveCommand)
    (runId : Option RunId) :
    (ModelRuns.build settings environment invocation command runId paths log).Ledgered paths
      invocation := by
  unfold ModelRuns.build
  split
  next =>
    refine .bind (.idle (.ofExcept _)) fun api => ?_
    refine .bind (.idle (.asking (.connect _) (fun answer => answer) trivial)) fun _ => ?_
    refine perform ?_ ?_ command.resuming
    · rfl
    · exact logOff
  next => exact .idle ((log.asks_step _).mono fun _ keeps => keeps.idle logOff)

end Action.Ledgered

/-- What comes after the directory is ready has a ledger. -/
theorem ledgered_proceeding (settings : Settings) (environment : Environment) {session : Session}
    (clearing : Bool) (command : EffectiveCommand) (text : String) (invocation : Invocation)
    (runId : Option RunId) {paths : RunPaths} (log : SessionLog) (off : session.LogsOff paths.output)
    (logOff : ∀ checkpoint, log.path.same (Checkpoint.path paths.output checkpoint) = false) :
    Action.Ledgered paths invocation (do
      beginLog session log clearing command.resuming text runId paths.output
      build settings environment invocation command runId paths log
      Action.note "info" "run.completed" [("output_dir", .text paths.output.text)]
      log.close
      return exitSuccess) := by
  refine .bind (.idle ?_) fun _ => .bind (.build logOff _ _ _ _) fun _ => .idle ?_
  · exact (asks_beginLog _ _ _ _ _).mono fun _ begins => begins.idle off logOff
  · refine .bind (.asking (.note _) .ok trivial) fun _ => ?_
    exact .bind (log.asks_close.mono fun _ keeps => keeps.idle logOff) fun _ => .pure exitSuccess

/-- What is carried out in a directory without checkpoints has a ledger. -/
theorem ledger_carryOut {settings : Settings} {environment : Environment} {session : Session}
    {clearing : Bool} {fallback : Path} {command : EffectiveCommand} {invocation : Invocation}
    {runId : Option RunId} {paths : RunPaths} {files : Path → Option String}
    {earlier trace : List Exchange} {outcome : Except Failure Nat}
    (place : command.paths session invocation fallback = paths) (off : session.LogsOff paths.output)
    (carried : (carryOut settings environment session clearing fallback command invocation
      runId).Yields trace outcome)
    (reports : Throughout (Exchange.Reports files) earlier trace)
    (granted : ∀ exchange ∈ trace, exchange.Granted)
    (absent : ∀ checkpoint, textAfter (Checkpoint.path paths.output checkpoint)
      (files (Checkpoint.path paths.output checkpoint)) earlier = none) :
    ∃ entries, Ledger paths invocation trace entries := by
  rcases (Action.yields_asking_bind_iff (.note _) _ _ _).mp carried with ⟨answer, back, rfl, rest⟩
  simp only [place] at rest
  have absentThen : ∀ checkpoint, textAfter (Checkpoint.path paths.output checkpoint)
      (files (Checkpoint.path paths.output checkpoint)) (earlier ++ [⟨.note _, answer⟩]) = none := by
    intro checkpoint
    rw [textAfter_append, absent checkpoint]
    rfl
  rcases (Action.yields_bind_iff _ _ _ _).mp rest with
    ⟨failure, failed, _⟩ | ⟨prepared, behind, _, rfl, prepares, proceeds⟩
  · refine ⟨[], .idle (List.forall_mem_cons.mpr ⟨trivial, ?_⟩)⟩
    exact idle_prepareOutput reports.2 absentThen failed
  have front := idle_prepareOutput ((Throughout.append_iff _ _ _).mp reports.2).1 absentThen prepares
  have ready : Ledger paths invocation (⟨.note _, answer⟩ :: prepared) [] :=
    .idle (List.forall_mem_cons.mpr ⟨trivial, front⟩)
  have proceeding := ledgered_proceeding settings environment clearing command
    (CommandText.join command.tokens) invocation runId
    ⟨session.sessionLogIn paths.output, 0 < invocation.common.verbosity⟩ off off.sessionLog
  rcases proceeding _ _ proceeds fun exchange member =>
    granted exchange (List.mem_append_right (_ :: prepared) member) with ⟨entries, ledger⟩
  exact ⟨_, .append ready ledger⟩

namespace NewRun

variable (run : NewRun)

def paths : RunPaths :=
  (freshCommand run.arguments).paths run.session run.invocation ⟨defaultDirectoryName run.time⟩

/-- The run has the built-in names of logs and a disk that refuses nothing, and begins in
a directory without checkpoints.  The run log is not kept where they are. -/
structure BeginsClean : Prop where
  builtIn : run.settings.logs = {}
  granted : ∀ exchange ∈ run.trace, exchange.Granted
  absent : ∀ checkpoint, run.files (Checkpoint.path run.output checkpoint) = none
  runLogOff : ∀ file debug answer,
    (⟨.openRunLog (some file) debug, answer⟩ : Exchange) ∈ run.trace → ∀ checkpoint,
      file.same (Checkpoint.path run.output checkpoint) = false

variable {run}

/-- Such a run has a ledger. -/
theorem Proper.ledger (proper : run.Proper) (clean : run.BeginsClean) :
    ∃ entries, Ledger run.paths run.invocation run.trace entries := by
  have off : run.session.LogsOff run.paths.output :=
    Session.logsOff_builtIn clean.builtIn _ _ _
  rcases proper.traced with ⟨begun, ended, split, opens, recorded⟩
  have reports := proper.reports
  have granted := clean.granted
  have runLogOff := clean.runLogOff
  rw [split] at reports granted runLogOff ⊢
  have opening : ∀ exchange ∈ begun, exchange.asked.Idle run.paths.output := by
    intro exchange member
    refine (opens exchange member).idle off fun file debug asked => ?_
    rcases exchange with ⟨_, answer⟩
    cases asked
    exact runLogOff file debug answer (List.mem_append_left _ member)
  rcases recorded with rfl | ⟨_, written, rest, rfl, carried⟩
  · rw [List.append_nil]
    exact ⟨[], .idle opening⟩
  rw [List.append_cons] at reports granted ⊢
  have front : ∀ exchange ∈ begun ++
      [⟨.file (.append run.session.commandLog run.commandLine), written⟩],
        exchange.asked.Idle run.paths.output :=
    List.forall_mem_append.mpr ⟨opening, List.forall_mem_singleton.mpr off.commandLog⟩
  rcases carried with rfl | ⟨clearing, carried⟩
  · rw [List.append_nil]
    exact ⟨[], .idle front⟩
  rcases ledger_carryOut rfl off carried ((Throughout.append_iff _ _ _).mp reports).2
    (fun exchange member => granted exchange (List.mem_append_right _ member))
    (fun checkpoint => (textAfter_of_idle front checkpoint _).trans (clean.absent checkpoint)) with
    ⟨entries, ledger⟩
  exact ⟨_, .append (.idle front) ledger⟩

end NewRun

end ModelRuns
