import ModelRuns.Proofs.Path.Components
import ModelRuns.Proofs.Pipeline.WriteAhead
import ModelRuns.Proofs.Trace.Changes
import ModelRuns.Run.Invoke

namespace ModelRuns

/-!
# What an invocation does to shared files

An invocation works in its output directory: it appends to the session log and to
checkpoints there, and removes what earlier runs left.  Every other file is spared, and
so are the two logs that all runs share, but for the requests that empty them and the
two that record the run.

These requests come one after the other, so what an invocation does to a shared log is
known from where it stops.
-/

/-- The session log and the checkpoints of an output directory are not this file. -/
structure Session.KeepsOff (session : Session) (output path : Path) : Prop where
  sessionLog : (session.sessionLogIn output).same path = false
  checkpoint : ∀ checkpoint, (Checkpoint.path output checkpoint).same path = false

theorem Session.KeepsOff.log {session : Session} {output path : Path}
    (off : session.KeepsOff output path) (echo : Bool) :
    (SessionLog.mk (session.sessionLogIn output) echo).path.same path = false := off.sessionLog

/-! ## The session log -/

/-- What is asked to keep a session log. -/
inductive SessionLog.Keeps (log : SessionLog) : Request → Prop
  | note (event : RunEvent) : log.Keeps (.note event)
  | now : log.Keeps .now
  | print (line : String) : log.Keeps (.printLine line)
  | append (line : String) : log.Keeps (.file (.append log.path line))
  | truncate : log.Keeps (.file (.truncate log.path))

namespace SessionLog

theorem Keeps.spares {log : SessionLog} {path : Path} {asked : Request} (keeps : log.Keeps asked)
    (off : log.path.same path = false) : asked.Spares path := by
  cases keeps with
  | append line => exact off
  | truncate => exact off
  | _ => trivial

variable (log : SessionLog)

theorem asks_raw (text : String) : (log.raw text).Asks log.Keeps :=
  .asking (.file (.append _ _)) (fun answer => answer) (.append text)

theorem asks_close : log.close.Asks log.Keeps := log.asks_raw separator

theorem asks_clear : log.clear.Asks log.Keeps :=
  .asking (.file (.truncate _)) (fun answer => answer) .truncate

theorem asks_step (message : String) : (log.step message).Asks log.Keeps := by
  refine .bind (.asking .now .ok .now) fun time => ?_
  refine .bind (log.asks_raw _) fun _ => .ite ?_ (.pure ())
  exact .asking (.printLine _) (fun answer => answer) (.print _)

theorem asks_emptyLog : (emptyLog log).Asks log.Keeps := by
  refine .bind log.asks_clear.attempt fun result => ?_
  cases result with
  | ok done => exact .pure ()
  | error failure => exact .asking (.note _) .ok (.note _)

end SessionLog

theorem Action.Asks.spares {α : Type} {action : Action α} {log : SessionLog} {path : Path}
    (asks : action.Asks log.Keeps) (off : log.path.same path = false) :
    action.Asks (Request.Spares path) :=
  asks.mono fun _ keeps => keeps.spares off

/-! ## The pipeline -/

/-- The file that a request changes.  What opens the run log changes none: the run log is
kept apart from the files. -/
def Request.changed? : Request → Option Path
  | .file (.write path _) => some path
  | .file (.append path _) => some path
  | .file (.truncate path) => some path
  | .file (.remove path) => some path
  | _ => none

theorem Request.spares_of_changed? {asked : Request} (unchanging : asked.changed? = none)
    (path : Path) : asked.Spares path := by
  cases asked with
  | file request =>
    cases request with
    | append _ _ => cases unchanging
    | truncate _ => cases unchanging
    | remove _ => cases unchanging
    | _ => trivial
  | _ => trivial

namespace RunContext

/-- A condition on requests that a pipeline meets: besides requests that change no file, it
keeps its session log, extends its checkpoints and writes its results. -/
structure Admits (run : RunContext) (invocation : Invocation) (allowed : Request → Prop) :
    Prop where
  quiet : ∀ asked, asked.changed? = none → allowed asked
  log : ∀ asked, run.log.Keeps asked → allowed asked
  checkpoint : ∀ checkpoint line,
    allowed (.file (.append (Checkpoint.path run.paths.output checkpoint) line))
  result : ∀ path text, run.Writes invocation path → allowed (.file (.write path text))

variable {run : RunContext} {invocation : Invocation} {path : Path}

theorem admits_spares (logOff : run.log.path.same path = false)
    (checkpointsOff : ∀ checkpoint,
      (Checkpoint.path run.paths.output checkpoint).same path = false) :
    run.Admits invocation (Request.Spares path) where
  quiet _ unchanging := Request.spares_of_changed? unchanging path
  log _ keeps := keeps.spares logOff
  checkpoint checkpoint _ := checkpointsOff checkpoint
  result _ _ _ := trivial

namespace Admits

variable {allowed : Request → Prop} (admits : run.Admits invocation allowed)

include admits

theorem aside {exchange : Exchange} (aside : run.Aside invocation exchange) :
    allowed exchange.asked := by
  rcases exchange with ⟨asked, answer⟩
  cases asked with
  | file request =>
    cases request with
    | write path text => exact admits.result path text aside
    | append path line =>
      have logged : path = run.log.path := aside
      exact admits.log _ (logged ▸ .append line)
    | truncate path => exact absurd aside id
    | remove path => exact absurd aside id
    | _ => exact admits.quiet _ rfl
  | _ => exact admits.quiet _ rfl

theorem journal {trace : List Exchange} {entries : List Entry}
    (journal : run.Journal invocation trace entries) : ∀ exchange ∈ trace, allowed exchange.asked := by
  induction journal with
  | nil => exact List.forall_mem_nil _
  | aside aside _ inductionHypothesis =>
    exact List.forall_mem_cons.mpr ⟨admits.aside aside, inductionHypothesis⟩
  | entry checkpoint creation resource sent _ inductionHypothesis =>
    exact List.forall_mem_cons.mpr ⟨admits.quiet _ rfl,
      List.forall_mem_cons.mpr ⟨admits.checkpoint checkpoint _, inductionHypothesis⟩⟩

theorem accounts {α : Type} {trace : List Exchange} {outcome : Except Failure α}
    {entries : List Entry} (accounts : run.Accounts invocation trace outcome entries) :
    ∀ exchange ∈ trace, allowed exchange.asked := by
  cases accounts with
  | whole journal => exact admits.journal journal
  | broken breaks =>
    rcases breaks with ⟨middle, checkpoint, creation, resource, refusal, notes, rfl, sent, journal,
      noted⟩
    have quiet := admits.journal (journal.append (.of_notes noted))
    intro exchange member
    rcases List.mem_append.mp member with before | behind
    · exact quiet exchange (List.mem_append_left _ before)
    rcases List.mem_cons.mp behind with rfl | behind
    · exact admits.quiet _ rfl
    rcases List.mem_cons.mp behind with rfl | last
    · exact admits.checkpoint checkpoint _
    · exact quiet exchange (List.mem_append_right _ last)

end Admits

/-- After a pipeline has failed, only the session log is kept. -/
theorem asks_failing (run : RunContext) (reason : String) (failure : Failure) :
    Action.Asks run.log.Keeps (do
      Action.note "error" "run.failed" [("reason", .text reason)]
      let _ ← ExceptT.lift (run.log.step ("Run failed at " ++ reason)).attempt
      let _ ← ExceptT.lift run.log.close.attempt
      throw failure : Action Unit) := by
  refine .bind (.asking (.note _) .ok (.note _)) fun _ => ?_
  refine .bind (run.log.asks_step _).attempt fun _ => ?_
  exact .bind run.log.asks_close.attempt fun _ => .throw failure

theorem asks_perform {allowed : Request → Prop} (admits : run.Admits invocation allowed)
    (resuming : Bool) : (run.perform invocation resuming).Asks allowed := by
  refine .bind ?_ fun ⟨outcome, progress⟩ => ?_
  · intro trace outcome yields
    rcases (Action.yields_lift_iff _ _ _).mp yields with ⟨⟨result, after⟩, runs, _⟩
    have parallel : Parallel run invocation 0 12 Eq (run.runPipeline invocation)
      (run.runPipeline invocation) := Parallel.runPipeline
    rcases parallel.accounted.1 _ _ _ _ runs with ⟨entries, accounts⟩
    exact admits.accounts accounts
  · cases outcome with
    | ok done => exact .pure ()
    | error failure => exact (run.asks_failing _ failure).mono admits.log

end RunContext

/-! ## The output directory -/

section

variable {session : Session} {output path : Path}

/-- Making the output directory ready removes checkpoints and nothing else. -/
theorem asks_prepareOutput {allowed : Request → Prop}
    (quiet : ∀ asked : Request, asked.changed? = none → allowed asked)
    (removed : ∀ checkpoint, allowed (.file (.remove (Checkpoint.path output checkpoint))))
    (invocation : Invocation) (resuming : Bool) :
    (prepareOutput session invocation resuming output).Asks allowed := by
  have removing (inputs : List Path) (checkpoints : List Checkpoint) :
      (Checkpoint.removeAll output inputs checkpoints).Asks allowed := by
    induction checkpoints with
    | nil => exact .pure ()
    | cons checkpoint rest inductionHypothesis =>
      refine .bind (.asking (.file (.fileExists _)) .ok (quiet _ rfl)) fun present => ?_
      refine .ite (.ite ?_ inductionHypothesis) inductionHypothesis
      refine .bind ?_ fun _ => inductionHypothesis
      exact .asking (.file (.remove _)) (fun answer => answer) (removed checkpoint)
  refine .bind ?_ fun _ => .when (removing _ _)
  exact .asking (.file (.makeDirectory _)) (fun answer => answer) (quiet _ rfl)

/-- What is asked to begin a session log.  A new run also copies the defaults file and
records its output directory. -/
inductive Session.Begins (session : Session) (log : SessionLog) (output : Path)
    (resuming : Bool) : Request → Prop
  | keeps {asked : Request} (keeps : log.Keeps asked) : Begins session log output resuming asked
  | find (path : Path) : Begins session log output resuming (.file (.fileExists path))
  | read (path : Path) : Begins session log output resuming (.file (.read path))
  | copy (name text : String) (named : session.defaultsFile.fileName? = some name) :
      Begins session log output resuming (.file (.write (output.child name) text))
  | place (line : String) (new : resuming = false) :
      Begins session log output resuming (.file (.append session.directoryLog line))

theorem Session.Begins.spares {log : SessionLog} {resuming : Bool} {asked : Request}
    (begins : session.Begins log output resuming asked) (off : log.path.same path = false)
    (unrecorded : resuming = true ∨ session.directoryLog.same path = false) :
    asked.Spares path := by
  cases begins with
  | keeps keeps => exact keeps.spares off
  | place line new =>
    rcases unrecorded with resumes | apart
    · rw [new] at resumes
      cases resumes
    · exact apart
  | _ => trivial

theorem asks_copyDefaults (session : Session) (output : Path) (log : SessionLog)
    (resuming : Bool) :
    (copyDefaults session output).Asks (session.Begins log output resuming) := by
  refine .bind (.asking (.file (.fileExists _)) .ok (.find _)) fun present => ?_
  refine .ite ?_ (.pure ())
  cases named : session.defaultsFile.fileName? with
  | none => exact .pure ()
  | some name =>
    refine .bind (Action.Asks.attempt ?_) fun result => ?_
    · refine .bind ?_ fun text => ?_
      · exact .asking (.file (.read _)) (fun answer => answer) (.read _)
      · exact .asking (.file (.write _ _)) (fun answer => answer) (.copy name text named)
    · cases result with
      | ok done => exact .pure ()
      | error failure => exact .asking (.note _) .ok (.keeps (.note _))

theorem asks_recordOutput (log : SessionLog) (runId : Option RunId) :
    (recordOutput session runId output).Asks (session.Begins log output false) := by
  cases runId with
  | none => exact .pure ()
  | some id => exact .asking (.file (.append _ _)) (fun answer => answer) (.place _ rfl)

theorem asks_beginLog (log : SessionLog) (clearing resuming : Bool) (command : String)
    (runId : Option RunId) :
    (beginLog session log clearing resuming command runId output).Asks
      (session.Begins log output resuming) := by
  refine .bind (.when (log.asks_emptyLog.mono fun _ => .keeps)) fun _ => ?_
  cases resuming with
  | true => exact (log.asks_step _).mono fun _ => .keeps
  | false =>
    refine .bind ((log.asks_raw _).mono fun _ => .keeps) fun _ => ?_
    exact .bind (asks_copyDefaults _ _ log false) fun _ => asks_recordOutput log runId

end

/-- A new run puts its directory into the log as the last thing before it builds. -/
theorem appendsOnce_beginLog {session : Session} {output : Path}
    (off : session.KeepsOff output session.directoryLog) (echo clearing : Bool) (command : String)
    (id : RunId) :
    (beginLog session ⟨session.sessionLogIn output, echo⟩ clearing false command (some id)
      output).AppendsOnce session.directoryLog
        (DirectoryRecord.line ⟨some id, session.resolve output⟩) := by
  refine .behind (.when ((SessionLog.asks_emptyLog _).spares (off.log echo))) fun _ => ?_
  refine .behind ((SessionLog.asks_raw _ _).spares (off.log echo)) fun _ => ?_
  have copying := asks_copyDefaults session output ⟨session.sessionLogIn output, echo⟩ true
  exact .behind (copying.mono fun _ begins => begins.spares (off.log echo) (.inl rfl)) fun _ =>
    .appendLine

/-! ## The run of a command -/

/-- A condition on requests that the run of a command meets in its places: besides requests
that change no file, it removes checkpoints, begins its session log and goes through the
pipeline. -/
structure Session.Admits (session : Session) (log : SessionLog) (paths : RunPaths)
    (invocation : Invocation) (resuming : Bool) (allowed : Request → Prop) : Prop where
  removed : ∀ checkpoint, allowed (.file (.remove (Checkpoint.path paths.output checkpoint)))
  begins : ∀ asked, session.Begins log paths.output resuming asked → allowed asked
  pipeline : ∀ run : RunContext, run.log = log → run.paths = paths → run.Admits invocation allowed

/-- A file that is neither a checkpoint nor a log is spared. -/
theorem Session.KeepsOff.admits {session : Session} {paths : RunPaths} {path : Path}
    (off : session.KeepsOff paths.output path) (echo : Bool) (invocation : Invocation)
    {resuming : Bool} (unrecorded : resuming = true ∨ session.directoryLog.same path = false) :
    session.Admits ⟨session.sessionLogIn paths.output, echo⟩ paths invocation resuming
      (Request.Spares path) where
  removed := off.checkpoint
  begins _ begins := begins.spares (off.log echo) unrecorded
  pipeline run log places := by
    subst places
    exact RunContext.admits_spares (log ▸ off.log echo) off.checkpoint

section

variable {session : Session} {log : SessionLog} {paths : RunPaths} {invocation : Invocation}
  {resuming : Bool} {allowed : Request → Prop}

/-- What comes after the directory of a run is recorded. -/
theorem asks_conclude
    (pipeline : ∀ run : RunContext, run.log = log → run.paths = paths →
      run.Admits invocation allowed)
    (kept : ∀ asked, log.Keeps asked → allowed asked)
    (quiet : ∀ asked : Request, asked.changed? = none → allowed asked) (settings : Settings)
    (environment : Environment) (command : EffectiveCommand) (runId : Option RunId) :
    Action.Asks allowed (do
      build settings environment invocation command runId paths log
      Action.note "info" "run.completed" [("output_dir", .text paths.output.text)]
      log.close
      return exitSuccess) := by
  refine .bind (.ite ?_ ((log.asks_step _).mono kept)) fun _ => ?_
  · refine .bind (.ofExcept _) fun api => ?_
    refine .bind (.asking (.connect _) (fun answer => answer) (quiet _ rfl)) fun _ => ?_
    exact RunContext.asks_perform (pipeline _ rfl rfl) command.resuming
  · refine .bind (.asking (.note _) .ok (quiet _ rfl)) fun _ => ?_
    exact .bind (log.asks_close.mono kept) fun _ => .pure exitSuccess

end

section

variable (settings : Settings) (environment : Environment) (session : Session) (clearing : Bool)
  (fallback : Path) (command : EffectiveCommand) (invocation : Invocation) (runId : Option RunId)

/-- Once its command is recorded, an invocation asks what its places admit. -/
theorem asks_carryOut {allowed : Request → Prop}
    (quiet : ∀ asked : Request, asked.changed? = none → allowed asked)
    (admits : session.Admits ⟨session.sessionLogIn (command.paths session invocation fallback).output,
      0 < invocation.common.verbosity⟩ (command.paths session invocation fallback) invocation
        command.resuming allowed) :
    (carryOut settings environment session clearing fallback command invocation runId).Asks
      allowed := by
  refine .bind (.asking (.note _) .ok (quiet _ rfl)) fun _ => ?_
  refine .bind (asks_prepareOutput quiet admits.removed _ _) fun _ => ?_
  refine .bind ((asks_beginLog _ _ _ _ _).mono admits.begins) fun _ => ?_
  exact asks_conclude admits.pipeline (fun asked keeps => admits.begins _ (.keeps keeps)) quiet _ _ _ _

/-- So it spares the file, except where the directory of a new run is recorded. -/
theorem spares_carryOut {path : Path}
    (off : session.KeepsOff (command.paths session invocation fallback).output path)
    (unrecorded : command.resuming = true ∨ session.directoryLog.same path = false) :
    (carryOut settings environment session clearing fallback command invocation runId).Asks
      (Request.Spares path) :=
  asks_carryOut _ _ _ _ _ _ _ _ (fun _ unchanging => Request.spares_of_changed? unchanging path)
    (off.admits _ invocation unrecorded)

end

/-- A new run changes the log of directories at most by its own directory. -/
theorem appendsOnce_carryOut (settings : Settings) (environment : Environment) (session : Session)
    (clearing : Bool) (fallback : Path) {command : EffectiveCommand} (invocation : Invocation)
    (id : RunId) (new : command.resuming = false)
    (off : session.KeepsOff (command.paths session invocation fallback).output
      session.directoryLog) :
    (carryOut settings environment session clearing fallback command invocation
      (some id)).AppendsOnce session.directoryLog (DirectoryRecord.line
        ⟨some id, session.resolve (command.paths session invocation fallback).output⟩) := by
  refine .behind (.asking (.note _) .ok trivial) fun _ => ?_
  have quiet : ∀ asked : Request, asked.changed? = none → asked.Spares session.directoryLog :=
    fun _ unchanging => Request.spares_of_changed? unchanging _
  have admits := off.admits (0 < invocation.common.verbosity) invocation (.inl rfl)
  refine .behind (asks_prepareOutput quiet off.checkpoint _ _) fun _ => ?_
  refine .before ?_ fun _ => asks_conclude admits.pipeline
    (fun _ keeps => keeps.spares (off.log _)) quiet _ _ _ _
  rw [new]
  exact appendsOnce_beginLog off _ _ _ id

/-- A command that resumes spares the file, wherever it works. -/
theorem asks_runCommand_resuming (settings : Settings) (environment : Environment)
    (session : Session) (clearing : Bool) (time : Instant) (fallback : Path)
    {command : EffectiveCommand} (resumes : command.resuming = true) {path : Path}
    (off : ∀ output, session.KeepsOff output path) :
    (runCommand settings environment session clearing time fallback command).Asks
      (Request.Spares path) := by
  have known : identify session command time = pure command.runId := by
    rw [identify, resumes, Bool.or_true, if_pos rfl]
  unfold runCommand
  split
  next => exact .bind (.asking .printHelp .ok trivial) fun _ => .pure exitSuccess
  next => exact .throw _
  next =>
    refine .bind (.asking (.openRunLog _ _) (fun answer => answer) trivial) fun _ => ?_
    refine .bind (.ofExcept _) fun _ => ?_
    rw [known, pure_bind]
    exact spares_carryOut _ _ _ _ _ _ _ _ (off _) (.inl resumes)

end ModelRuns
