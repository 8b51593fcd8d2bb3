import ModelRuns.Proofs.Checkpoint.Reset
import ModelRuns.Proofs.Path.Names
import ModelRuns.Proofs.Run.Sharing

namespace ModelRuns

open Stateful

/-!
# What is done in an output directory

A fresh run makes its output directory ready: it removes the checkpoints that it
finds, except those it is given as inputs.  From then on the checkpoints only grow,
by what the run and those that resume it create, wherever each of them is cut short.

`DoneIn` lists all that is done in the directory from that point on.  Runs are cut
short where they like, and other programs may come in between as long as they leave
the checkpoints alone.
-/

/-! ## What a fresh run leaves of the checkpoints -/

/-- The text that a fresh run leaves in a checkpoint: that of an input, or none. -/
def keptText (session : Session) (output : Path) (invocation : Invocation)
    (files : Path → Option String) (checkpoint : Checkpoint) : Option String :=
  let file := Checkpoint.path output checkpoint
  if (invocation.inputFiles.map session.resolve).any (fun input => input.same file) then files file
  else none

/-- What makes an output directory ready for a fresh run leaves the inputs. -/
theorem textAfter_prepareOutput {files : Path → Option String} {output : Path}
    {session : Session} {invocation : Invocation} {earlier trace : List Exchange}
    (ready : (prepareOutput session invocation false output).Yields trace (.ok ()))
    (reports : Throughout (Exchange.Reports files) earlier trace) (checkpoint : Checkpoint)
    (unchanged : textAfter (Checkpoint.path output checkpoint)
      (files (Checkpoint.path output checkpoint)) earlier =
        files (Checkpoint.path output checkpoint)) :
    textAfter (Checkpoint.path output checkpoint) (files (Checkpoint.path output checkpoint))
        (earlier ++ trace) = keptText session output invocation files checkpoint := by
  rcases Action.yields_bind_ok ready with ⟨front, back, _, rfl, made, resetting⟩
  rcases (Action.yields_asking_iff (.file (.makeDirectory output)) (fun answer => answer) _ _).mp
    made with ⟨answer, rfl, _⟩
  rcases Checkpoint.removes_of_yields resetting with ⟨_, removes⟩ | ⟨failure, impossible, _⟩
  · have shown := ((Throughout.append_iff _ _ _).mp reports).2.mono
      fun _ _ told => Exchange.Reports.shows told
    have left := removes.textAfter (fun other same => by
      rw [(Checkpoint.path_same_iff output other checkpoint).mp same]) shown
    have before : textAfter (Checkpoint.path output checkpoint)
        (files (Checkpoint.path output checkpoint))
        (earlier ++ [⟨.file (.makeDirectory output), answer⟩]) =
          files (Checkpoint.path output checkpoint) := by
      rw [textAfter_append, unchanged]
      rfl
    rw [← List.append_assoc, left, before, keptText]
    have stale := @Checkpoint.isStale_path output (invocation.inputFiles.map session.resolve)
      checkpoint
    rw [Checkpoint.isStale] at stale
    rw [stale]
    cases (invocation.inputFiles.map session.resolve).any
      fun input => input.same (Checkpoint.path output checkpoint) <;> rfl
  · cases impossible

/-! ## Attempts -/

/-- A pipeline that works in an output directory, with results and log kept off the
checkpoints. -/
structure Attempt (output : Path) where
  run : RunContext
  invocation : Invocation
  resuming : Bool
  trace : List Exchange
  outcome : Except Failure Unit
  after : Progress
  place : run.paths.output = output
  goes : Goes (run.runPipeline invocation) (Progress.start resuming) trace outcome after
  logOff : run.OffCheckpoints run.log.path
  writesOff : run.WritesOff trace
  valid : ∀ made ∈ created trace, made.2.Valid

/-- The service gave the identifier to a request that a run in the directory sent for
the checkpoint, and its line was written there at once. -/
def CreatedFor (output : Path) (checkpoint : Checkpoint) (id : ResourceId)
    (trace : List Exchange) : Prop :=
  ∃ (run : RunContext) (invocation : Invocation) (creation : Creation) (resource : Resource),
    run.paths.output = output ∧ run.Sends invocation checkpoint creation ∧ resource.id = id ∧
      [RunContext.creating creation resource, run.recording checkpoint id (.ok ())] <:+: trace

theorem CreatedFor.mono {output : Path} {checkpoint : Checkpoint} {id : ResourceId}
    {part whole : List Exchange} (created : CreatedFor output checkpoint id part)
    (inside : part <:+: whole) : CreatedFor output checkpoint id whole := by
  rcases created with ⟨run, invocation, creation, resource, place, sent, given, listed⟩
  exact ⟨run, invocation, creation, resource, place, sent, given, listed.trans inside⟩

theorem CreatedFor.mem_created {output : Path} {checkpoint : Checkpoint} {id : ResourceId}
    {trace : List Exchange} (made : CreatedFor output checkpoint id trace) :
    ∃ creation, (creation, id) ∈ created trace := by
  rcases made with ⟨run, invocation, creation, resource, place, sent, rfl, listed⟩
  exact ⟨creation, List.mem_filterMap.mpr
    ⟨RunContext.creating creation resource, listed.subset List.mem_cons_self, rfl⟩⟩

/-- What a journal lists was created for its checkpoint. -/
theorem RunContext.Journal.createdFor {run : RunContext} {invocation : Invocation}
    {trace : List Exchange} {entries : List Entry}
    (journal : run.Journal invocation trace entries) :
    ∀ entry ∈ entries, CreatedFor run.paths.output entry.checkpoint entry.id trace := by
  induction journal with
  | nil => exact List.forall_mem_nil _
  | aside _ _ inductionHypothesis =>
    exact fun entry member => (inductionHypothesis entry member).mono (List.suffix_cons _ _).isInfix
  | @entry trace entries checkpoint creation resource sent _ inductionHypothesis =>
    have behind : trace <:+: creating creation resource ::
        run.recording checkpoint resource.id (.ok ()) :: trace :=
      ((List.suffix_cons _ _).trans (List.suffix_cons _ _)).isInfix
    refine List.forall_mem_cons.mpr ⟨?_, fun entry member =>
      (inductionHypothesis entry member).mono behind⟩
    exact ⟨run, invocation, creation, resource, rfl, sent, rfl, [], trace, rfl⟩

theorem RunContext.SetAside.isPrefix {run : RunContext} {front counted : List Exchange}
    (aside : run.SetAside front counted) : counted <+: front := by
  cases aside with
  | nothing => exact List.prefix_rfl
  | last => exact List.prefix_append _ _
  | refused => exact List.prefix_append _ _

/-- Whenever an attempt is cut short, it has appended to the checkpoints what it has
created for them. -/
theorem Attempt.appended {output : Path} (attempt : Attempt output) {cut : List Exchange}
    (stopped : cut <+: attempt.trace) :
    ∃ own : List Entry,
      (∀ entry ∈ own, entry.id.Valid ∧ CreatedFor output entry.checkpoint entry.id cut) ∧
      ∀ checkpoint text, textAfter (Checkpoint.path output checkpoint) text cut =
        Checkpoint.recorded text (Entry.idsAt checkpoint own) := by
  rcases attempt with
    ⟨run, invocation, resuming, trace, outcome, after, rfl, goes, logOff, writesOff, valid⟩
  have parallel : run.Parallel invocation 0 12 Eq (run.runPipeline invocation)
    (run.runPipeline invocation) := .runPipeline
  rcases parallel.accounted.1 _ _ _ _ goes with ⟨entries, accounts⟩
  rcases accounts.point stopped with ⟨counted, own, aside, inside, journal⟩
  refine ⟨own, fun entry member => ⟨?_, ?_⟩, fun checkpoint text => ?_⟩
  · apply valid entry.made
    have listed : entry.made ∈ created counted := by
      rw [journal.created]
      exact List.mem_map_of_mem member
    exact (inside.filterMap _).subset listed
  · exact (journal.createdFor entry member).mono aside.isPrefix.isInfix
  · rcases inside with ⟨rest, rfl⟩
    rw [aside.textAfter, journal.textAfter logOff (RunContext.WritesOff.append_iff.mp writesOff).1]

/-! ## All that is done in the directory -/

/-- An exchange that changes no checkpoint. -/
def Exchange.PassesBy (output : Path) (exchange : Exchange) : Prop :=
  ∀ checkpoint, exchange.changes (Checkpoint.path output checkpoint) = false

/-- What was done since a fresh run made an output directory ready: attempts, each cut
short at some point, and whatever else leaves the checkpoints alone. -/
inductive DoneIn (session : Session) (output : Path) (invocation : Invocation) :
    List Exchange → Prop
  | ready {before prepared : List Exchange}
      (passing : ∀ exchange ∈ before, exchange.PassesBy output)
      (prepares : (prepareOutput session invocation false output).Yields prepared (.ok ())) :
      DoneIn session output invocation (before ++ prepared)
  | aside {earlier : List Exchange} {exchange : Exchange}
      (done : DoneIn session output invocation earlier) (passes : exchange.PassesBy output) :
      DoneIn session output invocation (earlier ++ [exchange])
  | attempt {earlier cut : List Exchange} (done : DoneIn session output invocation earlier)
      (attempt : Attempt output) (stopped : cut <+: attempt.trace) :
      DoneIn session output invocation (earlier ++ cut)

namespace DoneIn

variable {session : Session} {output : Path} {invocation : Invocation}

/-- At every point the checkpoints hold what was kept of them, and behind it what the
attempts so far have created for them. -/
theorem appended {trace : List Exchange} {files : Path → Option String}
    (done : DoneIn session output invocation trace)
    (reports : Throughout (Exchange.Reports files) [] trace) :
    ∃ own : List Entry,
      (∀ entry ∈ own, entry.id.Valid ∧ CreatedFor output entry.checkpoint entry.id trace) ∧
      ∀ checkpoint, textAfter (Checkpoint.path output checkpoint)
          (files (Checkpoint.path output checkpoint)) trace =
        Checkpoint.recorded (keptText session output invocation files checkpoint)
          (Entry.idsAt checkpoint own) := by
  induction done with
  | @ready before prepared passing prepares =>
    refine ⟨[], List.forall_mem_nil _, fun checkpoint => ?_⟩
    have untouched : changesAt (Checkpoint.path output checkpoint) before = [] := by
      rw [changesAt, List.filter_eq_nil_iff]
      exact fun exchange member => Bool.eq_false_iff.mp (passing exchange member checkpoint)
    exact textAfter_prepareOutput prepares ((Throughout.append_iff _ _ _).mp reports).2 checkpoint
      (textAfter_of_changesAt_nil _ untouched _)
  | aside _ passes inductionHypothesis =>
    rcases inductionHypothesis ((Throughout.append_iff _ _ _).mp reports).1 with ⟨own, made, texts⟩
    refine ⟨own, fun entry member => ⟨(made entry member).1,
      (made entry member).2.mono (List.prefix_append _ _).isInfix⟩, fun checkpoint => ?_⟩
    rw [textAfter_append, texts, textAfter_cons, textAfter_nil,
      Exchange.applyTo_of_not_changes (passes checkpoint)]
  | attempt _ attempt stopped inductionHypothesis =>
    rcases inductionHypothesis ((Throughout.append_iff _ _ _).mp reports).1 with
      ⟨before, madeBefore, textsBefore⟩
    rcases attempt.appended stopped with ⟨own, made, texts⟩
    refine ⟨before ++ own, fun entry member => ?_, fun checkpoint => ?_⟩
    · rcases List.mem_append.mp member with early | late
      · exact ⟨(madeBefore entry early).1,
          (madeBefore entry early).2.mono (List.prefix_append _ _).isInfix⟩
      · exact ⟨(made entry late).1, (made entry late).2.mono (List.suffix_append _ _).isInfix⟩
    · rw [textAfter_append, textsBefore, texts, Checkpoint.recorded_append, Entry.idsAt_append]

theorem passing {earlier between : List Exchange} (done : DoneIn session output invocation earlier)
    (passing : ∀ exchange ∈ between, exchange.PassesBy output) :
    DoneIn session output invocation (earlier ++ between) := by
  induction between generalizing earlier with
  | nil =>
    rw [List.append_nil]
    exact done
  | cons exchange rest inductionHypothesis =>
    have next := inductionHypothesis (done.aside (passing exchange List.mem_cons_self))
      fun other member => passing other (List.mem_cons_of_mem _ member)
    rwa [List.append_assoc] at next

end DoneIn

/-! ## Whole invocations -/

/-- No result and no run log goes over a checkpoint, and the service gives valid
identifiers. -/
structure Orderly (output : Path) (trace : List Exchange) : Prop where
  kept : ∀ checkpoint, ∀ exchange ∈ trace,
    ¬exchange.Overwrites (Checkpoint.path output checkpoint)
  valid : ∀ made ∈ created trace, made.2.Valid

theorem Orderly.append_iff {output : Path} {front back : List Exchange} :
    Orderly output (front ++ back) ↔ Orderly output front ∧ Orderly output back := by
  constructor
  · rintro ⟨kept, valid⟩
    rw [created_append] at valid
    exact ⟨⟨fun checkpoint exchange member => kept checkpoint exchange (List.mem_append_left _ member),
        fun made member => valid made (List.mem_append_left _ member)⟩,
      ⟨fun checkpoint exchange member => kept checkpoint exchange (List.mem_append_right _ member),
        fun made member => valid made (List.mem_append_right _ member)⟩⟩
  · rintro ⟨first, second⟩
    refine ⟨fun checkpoint exchange member => ?_, fun made member => ?_⟩
    · exact (List.mem_append.mp member).elim (first.kept checkpoint exchange)
        (second.kept checkpoint exchange)
    · rw [created_append] at member
      exact (List.mem_append.mp member).elim (first.valid made) (second.valid made)

/-- Wherever the action is cut short, what it did belongs to what is done in the
directory. -/
def Action.WorksIn (session : Session) (output : Path) (invocation : Invocation) {α : Type}
    (action : Action α) : Prop :=
  ∀ earlier trace outcome cut, DoneIn session output invocation earlier →
    action.Yields trace outcome → Orderly output trace → cut <+: trace →
    DoneIn session output invocation (earlier ++ cut)

namespace Action.WorksIn

variable {session : Session} {output : Path} {invocation : Invocation} {α β : Type}

theorem bind {action : Action α} {next : α → Action β}
    (first : action.WorksIn session output invocation)
    (second : ∀ value, (next value).WorksIn session output invocation) :
    (action >>= next).WorksIn session output invocation := by
  intro earlier trace outcome cut done yields orderly stopped
  rcases (yields_bind_iff _ _ _ _).mp yields with
    ⟨failure, failed, _⟩ | ⟨front, back, value, rfl, begun, ended⟩
  · exact first _ _ _ _ done failed orderly stopped
  rcases Orderly.append_iff.mp orderly with ⟨orderlyFront, orderlyBack⟩
  rcases List.prefix_or_prefix_of_prefix stopped (List.prefix_append front back) with
    within | ⟨rest, rfl⟩
  · exact first _ _ _ _ done begun orderlyFront within
  · rw [← List.append_assoc]
    exact second value _ _ _ _ (first _ _ _ _ done begun orderlyFront List.prefix_rfl) ended
      orderlyBack ((List.prefix_append_right_inj front).mp stopped)

/-- An action that spares the checkpoints. -/
theorem spares {action : Action α}
    (asks : ∀ checkpoint, action.Asks (Request.Spares (Checkpoint.path output checkpoint))) :
    action.WorksIn session output invocation := by
  intro earlier trace outcome cut done yields orderly stopped
  refine done.passing fun exchange member checkpoint => ?_
  have listed := stopped.subset member
  exact Exchange.not_changes_of_spares (asks checkpoint trace outcome yields exchange listed)
    (orderly.kept checkpoint exchange listed)

/-- The pipeline is an attempt. -/
theorem pipeline {run : RunContext} (place : run.paths.output = output)
    (logOff : run.OffCheckpoints run.log.path) (asked : Invocation) (resuming : Bool) :
    Action.WorksIn session output invocation
      (ExceptT.lift ((run.runPipeline asked).run.run (Progress.start resuming))) := by
  intro earlier trace outcome cut done yields orderly stopped
  rcases (yields_lift_iff _ _ _).mp yields with ⟨⟨result, after⟩, runs, _⟩
  have writesOff : run.WritesOff trace := by
    intro path text answer member checkpoint
    rw [place]
    exact Bool.eq_false_iff.mpr (orderly.kept checkpoint _ member)
  exact done.attempt ⟨run, asked, resuming, trace, result, after, place, runs, logOff, writesOff,
    orderly.valid⟩ stopped

theorem perform {run : RunContext} (place : run.paths.output = output)
    (logOff : run.OffCheckpoints run.log.path) (asked : Invocation) (resuming : Bool) :
    (run.perform asked resuming).WorksIn session output invocation := by
  refine .bind (.pipeline place logOff asked resuming) fun ⟨outcome, progress⟩ => ?_
  refine .spares fun checkpoint => ?_
  have off := logOff checkpoint
  rw [place] at off
  cases outcome with
  | ok done => exact .pure ()
  | error failure => exact (run.asks_failing _ failure).spares off

theorem build {log : SessionLog} {paths : RunPaths} (place : paths.output = output)
    (logOff : ∀ checkpoint, log.path.same (Checkpoint.path output checkpoint) = false)
    (settings : Settings) (environment : Environment) (asked : Invocation)
    (command : EffectiveCommand) (runId : Option RunId) :
    (ModelRuns.build settings environment asked command runId paths log).WorksIn session output
      invocation := by
  subst place
  unfold ModelRuns.build
  split
  next =>
    refine bind (spares fun _ => .ofExcept _) fun api => ?_
    refine bind (spares fun _ => .asking (.connect _) (fun answer => answer) trivial) fun _ => ?_
    refine perform ?_ ?_ asked command.resuming
    · rfl
    · exact logOff
  next => exact .spares fun checkpoint => (log.asks_step _).spares (logOff checkpoint)

end Action.WorksIn

/-- The logs and the copy of the defaults file are not where the checkpoints are. -/
structure Session.LogsOff (session : Session) (output : Path) : Prop where
  sessionLog : ∀ checkpoint,
    (session.sessionLogIn output).same (Checkpoint.path output checkpoint) = false
  commandLog : ∀ checkpoint,
    session.commandLog.same (Checkpoint.path output checkpoint) = false
  directoryLog : ∀ checkpoint,
    session.directoryLog.same (Checkpoint.path output checkpoint) = false
  copy : ∀ name, session.defaultsFile.fileName? = some name → ∀ checkpoint,
    (output.child name).same (Checkpoint.path output checkpoint) = false

theorem Session.LogsOff.log {session : Session} {output : Path} (off : session.LogsOff output)
    {paths : RunPaths} (place : paths.output = output) (checkpoint : Checkpoint) :
    (session.sessionLogIn paths.output).same (Checkpoint.path output checkpoint) = false := by
  rw [place]
  exact off.sessionLog checkpoint

/-- A file of one of the shared names is no checkpoint. -/
theorem Mode.sharedName_off (mode : Mode) {name : String} (shared : name ∈ mode.sharedNames)
    (directory output : Path) (checkpoint : Checkpoint) :
    (directory.child name).same (Checkpoint.path output checkpoint) = false := by
  refine Path.child_same_child _ _ (mode.sharedNames_plain name shared)
    checkpoint.fileName_isPlain ?_
  rintro rfl
  exact mode.checkpoint_not_mem_sharedNames checkpoint shared

/-- With the built-in names the logs are not where checkpoints are. -/
theorem Session.logsOff_builtIn {settings : Settings} (builtIn : settings.logs = {})
    (directory : Path) (mode : Mode) (output : Path) :
    (Session.of settings directory mode).LogsOff output where
  sessionLog := by
    intro checkpoint
    have named : (Session.of settings directory mode).sessionLogIn output =
        output.child ({} : LogNames).sessionsLog := by
      simp only [Session.sessionLogIn, Session.of, builtIn]
    rw [named]
    exact Path.child_same_child _ _ (by decide) checkpoint.fileName_isPlain
      (by cases checkpoint <;> decide)
  commandLog := by
    rw [commandLog_builtIn builtIn]
    exact mode.sharedName_off (by simp [Mode.sharedNames]) directory output
  directoryLog := by
    rw [directoryLog_builtIn builtIn]
    exact mode.sharedName_off (by simp [Mode.sharedNames]) directory output
  copy := by
    intro name named
    have known : (Session.of settings directory mode).defaultsFile.fileName? =
        some defaultsFileName := Path.fileName?_child directory (by decide)
    cases known.symm.trans named
    exact mode.sharedName_off (by simp [Mode.sharedNames]) output output

section

variable {settings : Settings} {environment : Environment} {session : Session} {clearing : Bool}
  {command : EffectiveCommand} {asked : Invocation} {runId : Option RunId} {output : Path}

/-- What comes after the directory is ready is done in it. -/
theorem worksIn_proceeding (first : Session) (invocation : Invocation) {paths : RunPaths}
    {log : SessionLog} (place : paths.output = output)
    (logOff : ∀ checkpoint, log.path.same (Checkpoint.path output checkpoint) = false)
    (directoriesOff : ∀ checkpoint,
      session.directoryLog.same (Checkpoint.path output checkpoint) = false) :
    Action.WorksIn first output invocation (do
      beginLog session log clearing command.resuming (CommandText.join command.tokens) runId
        paths.output
      build settings environment asked command runId paths log
      Action.note "info" "run.completed" [("output_dir", .text paths.output.text)]
      log.close
      return exitSuccess) := by
  refine .bind ?_ fun _ => .bind ?_ fun _ => ?_
  · exact .spares fun checkpoint => (asks_beginLog _ _ _ _ _).mono fun _ begins =>
      begins.spares (logOff checkpoint) (.inr (directoriesOff checkpoint))
  · exact .build place logOff _ _ _ _ _
  · refine .spares fun checkpoint => .bind (.asking (.note _) .ok trivial) fun _ => ?_
    exact .bind (log.asks_close.spares (logOff checkpoint)) fun _ => .pure exitSuccess

variable {fallback : Path} {trace cut : List Exchange} {outcome : Except Failure Nat}
  (place : (command.paths session asked fallback).output = output) (off : session.LogsOff output)
  (carried : (carryOut settings environment session clearing fallback command asked runId).Yields
    trace outcome)
  (orderly : Orderly output trace) (stopped : cut <+: trace)

include place off carried orderly stopped

/-- A fresh invocation that has come as far as the record of its directory has made the
directory ready, and works there from then on. -/
theorem DoneIn.of_carryOut (fresh : command.resuming = false)
    (recorded : ∃ line answer, (⟨.file (.append session.directoryLog line), answer⟩ : Exchange) ∈
      cut) : DoneIn session output asked cut := by
  rcases (Action.yields_asking_bind_iff (.note _) _ _ _).mp carried with ⟨answer, back, rfl, rest⟩
  rcases recorded with ⟨line, recording, member⟩
  -- The directory is recorded behind everything that makes it ready.
  have beyond : ∀ {prepared : List Exchange} {result : Except Failure Unit},
      (prepareOutput session asked command.resuming
        (command.paths session asked fallback).output).Yields prepared result →
      ¬cut <+: ⟨.note _, answer⟩ :: prepared := by
    intro prepared result prepares within
    have unappended : (prepareOutput session asked command.resuming
        (command.paths session asked fallback).output).Asks
        fun request => ∀ path line, request ≠ .file (.append path line) := by
      refine asks_prepareOutput ?_ (fun _ => nofun) asked command.resuming
      rintro _ unchanged path line rfl
      cases unchanged
    rcases List.mem_cons.mp (within.subset member) with impossible | listed
    · cases impossible
    · exact unappended _ _ prepares _ listed _ _ rfl
  rcases (Action.yields_bind_iff _ _ _ _).mp rest with
    ⟨failure, failed, _⟩ | ⟨prepared, behind, _, rfl, prepares, proceeds⟩
  · exact absurd stopped (beyond failed)
  rcases List.prefix_or_prefix_of_prefix stopped (List.prefix_append (_ :: prepared) behind) with
    within | ⟨later, rfl⟩
  · exact absurd within (beyond prepares)
  rw [place, fresh] at prepares
  have ready : DoneIn session output asked ([⟨.note _, answer⟩] ++ prepared) :=
    .ready (List.forall_mem_singleton.mpr fun _ => rfl) prepares
  rw [← List.cons_append, ← List.singleton_append] at orderly
  refine worksIn_proceeding session asked place ?_ off.directoryLog _ _ _ _ ready proceeds
    (Orderly.append_iff.mp orderly).2 ((List.prefix_append_right_inj (_ :: prepared)).mp stopped)
  exact off.log place

/-- An invocation that resumes works in the directory. -/
theorem DoneIn.carryOut {first : Session} {invocation : Invocation} {earlier : List Exchange}
    (done : DoneIn first output invocation earlier) (resumes : command.resuming = true) :
    DoneIn first output invocation (earlier ++ cut) := by
  have works : Action.WorksIn first output invocation
      (ModelRuns.carryOut settings environment session clearing fallback command asked runId) := by
    refine .bind (.spares fun _ => .asking (.note _) .ok trivial) fun _ => .bind ?_ fun _ => ?_
    · rw [resumes]
      refine .spares fun _ => .bind ?_ fun _ => .pure ()
      exact .asking (.file (.makeDirectory _)) (fun answer => answer) trivial
    · exact worksIn_proceeding first invocation place (off.log place) off.directoryLog
  exact works _ _ _ _ done carried orderly stopped

end

end ModelRuns
