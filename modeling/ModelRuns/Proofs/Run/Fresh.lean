import ModelRuns.Proofs.Command.Directories
import ModelRuns.Proofs.Run.History

namespace ModelRuns

/-!
# What a new run leaves in shared files

A new run goes through three stages.  It opens, which may empty the logs; it records its
command; and it carries the command out, which records its output directory on the way.
It may stop behind each request.

So of the shared files the logs get at most one line each, behind what was there or alone,
and the defaults file stays as it was.  This holds of every run, whatever fails, and of
every cut of a run.
-/

/-- A run of a new command: the call, and what it has to go on with. -/
structure NewRun extends Call where
  arguments : List String
  settings : Settings
  invocation : Invocation
  time : Instant

namespace NewRun

variable (run : NewRun)

def session : Session := run.launch.session run.settings run.arguments

def runId : RunId := freshId run.arguments run.time

/-- The line of its command. -/
def commandLine : String := (freshRecord run.arguments run.time).line

/-- The output directory of its places. -/
def output : Path :=
  ((freshCommand run.arguments).paths run.session run.invocation
    ⟨defaultDirectoryName run.time⟩).output

/-- The line of its output directory. -/
def directoryLine : String := DirectoryRecord.line ⟨some run.runId, run.output⟩

/-- The call is one of a new command, with files as they are.  No result and no run log
goes where a shared file is. -/
structure Valid : Prop where
  opened : run.opening = .ok (run.arguments, run.settings)
  fresh : resumeToken ∉ run.arguments
  read : Invocation.read run.arguments = .ok run.invocation
  clock : firstClock run.trace = some run.time
  small : run.time.recordSeconds ≤ largestWord64
  absolute : run.launch.directory.isAbsolute = true
  runs : run.launch.invoke.Yields run.trace run.outcome
  reports : Throughout (Exchange.Reports run.files) [] run.trace
  kept : ∀ path ∈ run.session.sharedFiles, ∀ exchange ∈ run.trace, ¬exchange.Overwrites path

/-- The call is one of a new command, with files as they are, and its results may go
anywhere. -/
structure Proper : Prop where
  opened : run.opening = .ok (run.arguments, run.settings)
  fresh : resumeToken ∉ run.arguments
  read : Invocation.read run.arguments = .ok run.invocation
  clock : firstClock run.trace = some run.time
  runs : run.launch.invoke.Yields run.trace run.outcome
  reports : Throughout (Exchange.Reports run.files) [] run.trace

theorem Valid.proper {run : NewRun} (valid : run.Valid) : run.Proper :=
  ⟨valid.opened, valid.fresh, valid.read, valid.clock, valid.runs, valid.reports⟩

end NewRun

/-- A request that comes before a run records itself. -/
def Request.Opens (session : Session) (asked : Request) : Prop :=
  asked.Looks ∨ asked = .file (.truncate session.commandLog) ∨
    asked = .file (.truncate session.directoryLog) ∨ (∃ line, asked = .printErrorLine line) ∨
    ∃ file debug, asked = .openRunLog file debug

/-- Before a run records itself it changes nothing but what it empties. -/
theorem Request.Opens.empties {session : Session} {exchange : Exchange}
    (opens : exchange.asked.Opens session) {path : Path} (changed : exchange.changes path = true) :
    exchange = emptied session.commandLog ∨ exchange = emptied session.directoryLog := by
  rcases exchange with ⟨asked, answer⟩
  rcases opens with looks | rfl | rfl | ⟨line, rfl⟩ | ⟨file, debug, rfl⟩
  · rcases looks with inspects | rfl
    · rw [Exchange.not_changes_of_inspects inspects] at changed
      cases changed
    · cases changed
  · cases answer with
    | error failure => cases changed
    | ok done => exact .inl rfl
  · cases answer with
    | error failure => cases changed
    | ok done => exact .inr rfl
  · cases changed
  · cases changed

theorem asks_clearing_opens (session : Session) (clearing : Bool) :
    (Action.when clearing (clearSessionLogs session)).Asks (Request.Opens session) := by
  refine .when ((asks_clearSessionLogs session).mono fun asked known => .inr ?_)
  rcases known with command | directory | printed
  · exact .inl command
  · exact .inr (.inl directory)
  · exact .inr (.inr (.inl printed))

theorem asks_clearing_ne_now (session : Session) (clearing : Bool) :
    (Action.when clearing (clearSessionLogs session)).Asks (· ≠ .now) := by
  refine .when ((asks_clearSessionLogs session).mono ?_)
  rintro asked (rfl | rfl | ⟨line, rfl⟩) <;> exact nofun

theorem RunPaths.output_isAbsolute {directory : Path} (absolute : directory.isAbsolute = true)
    (output predictions : Option Path) (defaultName : String) (fallback : Path) :
    (RunPaths.resolve directory output predictions defaultName fallback).output.isAbsolute =
      true := by
  have inside := Path.absolutize_isAbsolute absolute
  cases output with
  | some output => exact inside output
  | none =>
    cases predictions with
    | none => exact inside fallback
    | some predictions =>
      unfold RunPaths.resolve
      dsimp only
      split
      next => exact inside fallback
      next =>
        split
        next => exact inside fallback
        next =>
          cases above : (absolutize directory predictions).parent? with
          | none => exact absolute
          | some parent => exact Path.parent?_isAbsolute (inside predictions) above

/-- A new run opens, records its command, and carries it out.  It may stop behind each of
these. -/
theorem NewRun.Proper.traced {run : NewRun} (proper : run.Proper) :
    ∃ begun ended, run.trace = begun ++ ended ∧
    (∀ exchange ∈ begun, exchange.asked.Opens run.session) ∧
    (ended = [] ∨ run.invocation.check = .ok () ∧ ∃ written rest,
      ended = ⟨.file (.append run.session.commandLog run.commandLine), written⟩ :: rest ∧
      (rest = [] ∨ ∃ clearing, (carryOut run.settings (readEnvironment run.launch.environment)
        run.session clearing ⟨defaultDirectoryName run.time⟩ (freshCommand run.arguments)
        run.invocation (some run.runId)).Yields rest run.outcome)) := by
  have opened : run.launch.opening
      (run.files (run.launch.directory.child defaultsFileName)) =
        .ok (run.arguments, run.settings) := proper.opened
  rcases Launch.yields_invoke proper.runs proper.reports with
    ⟨failure, refused, _⟩ | ⟨_, _, front, back, known, split, inspects, ran⟩
  · rw [textAfter_nil, opened] at refused
    cases refused
  rw [textAfter_nil, opened] at known
  cases known
  have looks : ∀ exchange ∈ front, exchange.asked.Opens run.session :=
    fun exchange member => .inl (.inl (inspects exchange member))
  rcases yields_runArguments ran with
    ⟨failure, failed, _⟩ | ⟨cleared, time, rest, rfl, begun, goesOn⟩
  · refine ⟨run.trace, [], (List.append_nil _).symm, ?_, .inl rfl⟩
    rw [split]
    exact List.forall_mem_append.mpr ⟨looks, asks_clearing_opens _ _ _ _ failed⟩
  -- Nothing before it looks at the clock, so the time of the record is the first one shown.
  have unclocked : ∀ exchange ∈ front ++ cleared, exchange.asked ≠ .now := by
    intro exchange member now
    rcases List.mem_append.mp member with before | behind
    · have looked := inspects exchange before
      rw [now] at looked
      exact looked
    · exact asks_clearing_ne_now _ _ _ _ begun exchange behind now
  have clock := proper.clock
  rw [split, ← List.append_assoc, firstClock_append unclocked] at clock
  cases clock
  rw [effectiveCommand_fresh _ _ proper.fresh, pure_bind] at goesOn
  unfold runCommand at goesOn
  rw [show (freshCommand run.arguments).tokens = recordedTokens run.arguments from rfl,
    Invocation.read_recordedTokens, proper.read] at goesOn
  rcases yields_runInvocation_fresh _ _ _ proper.fresh _ _ _ _ goesOn with
    ⟨answer, back, rfl, stopped⟩
  refine ⟨front ++ cleared ++ [⟨.now, run.time⟩, ⟨.openRunLog _ _, answer⟩], back, ?_, ?_, ?_⟩
  · rw [split]
    simp
  · have clears := asks_clearing_opens _ _ _ _ begun
    refine List.forall_mem_append.mpr ⟨List.forall_mem_append.mpr ⟨looks, clears⟩, ?_⟩
    exact List.forall_mem_cons.mpr ⟨.inl (.inr rfl), List.forall_mem_singleton.mpr
      (.inr (.inr (.inr (.inr ⟨_, _, rfl⟩))))⟩
  · rcases stopped with ⟨_, rfl⟩ | ⟨checked, written, rest, rfl, ⟨_, rfl⟩ | ⟨_, carried⟩⟩
    · exact .inl rfl
    · exact .inr ⟨checked, written, [], rfl, .inl rfl⟩
    · exact .inr ⟨checked, written, rest, rfl, .inr ⟨_, carried⟩⟩

namespace NewRun.Valid

variable {run : NewRun} (valid : run.Valid)

include valid

/-- The output directory of a run has an absolute path. -/
theorem output_isAbsolute : run.output.isAbsolute = true :=
  RunPaths.output_isAbsolute valid.absolute _ _ _ _

variable (apart : run.session.SharesApart run.output)

include apart

/-- Carrying out a new command changes no shared file but the directory log. -/
theorem changesAt_carryOut {path : Path} (shared : path ∈ run.session.sharedFiles)
    {clearing : Bool} {trace : List Exchange}
    (carried : (carryOut run.settings (readEnvironment run.launch.environment) run.session clearing
      ⟨defaultDirectoryName run.time⟩ (freshCommand run.arguments) run.invocation
      (some run.runId)).Yields trace run.outcome)
    (kept : ∀ exchange ∈ trace, ¬exchange.Overwrites path) :
    changesAt path trace = [] ∨ path = run.session.directoryLog ∧
      changesAt path trace = [appending path run.directoryLine] := by
  have off := apart.output path shared
  by_cases inLog : path = run.session.directoryLog
  · subst inLog
    have once := appendsOnce_carryOut _ _ _ _ _ _ _ rfl off _ _ carried kept
    have same : run.session.resolve run.output = run.output :=
      run.session.resolve_of_isAbsolute valid.output_isAbsolute
    rw [directoryLine, ← same]
    exact once.imp id fun appended => ⟨rfl, appended⟩
  · have elsewhere : run.session.directoryLog.same path = false := by
      refine Bool.eq_false_iff.mpr fun same => inLog ?_
      exact (apart.eq_of_same (List.mem_cons_of_mem _ List.mem_cons_self) shared same).symm
    exact .inl (changesAt_eq_nil path
      (spares_carryOut _ _ _ _ _ _ _ _ off (.inr elsewhere) _ _ carried) kept)

/-- What a new run does to a shared file: the two logs may be emptied, and then each gets
at most the line of the run. -/
theorem changesAt_sharedFile {path : Path} (shared : path ∈ run.session.sharedFiles) :
    ∃ front back, changesAt path run.trace = front ++ back ∧
      (∀ exchange ∈ front, exchange = emptied path ∧
        (path = run.session.commandLog ∨ path = run.session.directoryLog)) ∧
      (back = [] ∨
        path = run.session.commandLog ∧ back = [appending path run.commandLine] ∨
        path = run.session.directoryLog ∧ back = [appending path run.directoryLine]) := by
  have commandShared : run.session.commandLog ∈ run.session.sharedFiles := List.mem_cons_self
  have directoryShared : run.session.directoryLog ∈ run.session.sharedFiles :=
    List.mem_cons_of_mem _ List.mem_cons_self
  rcases valid.proper.traced with ⟨begun, ended, split, opens, recorded⟩
  have kept := valid.kept path shared
  rw [split] at kept ⊢
  refine ⟨changesAt path begun, changesAt path ended, changesAt_append _ _ _, ?_, ?_⟩
  · intro exchange member
    rcases List.mem_filter.mp member with ⟨listed, changed⟩
    rcases (opens exchange listed).empties changed with rfl | rfl
    · cases apart.eq_of_same commandShared shared changed
      exact ⟨rfl, .inl rfl⟩
    · cases apart.eq_of_same directoryShared shared changed
      exact ⟨rfl, .inr rfl⟩
  rcases recorded with rfl | ⟨_, written, rest, rfl, carried⟩
  · exact .inl rfl
  have later : changesAt path rest = [] ∨ path = run.session.directoryLog ∧
      changesAt path rest = [appending path run.directoryLine] := by
    rcases carried with rfl | ⟨clearing, carried⟩
    · exact .inl rfl
    · exact valid.changesAt_carryOut apart shared carried fun exchange member =>
        kept exchange (List.mem_append_right _ (List.mem_cons_of_mem _ member))
  -- The line of the command is in the file only if the file is the command log.
  by_cases recorded : written = .ok () ∧ path = run.session.commandLog
  · rcases recorded with ⟨rfl, rfl⟩
    have quiet : changesAt run.session.commandLog rest = [] := by
      refine later.resolve_right fun both => ?_
      exact (List.nodup_cons.mp apart.nodup).1 (both.1 ▸ List.mem_cons_self)
    refine .inr (.inl ⟨rfl, ?_⟩)
    have changed := changesAt_cons_of_changes _
      (changes_appending run.session.commandLog run.commandLine) rest
    rw [quiet] at changed
    exact changed
  · have missed : (⟨.file (.append run.session.commandLog run.commandLine), written⟩ :
        Exchange).changes path = false := by
      cases written with
      | error failure => rfl
      | ok done =>
        refine Bool.eq_false_iff.mpr fun same => recorded ⟨rfl, ?_⟩
        exact (apart.eq_of_same commandShared shared same).symm
    rw [changesAt_cons_of_not_changes _ missed]
    exact later.imp id .inr

theorem appends_commandLog :
    AtMostAppends run.session.commandLog run.commandLine run.trace := by
  rcases valid.changesAt_sharedFile apart List.mem_cons_self with
    ⟨front, back, changes, emptying, last⟩
  refine ⟨front, back, changes, fun exchange member => (emptying exchange member).1, ?_⟩
  rcases last with rfl | ⟨_, rfl⟩ | ⟨same, _⟩
  · exact .inl rfl
  · exact .inr rfl
  · exact absurd (same ▸ List.mem_cons_self) (List.nodup_cons.mp apart.nodup).1

theorem appends_directoryLog :
    AtMostAppends run.session.directoryLog run.directoryLine run.trace := by
  rcases valid.changesAt_sharedFile apart (List.mem_cons_of_mem _ List.mem_cons_self) with
    ⟨front, back, changes, emptying, last⟩
  refine ⟨front, back, changes, fun exchange member => (emptying exchange member).1, ?_⟩
  rcases last with rfl | ⟨same, _⟩ | ⟨_, rfl⟩
  · exact .inl rfl
  · exact absurd (same ▸ List.mem_cons_self) (List.nodup_cons.mp apart.nodup).1
  · exact .inr rfl

theorem changesAt_defaultsFile : changesAt run.session.defaultsFile run.trace = [] := by
  have nodup := apart.nodup
  simp only [Session.sharedFiles, List.nodup_cons, List.mem_cons, List.not_mem_nil, or_false,
    not_or] at nodup
  have neither : ¬(run.session.defaultsFile = run.session.commandLog ∨
      run.session.defaultsFile = run.session.directoryLog) := by
    rintro (command | directory)
    · exact nodup.1.2 command.symm
    · exact nodup.2.1 directory.symm
  have shared : run.session.defaultsFile ∈ run.session.sharedFiles := by
    simp [Session.sharedFiles]
  rcases valid.changesAt_sharedFile apart shared with
    ⟨front, back, changes, emptying, last⟩
  have noFront : front = [] := List.eq_nil_iff_forall_not_mem.mpr fun exchange member =>
    neither (emptying exchange member).2
  have noBack : back = [] := last.resolve_right fun recorded =>
    neither (recorded.imp And.left And.left)
  rw [changes, noFront, noBack]
  rfl

omit apart in
/-- A run that recorded its command had no objection to its options. -/
theorem checked (recorded : appending run.session.commandLog run.commandLine ∈ run.trace) :
    run.invocation.check = .ok () := by
  rcases valid.proper.traced with ⟨begun, ended, split, opens, rfl | ⟨checked, _⟩⟩
  · rw [split, List.append_nil] at recorded
    rcases (opens _ recorded).empties (changes_appending _ _) with impossible | impossible <;>
      cases impossible
  · exact checked

end NewRun.Valid

end ModelRuns
