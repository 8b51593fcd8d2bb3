import ModelRuns.Proofs.Command.Resumable
import ModelRuns.Proofs.Run.Requests

namespace ModelRuns

/-!
# How an invocation begins

Before an invocation builds anything it goes through a fixed list of requests: it reads
the defaults file, empties the logs if that is asked for, looks at the clock, recalls a
command if it resumes one, opens the run log, and records itself if it is new.  Each of
these may be the last.

The lemmas here take a trace apart along that list.  What lies beyond it is
`carryOut`, whose effects on the shared logs are known already.
-/

/-- A request that only looks at a file. -/
def Request.Inspects : Request → Prop
  | .file (.read _) => True
  | .file (.fileExists _) => True
  | _ => False

/-- A request that looks at a file or at the clock. -/
def Request.Looks (asked : Request) : Prop := asked.Inspects ∨ asked = .now

theorem Request.spares_of_inspects {asked : Request} (inspects : asked.Inspects) {path : Path} :
    asked.Spares path := by
  cases asked with
  | file request =>
    cases request with
    | read target => trivial
    | fileExists target => trivial
    | _ => exact absurd inspects id
  | _ => exact absurd inspects id

theorem Exchange.not_changes_of_inspects {exchange : Exchange}
    (inspects : exchange.asked.Inspects) (path : Path) : exchange.changes path = false := by
  rcases exchange with ⟨asked, answer⟩
  cases asked with
  | file request =>
    cases request with
    | read target => rfl
    | fileExists target => rfl
    | _ => exact absurd inspects id
  | _ => exact absurd inspects id

theorem changesAt_of_inspects {trace : List Exchange}
    (inspects : ∀ exchange ∈ trace, exchange.asked.Inspects) (path : Path) :
    changesAt path trace = [] := by
  rw [changesAt, List.filter_eq_nil_iff]
  intro exchange member
  rw [Exchange.not_changes_of_inspects (inspects exchange member)]
  exact Bool.false_ne_true

/-! ## The clock -/

/-- The time that the clock shows. -/
def Exchange.clock? : Exchange → Option Instant
  | ⟨.now, time⟩ => some time
  | _ => none

/-- The time when the clock is looked at for the first time. -/
def firstClock (trace : List Exchange) : Option Instant := trace.findSome? Exchange.clock?

theorem Exchange.clock?_of_ne_now {exchange : Exchange} (other : exchange.asked ≠ .now) :
    exchange.clock? = none := by
  rcases exchange with ⟨asked, answer⟩
  cases asked with
  | now => exact absurd rfl other
  | _ => rfl

theorem firstClock_append {front : List Exchange}
    (others : ∀ exchange ∈ front, exchange.asked ≠ .now) (back : List Exchange) :
    firstClock (front ++ back) = firstClock back := by
  have timeless : front.findSome? Exchange.clock? = none :=
    List.findSome?_eq_none_iff.mpr fun exchange member =>
      Exchange.clock?_of_ne_now (others exchange member)
  rw [firstClock, List.findSome?_append, timeless, Option.none_or, firstClock]

theorem firstClock_append_of_inspects {front : List Exchange}
    (inspects : ∀ exchange ∈ front, exchange.asked.Inspects) (back : List Exchange) :
    firstClock (front ++ back) = firstClock back := by
  refine firstClock_append (fun exchange member now => ?_) back
  have looks := inspects exchange member
  rw [now] at looks
  exact looks

theorem Exchange.clock?_of_timedAnswer {files : Path → Option String} {time : Instant}
    {earlier : List Exchange} {exchange : Exchange}
    (answered : exchange.answer = timedAnswer files time earlier exchange.asked) :
    exchange.clock? = none ∨ exchange.clock? = some time := by
  rcases exchange with ⟨asked, answer⟩
  cases asked with
  | now => exact .inr (congrArg some answered)
  | _ => exact .inl rfl

/-! ## Reading -/

namespace Action

variable {files : Path → Option String} {earlier trace : List Exchange}

theorem asks_readIfThere (path : Path) : (readIfThere path).Asks Request.Inspects := by
  refine .bind (.asking (.file (.fileExists path)) .ok trivial) fun present => ?_
  exact .ite (.asking (.file (.read path)) (fun answer => answer) trivial) (.pure "")

theorem asks_blameLog {α : Type} {allowed : Request → Prop} {action : Action α}
    (asks : action.Asks allowed) (path : Path) : (blameLog path action).Asks allowed := by
  intro trace outcome yields
  rcases (yields_blameLog_iff _ _ _ _).mp yields with ⟨result, inner, _⟩
  exact asks trace result inner

/-- Recalling a command changes nothing. -/
theorem asks_recall (session : Session) (current : List String) (default : Path) :
    (session.recall current default).Asks Request.Inspects := by
  refine .bind (asks_blameLog (.bind (asks_readIfThere _) fun _ => .ofExcept _) _) fun records => ?_
  have found : ∀ last : CommandRecord, (do
      let directories ← blameLog session.directoryLog (readDirectories session.directoryLog)
      return StoredCommand.mk last.runId (replayTokens last.tokens current)
        ((findDirectory last.runId directories).getD (session.resolve default))).Asks
      Request.Inspects := fun last =>
    .bind (asks_blameLog (.bind (asks_readIfThere _) fun _ => .pure _) _) fun _ => .pure _
  split
  next => exact .throw _
  next last _ => exact .ite (.bind (.throw _) fun _ => found last) (found last)

theorem asks_loadSettings (directory : Path) :
    (Settings.load directory).Asks Request.Inspects := by
  refine .bind (.asking (.file (.fileExists _)) .ok trivial) fun present => ?_
  refine .ite (.bind ?_ fun text => .ofExcept _) (.ofExcept _)
  exact .asking (.file (.read _)) (fun answer => answer) trivial

/-- Loading gives the settings for the text of the defaults file. -/
theorem yields_loadSettings (directory : Path) (outcome : Except Failure Settings)
    (yields : (Settings.load directory).Yields trace outcome)
    (reports : Throughout (Exchange.Reports files) earlier trace) :
    outcome = Settings.ofDefaults (textAfter (directory.child defaultsFileName)
      (files (directory.child defaultsFileName)) earlier) := by
  unfold Settings.load at yields
  generalize directory.child defaultsFileName = path at yields ⊢
  rcases (yields_asking_bind_iff (.file (.fileExists path)) _ _ _).mp yields with
    ⟨present, back, rfl, rest⟩
  have told : present = (textAfter path (files path) earlier).isSome := reports.1
  cases known : textAfter path (files path) earlier with
  | none =>
    have absent : present = false := by rw [told, known]; rfl
    subst absent
    simp only [Bool.false_eq_true, if_false] at rest
    exact ((yields_ofExcept_iff _ _ _).mp rest).2
  | some text =>
    have there : present = true := by rw [told, known]; rfl
    subst there
    simp only [if_true] at rest
    have unchanged : textAfter path (files path)
        (earlier ++ [⟨.file (.fileExists path), true⟩]) = some text := by
      rw [textAfter_append, known]
      rfl
    rcases (yields_bind_iff _ _ _ _).mp rest with
      ⟨failure, failed, rfl⟩ | ⟨front, back, value, rfl, read, rest⟩
    · rcases (yields_asking_iff (.file (.read path)) id _ _).mp failed with ⟨answer, rfl, same⟩
      have told : answer = .ok text := reports.2.1 text unchanged
      cases same.trans told
    · rcases (yields_asking_iff (.file (.read path)) id _ _).mp read with ⟨answer, rfl, same⟩
      have told : answer = .ok text := reports.2.1 text unchanged
      cases same.trans told
      exact ((yields_ofExcept_iff _ _ _).mp rest).2

end Action

/-! ## The arguments and the settings -/

/-- What a launch has to go on with: its arguments, and the settings for the text of the
defaults file. -/
def Launch.opening (launch : Launch) (defaults : Option String) :
    Except Failure (List String × Settings) := do
  let arguments ← launch.arguments.mapM readArgument
  let settings ← Settings.ofDefaults defaults
  return (arguments, settings)

theorem Launch.opening_ok_iff (launch : Launch) (defaults : Option String)
    (arguments : List String) (settings : Settings) :
    launch.opening defaults = .ok (arguments, settings) ↔
      launch.arguments.mapM readArgument = .ok arguments ∧
        Settings.ofDefaults defaults = .ok settings := by
  unfold Launch.opening
  cases launch.arguments.mapM readArgument with
  | error failure => simp [bind, Except.bind]
  | ok read =>
    cases Settings.ofDefaults defaults with
    | error failure => simp [bind, Except.bind]
    | ok loaded => simp [bind, Except.bind, pure, Except.pure]

/-- The session that a launch works in. -/
def Launch.session (launch : Launch) (settings : Settings) (arguments : List String) : Session :=
  Session.of settings launch.directory (Mode.ofArguments arguments)

/-- A launch only looks at files before its arguments and settings are known, and goes no
further if they cannot be. -/
theorem Launch.yields_invoke {launch : Launch} {files : Path → Option String}
    {earlier trace : List Exchange} {outcome : Except Failure Nat}
    (yields : launch.invoke.Yields trace outcome)
    (reports : Throughout (Exchange.Reports files) earlier trace) :
    (∃ failure, launch.opening (textAfter (launch.directory.child defaultsFileName)
        (files (launch.directory.child defaultsFileName)) earlier) = .error failure ∧
      outcome = .error failure ∧ ∀ exchange ∈ trace, exchange.asked.Inspects) ∨
    ∃ arguments settings front back,
      launch.opening (textAfter (launch.directory.child defaultsFileName)
        (files (launch.directory.child defaultsFileName)) earlier) = .ok (arguments, settings) ∧
      trace = front ++ back ∧ (∀ exchange ∈ front, exchange.asked.Inspects) ∧
      (runArguments settings (readEnvironment launch.environment)
        (launch.session settings arguments) arguments).Yields back outcome := by
  unfold Launch.invoke at yields
  unfold Launch.opening
  rcases (Action.yields_bind_iff _ _ _ _).mp yields with
    ⟨failure, failed, rfl⟩ | ⟨none, rest, arguments, rfl, read, goesOn⟩
  · rcases (Action.yields_ofExcept_iff _ _ _).mp failed with ⟨rfl, unreadable⟩
    exact .inl ⟨failure, by rw [← unreadable]; rfl, rfl, List.forall_mem_nil _⟩
  rcases (Action.yields_ofExcept_iff _ _ _).mp read with ⟨rfl, readable⟩
  rw [List.nil_append] at reports ⊢
  rcases (Action.yields_bind_iff _ _ _ _).mp goesOn with
    ⟨failure, failed, rfl⟩ | ⟨front, back, settings, rfl, loaded, ran⟩
  · have found := Action.yields_loadSettings _ _ failed reports
    refine .inl ⟨failure, ?_, rfl, Action.asks_loadSettings _ _ _ failed⟩
    rw [← readable, ← found]
    rfl
  · have found := Action.yields_loadSettings _ _ loaded ((Throughout.append_iff _ _ _).mp reports).1
    have inspects := Action.asks_loadSettings _ _ _ loaded
    refine .inr ⟨arguments, settings, front, back, ?_, rfl, inspects, ran⟩
    rw [← readable, ← found]
    rfl

/-- A launch whose arguments can be read begins with loading its settings. -/
theorem Launch.exists_loading {launch : Launch} {files : Path → Option String}
    {trace : List Exchange} {outcome : Except Failure Nat} {arguments : List String}
    (readable : launch.arguments.mapM readArgument = .ok arguments)
    (yields : launch.invoke.Yields trace outcome)
    (reports : Throughout (Exchange.Reports files) [] trace) :
    ∃ loading, loading <+: trace ∧ (Settings.load launch.directory).Yields loading
      (Settings.ofDefaults (files (launch.directory.child defaultsFileName))) := by
  rcases (Action.yields_bind_iff _ _ _ _).mp yields with
    ⟨failure, failed, _⟩ | ⟨none, rest, found, rfl, parsed, goesOn⟩
  · cases readable.symm.trans ((Action.yields_ofExcept_iff _ _ _).mp failed).2.symm
  rcases (Action.yields_ofExcept_iff _ _ _).mp parsed with ⟨rfl, _⟩
  rw [List.nil_append] at reports ⊢
  rcases (Action.yields_bind_iff _ _ _ _).mp goesOn with
    ⟨failure, failed, _⟩ | ⟨loading, back, settings, rfl, loaded, _⟩
  · exact ⟨rest, List.prefix_rfl, Action.yields_loadSettings _ _ failed reports ▸ failed⟩
  · have told := ((Throughout.append_iff _ _ _).mp reports).1
    exact ⟨loading, List.prefix_append _ _, Action.yields_loadSettings _ _ loaded told ▸ loaded⟩

/-! ## Emptying the logs -/

/-- No change to a file was refused, nor the run log. -/
def Exchange.Granted : Exchange → Prop
  | ⟨.file (.write _ _), answer⟩ => answer = .ok ()
  | ⟨.file (.append _ _), answer⟩ => answer = .ok ()
  | ⟨.file (.truncate _), answer⟩ => answer = .ok ()
  | ⟨.file (.makeDirectory _), answer⟩ => answer = .ok ()
  | ⟨.file (.remove _), answer⟩ => answer = .ok ()
  | ⟨.openRunLog _ _, answer⟩ => answer = .ok ()
  | _ => True

theorem Exchange.granted_of_timedAnswer (files : Path → Option String) (time : Instant)
    (earlier : List Exchange) (exchange : Exchange)
    (answered : exchange.answer = timedAnswer files time earlier exchange.asked) :
    exchange.Granted := by
  rcases exchange with ⟨asked, answer⟩
  cases asked with
  | file request =>
    cases request with
    | read path => trivial
    | list path => trivial
    | fileExists path => trivial
    | _ => exact answered
  | openRunLog file debug => exact answered
  | _ => trivial

theorem runs_clearLogs (paths : List Path) {trace : List Exchange} {cleared : List Path}
    (runs : (clearLogs paths).Runs trace cleared) :
    (∀ exchange ∈ trace, ∃ path ∈ paths, exchange.asked = .file (.truncate path)) ∧
      ((∀ exchange ∈ trace, exchange.Granted) → trace = paths.map emptied ∧ cleared = paths) := by
  induction paths generalizing trace cleared with
  | nil =>
    rcases (Program.runs_done_iff _ _ _).mp runs with ⟨rfl, rfl⟩
    exact ⟨List.forall_mem_nil _, fun _ => ⟨rfl, rfl⟩⟩
  | cons path rest inductionHypothesis =>
    rcases (Program.runs_ask_iff (.file (.truncate path)) _ _ _).mp runs with
      ⟨answer, later, rfl, goesOn⟩
    -- The bound on what is asked grows with the list, whether this file could be emptied or not.
    have alsoFirst : (∀ exchange ∈ later, ∃ other ∈ rest,
          exchange.asked = .file (.truncate other)) →
        ∀ exchange ∈ ⟨.file (.truncate path), answer⟩ :: later, ∃ other ∈ path :: rest,
          exchange.asked = .file (.truncate other) := by
      rintro asked exchange (_ | ⟨_, member⟩)
      · exact ⟨path, List.mem_cons_self, rfl⟩
      · rcases asked exchange member with ⟨other, listed, same⟩
        exact ⟨other, List.mem_cons_of_mem path listed, same⟩
    cases answer with
    | ok done =>
      rw [Program.done_bind] at goesOn
      rcases (Program.runs_bind_iff _ _ _ _).mp goesOn with ⟨front, back, others, rfl, begun, ended⟩
      rcases (Program.runs_done_iff _ _ _).mp ended with ⟨rfl, rfl⟩
      rw [List.append_nil] at alsoFirst ⊢
      rcases inductionHypothesis begun with ⟨asked, whole⟩
      refine ⟨alsoFirst asked, fun granted => ?_⟩
      rcases whole fun exchange member => granted exchange (List.mem_cons_of_mem _ member) with
        ⟨all, same⟩
      rw [all, same]
      exact ⟨rfl, rfl⟩
    | error failure =>
      rcases inductionHypothesis goesOn with ⟨asked, _⟩
      refine ⟨alsoFirst asked, fun granted => ?_⟩
      cases granted _ List.mem_cons_self

/-- Emptying the logs asks to empty each of them, and says so if one could not be. -/
theorem asks_clearSessionLogs (session : Session) :
    (clearSessionLogs session).Asks fun asked =>
      asked = .file (.truncate session.commandLog) ∨
        asked = .file (.truncate session.directoryLog) ∨ ∃ line, asked = .printErrorLine line := by
  refine .bind ?_ fun cleared => .when ?_
  · intro trace outcome yields exchange member
    rcases (Action.yields_lift_iff _ _ _).mp yields with ⟨cleared, runs, _⟩
    rcases (runs_clearLogs _ runs).1 exchange member with ⟨path, listed, asked⟩
    rcases List.mem_cons.mp listed with rfl | listed
    · exact .inl asked
    · rw [List.mem_singleton.mp listed] at asked
      exact .inr (.inl asked)
  · exact .asking (.printErrorLine _) (fun answer => answer) (.inr (.inr ⟨_, rfl⟩))

/-- If nothing is refused, emptying the logs empties both, and does nothing else. -/
theorem yields_clearSessionLogs {session : Session} {trace : List Exchange}
    {outcome : Except Failure Unit} (yields : (clearSessionLogs session).Yields trace outcome)
    (granted : ∀ exchange ∈ trace, exchange.Granted) :
    trace = [emptied session.commandLog, emptied session.directoryLog] ∧ outcome = .ok () := by
  rcases (Action.yields_bind_iff _ _ _ _).mp yields with
    ⟨failure, failed, _⟩ | ⟨front, back, cleared, rfl, lifted, rest⟩
  · rcases (Action.yields_lift_iff _ _ _).mp failed with ⟨_, _, impossible⟩
    cases impossible
  · rcases (Action.yields_lift_iff _ _ _).mp lifted with ⟨_, runs, same⟩
    cases same
    rcases (runs_clearLogs _ runs).2 fun exchange member =>
      granted exchange (List.mem_append_left back member) with ⟨rfl, rfl⟩
    rcases (Action.yields_pure_iff _ _ _).mp rest with ⟨rfl, rfl⟩
    exact ⟨rfl, rfl⟩

/-! ## The command -/

/-- The new command of a command line. -/
def freshCommand (arguments : List String) : EffectiveCommand :=
  ⟨recordedTokens arguments, false, none, none⟩

/-- The recalled command, in the directory where it worked. -/
def StoredCommand.effective (stored : StoredCommand) : EffectiveCommand :=
  ⟨stored.tokens, true, stored.runId, some stored.outputDirectory⟩

theorem effectiveCommand_fresh (session : Session) {arguments : List String} (fallback : Path)
    (fresh : resumeToken ∉ arguments) :
    effectiveCommand session arguments fallback = pure (freshCommand arguments) := by
  have absent : ¬arguments.contains resumeToken = true := by simpa using fresh
  rw [effectiveCommand, if_neg absent]
  rfl

theorem effectiveCommand_resuming (session : Session) {arguments : List String} (fallback : Path)
    (resumes : resumeToken ∈ arguments) :
    effectiveCommand session arguments fallback =
      session.recall arguments fallback >>= fun stored => pure stored.effective := by
  rw [effectiveCommand, if_pos (List.contains_iff_mem.mpr resumes)]
  rfl

/-- The command that is found is recalled, or it is the new one. -/
theorem resuming_or_fresh_of_found {session : Session} {arguments : List String} {fallback : Path}
    {command : EffectiveCommand} {finding : List Exchange}
    (found : (effectiveCommand session arguments fallback).Yields finding (.ok command)) :
    command.resuming = true ∨ resumeToken ∉ arguments ∧ command = freshCommand arguments := by
  by_cases resumes : resumeToken ∈ arguments
  · rw [effectiveCommand_resuming session fallback resumes] at found
    rcases (Action.yields_bind_iff _ _ _ _).mp found with
      ⟨_, _, impossible⟩ | ⟨_, _, stored, rfl, _, ends⟩
    · cases impossible
    · cases ((Action.yields_pure_iff _ _ _).mp ends).2
      exact .inl rfl
  · rw [effectiveCommand_fresh session fallback resumes] at found
    cases ((Action.yields_pure_iff _ _ _).mp found).2
    exact .inr ⟨resumes, rfl⟩

section

variable {settings : Settings} {environment : Environment} {session : Session}
  {arguments : List String} {trace : List Exchange} {outcome : Except Failure Nat}

/-- The clock is looked at behind the emptying of the logs, and decides the name of a
directory for a command without one. -/
theorem yields_runArguments
    (yields : (runArguments settings environment session arguments).Yields trace outcome) :
    (∃ failure, (Action.when (arguments.contains clearLogsToken) (clearSessionLogs session)).Yields
        trace (.error failure) ∧ outcome = .error failure) ∨
    ∃ cleared time back, trace = cleared ++ ⟨.now, time⟩ :: back ∧
      (Action.when (arguments.contains clearLogsToken) (clearSessionLogs session)).Yields cleared
        (.ok ()) ∧
      (effectiveCommand session arguments ⟨defaultDirectoryName time⟩ >>= fun command =>
        runCommand settings environment session (arguments.contains clearLogsToken) time
          ⟨defaultDirectoryName time⟩ command).Yields back outcome := by
  rcases (Action.yields_bind_iff _ _ _ _).mp yields with
    failed | ⟨cleared, rest, _, rfl, clearing, goesOn⟩
  · exact .inl failed
  · rcases (Action.yields_asking_bind_iff .now _ _ _).mp goesOn with ⟨time, back, rfl, ran⟩
    exact .inr ⟨cleared, time, back, rfl, clearing, ran⟩

end

/-! ## The run log and the options -/

section

variable {settings : Settings} {environment : Environment} {session : Session} {clearing : Bool}
  {time : Instant} {fallback : Path} {command : EffectiveCommand} {invocation : Invocation}
  {trace : List Exchange} {outcome : Except Failure Nat}

/-- A run opens the run log first, and goes on unless that is refused or the options are
objected to. -/
theorem yields_runInvocation
    (yields : (runInvocation settings environment session clearing time fallback command
      invocation).Yields trace outcome) :
    ∃ answer back, trace =
        ⟨.openRunLog (invocation.common.logFile.map session.resolve) invocation.common.debug,
          answer⟩ :: back ∧
      (((∃ failure, answer = .error failure) ∨ invocation.check ≠ .ok ()) ∧ back = [] ∨
        invocation.check = .ok () ∧ (identify session command time >>= fun runId =>
          carryOut settings environment session clearing fallback command invocation runId).Yields
            back outcome) := by
  rcases (Action.yields_bind_iff _ _ _ _).mp yields with
    ⟨failure, failed, _⟩ | ⟨front, back, _, rfl, opened, goesOn⟩
  · rcases (Action.yields_asking_iff (.openRunLog _ _) id _ _).mp failed with ⟨answer, rfl, same⟩
    exact ⟨answer, [], rfl, .inl ⟨.inl ⟨failure, same.symm⟩, rfl⟩⟩
  rcases (Action.yields_asking_iff (.openRunLog _ _) id _ _).mp opened with ⟨answer, rfl, _⟩
  refine ⟨answer, back, rfl, ?_⟩
  rcases (Action.yields_bind_iff _ _ _ _).mp goesOn with
    ⟨failure, failed, _⟩ | ⟨none, rest, _, rfl, passed, carried⟩
  · rcases (Action.yields_ofExcept_iff _ _ _).mp failed with ⟨rfl, objected⟩
    refine .inl ⟨.inr fun checked => ?_, rfl⟩
    rw [checked] at objected
    cases objected
  · rcases (Action.yields_ofExcept_iff _ _ _).mp passed with ⟨rfl, checked⟩
    refine .inr ⟨?_, carried⟩
    cases found : invocation.check with
    | ok done => rfl
    | error objection =>
      rw [found] at checked
      cases checked

/-- A command that resumes is not recorded again. -/
theorem yields_runInvocation_resuming (resumes : command.resuming = true)
    (yields : (runInvocation settings environment session clearing time fallback command
      invocation).Yields trace outcome) :
    ∃ answer back, trace =
        ⟨.openRunLog (invocation.common.logFile.map session.resolve) invocation.common.debug,
          answer⟩ :: back ∧
      (((∃ failure, answer = .error failure) ∨ invocation.check ≠ .ok ()) ∧ back = [] ∨
        invocation.check = .ok () ∧
          (carryOut settings environment session clearing fallback command invocation
            command.runId).Yields back outcome) := by
  have known : identify session command time = pure command.runId := by
    rw [identify, resumes, Bool.or_true, if_pos rfl]
  rcases yields_runInvocation yields with ⟨answer, back, rfl, stopped | ⟨checked, carried⟩⟩
  · exact ⟨answer, back, rfl, .inl stopped⟩
  · rw [known, pure_bind] at carried
    exact ⟨answer, back, rfl, .inr ⟨checked, carried⟩⟩

end

/-! ## The record of a new run -/

/-- The identifier of the run that a command line starts at a time. -/
def freshId (arguments : List String) (time : Instant) : RunId :=
  RunId.derive (CommandText.join (recordedTokens arguments)) time.recordNanoseconds

/-- The record of the run that a command line starts at a time. -/
def freshRecord (arguments : List String) (time : Instant) : CommandRecord :=
  ⟨some (freshId arguments time), some time.recordSeconds, recordedTokens arguments⟩

theorem resumeToken_not_mem_recordedTokens {arguments : List String}
    (fresh : resumeToken ∉ arguments) : resumeToken ∉ recordedTokens arguments := by
  rw [recordedTokens, List.mem_cons]
  rintro (named | listed)
  · exact absurd named (by decide)
  · exact fresh (List.mem_of_mem_drop listed)

section

variable (settings : Settings) (environment : Environment) (session : Session)
  {arguments : List String} (fresh : resumeToken ∉ arguments) (clearing : Bool) (time : Instant)
  (fallback : Path) (invocation : Invocation) {trace : List Exchange}

include fresh

theorem yields_identify_fresh {outcome : Except Failure (Option RunId)}
    (yields : (identify session (freshCommand arguments) time).Yields trace outcome) :
    ∃ answer : Except Failure Unit,
      trace = [⟨.file (.append session.commandLog (freshRecord arguments time).line), answer⟩] ∧
        outcome = answer.map fun _ => some (freshId arguments time) := by
  have absent : (recordedTokens arguments).contains resumeToken = false := by
    simpa using resumeToken_not_mem_recordedTokens fresh
  have records : identify session (freshCommand arguments) time =
      Action.asking (.file (.append session.commandLog (freshRecord arguments time).line))
        (fun answer => answer.map fun _ => some (freshId arguments time)) := by
    simp only [identify, Session.recordCommand, freshCommand, absent,
      Bool.false_eq_true, if_false]
    apply ExceptT.ext
    apply congrArg (Program.ask _)
    funext answer
    cases answer <;> rfl
  rw [records] at yields
  exact (Action.yields_asking_iff _ _ _ _).mp yields

/-- A new run opens the run log and records itself before anything else, unless the run log
is refused or the options are objected to. -/
theorem yields_runInvocation_fresh {outcome : Except Failure Nat}
    (yields : (runInvocation settings environment session clearing time fallback
      (freshCommand arguments) invocation).Yields trace outcome) :
    ∃ answer back, trace =
        ⟨.openRunLog (invocation.common.logFile.map session.resolve) invocation.common.debug,
          answer⟩ :: back ∧
      (((∃ failure, answer = .error failure) ∨ invocation.check ≠ .ok ()) ∧ back = [] ∨
      invocation.check = .ok () ∧ ∃ written rest,
        back = ⟨.file (.append session.commandLog (freshRecord arguments time).line), written⟩ ::
          rest ∧
        ((∃ failure, written = .error failure) ∧ rest = [] ∨
          written = .ok () ∧ (carryOut settings environment session clearing fallback
            (freshCommand arguments) invocation (some (freshId arguments time))).Yields rest
              outcome)) := by
  rcases yields_runInvocation yields with ⟨answer, back, rfl, stopped | ⟨accepted, recorded⟩⟩
  · exact ⟨answer, back, rfl, .inl stopped⟩
  refine ⟨answer, back, rfl, .inr ⟨accepted, ?_⟩⟩
  rcases (Action.yields_bind_iff _ _ _ _).mp recorded with
    ⟨failure, failed, _⟩ | ⟨front, behind, id, rfl, identified, carried⟩
  · rcases yields_identify_fresh session fresh time failed with ⟨written, rfl, same⟩
    cases written with
    | error refusal => exact ⟨_, [], rfl, .inl ⟨⟨refusal, rfl⟩, rfl⟩⟩
    | ok done => cases same
  · rcases yields_identify_fresh session fresh time identified with ⟨written, rfl, same⟩
    cases written with
    | error refusal => cases same
    | ok done =>
      cases same
      exact ⟨_, behind, rfl, .inr ⟨rfl, carried⟩⟩

end

end ModelRuns
