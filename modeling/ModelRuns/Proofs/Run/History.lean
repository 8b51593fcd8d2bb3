import ModelRuns.Proofs.Run.Opening
import ModelRuns.Proofs.Run.Sharing

namespace ModelRuns

/-!
# The command log as a list of commands

Calls come one after the other in a working directory, and each finds the command log
as the one before left it.  What the log then holds is a list of records: a call that
asks for empty logs starts it anew, and a new command that is accepted is put at its
end, whatever becomes of its run.  A call that resumes adds nothing, so no record ever
asks to resume.

A call whose arguments or settings cannot be read does nothing at all, even if it asks
for empty logs: it stops before the logs are looked for.
-/

/-! ## What one call does -/

/-- The commands that a command line adds to the log when it is run at a time: itself, if
it is new and accepted. -/
def addedRecords (arguments : List String) (time : Instant) : List CommandRecord :=
  if resumeToken ∈ arguments then []
  else
    match Invocation.read arguments with
    | .error _ => []
    | .ok invocation =>
      match invocation.check with
      | .error _ => []
      | .ok () => [freshRecord arguments time]

/-- A call begins with two empty logs if that is asked for, and else with nothing. -/
theorem yields_clearing {session : Session} {arguments : List String} {cleared : List Exchange}
    {outcome : Except Failure Unit}
    (begun : (Action.when (arguments.contains clearLogsToken) (clearSessionLogs session)).Yields
      cleared outcome)
    (granted : ∀ exchange ∈ cleared, exchange.Granted) :
    outcome = .ok () ∧
      cleared = if clearLogsToken ∈ arguments then
        [emptied session.commandLog, emptied session.directoryLog] else [] := by
  by_cases asked : clearLogsToken ∈ arguments
  · rw [List.contains_iff_mem.mpr asked] at begun
    rcases yields_clearSessionLogs begun granted with ⟨rfl, rfl⟩
    rw [if_pos asked]
    exact ⟨rfl, rfl⟩
  · have absent : arguments.contains clearLogsToken = false := by simpa using asked
    rw [absent] at begun
    rcases (Action.yields_pure_iff _ _ _).mp begun with ⟨rfl, rfl⟩
    rw [if_neg asked]
    exact ⟨rfl, rfl⟩

/-- The name of the program is not looked at. -/
theorem Invocation.read_recordedTokens (arguments : List String) :
    Invocation.read (recordedTokens arguments) = Invocation.read arguments := by
  have mode : Mode.ofArguments (recordedTokens arguments) = Mode.ofArguments arguments := by
    cases arguments <;> rfl
  have options : (recordedTokens arguments).drop 1 = arguments.drop 1 := rfl
  have more : (recordedTokens arguments).drop 2 = arguments.drop 2 := by
    cases arguments <;> rfl
  rw [Invocation.read, Invocation.read, mode, options, more]

section

variable {settings : Settings} {environment : Environment} {session : Session}
  {arguments : List String} {trace : List Exchange} {outcome : Except Failure Nat}
  (off : ∀ output, session.KeepsOff output session.commandLog)
  (granted : ∀ exchange ∈ trace, exchange.Granted)
  (kept : ∀ exchange ∈ trace, ¬exchange.Overwrites session.commandLog)

include off granted kept

theorem changesAt_runCommand_fresh (fresh : resumeToken ∉ arguments) {clearing : Bool}
    {time : Instant} {fallback : Path}
    (apart : session.directoryLog.same session.commandLog = false)
    (yields : (runCommand settings environment session clearing time fallback
      (freshCommand arguments)).Yields trace outcome) :
    changesAt session.commandLog trace =
      ((addedRecords arguments time).map CommandRecord.line).map
        (appending session.commandLog) := by
  unfold runCommand at yields
  -- The recorded tokens are the ones that are read, so the options are settled alike.
  rw [addedRecords, if_neg fresh, ← Invocation.read_recordedTokens arguments]
  have same : (freshCommand arguments).tokens = recordedTokens arguments := rfl
  rw [same] at yields
  cases read : Invocation.read (recordedTokens arguments) with
  | error fault =>
    rw [read] at yields
    have quiet : changesAt session.commandLog trace = [] := by
      split at yields
      next =>
        have asks : (do
            Action.printHelp
            return exitSuccess).Asks (Request.Spares session.commandLog) :=
          .bind (.asking .printHelp .ok trivial) fun _ => .pure exitSuccess
        exact changesAt_eq_nil _ (asks _ _ yields) kept
      next => exact changesAt_eq_nil _ (Action.Asks.throw _ _ _ yields) kept
      next impossible => cases impossible
    rw [quiet]
    rfl
  | ok invocation =>
    rw [read] at yields
    rcases yields_runInvocation_fresh settings environment session fresh clearing time fallback
      invocation yields with
      ⟨answer, back, rfl, ⟨stopped, rfl⟩ | ⟨accepted, written, rest, rfl, ending⟩⟩
    · cases checked : invocation.check with
      | error objection => simp only [checked]; rfl
      | ok done =>
        rcases stopped with ⟨failure, rfl⟩ | objected
        · cases granted _ List.mem_cons_self
        · exact absurd checked objected
    · have done : written = .ok () :=
        granted ⟨.file (.append _ _), written⟩ (List.mem_cons_of_mem _ List.mem_cons_self)
      subst done
      have carried := ending.resolve_left fun failed => by
        rcases failed with ⟨⟨failure, impossible⟩, _⟩
        cases impossible
      have quiet := changesAt_eq_nil _ (spares_carryOut _ _ _ _ _ _ _ _ (off _) (.inr apart) _ _
        carried.2) fun exchange member =>
          kept exchange (List.mem_cons_of_mem _ (List.mem_cons_of_mem _ member))
      change changesAt _ (_ :: appending session.commandLog _ :: rest) = _
      rw [changesAt_cons_of_not_changes _ rfl,
        changesAt_cons_of_changes _ (changes_appending _ _), quiet]
      simp only [accepted]
      rfl

/-- What one call does to the command log: it empties the log if that is asked for, and
then puts the new command there. -/
theorem changesAt_runArguments (apart : session.directoryLog.same session.commandLog = false)
    (yields : (runArguments settings environment session arguments).Yields trace outcome) :
    ∃ time, firstClock trace = some time ∧
      changesAt session.commandLog trace =
        (if clearLogsToken ∈ arguments then [emptied session.commandLog] else []) ++
          ((addedRecords arguments time).map CommandRecord.line).map
            (appending session.commandLog) := by
  rcases yields_runArguments yields with
    ⟨failure, failed, _⟩ | ⟨cleared, time, back, rfl, begun, ran⟩
  · cases (yields_clearing failed granted).1
  have first := (yields_clearing begun fun exchange member =>
    granted exchange (List.mem_append_left _ member)).2
  have later : ∀ exchange ∈ back, exchange ∈ cleared ++ ⟨.now, time⟩ :: back :=
    fun exchange member => List.mem_append_right _ (List.mem_cons_of_mem _ member)
  have clock : firstClock (cleared ++ ⟨.now, time⟩ :: back) = some time := by
    rw [first, firstClock, List.findSome?_append]
    split <;> rfl
  have emptying : changesAt session.commandLog cleared =
      if clearLogsToken ∈ arguments then [emptied session.commandLog] else [] := by
    rw [first]
    split
    · have missed : (emptied session.directoryLog).changes session.commandLog = false := apart
      rw [changesAt_cons_of_changes _ (changes_emptied _), changesAt_cons_of_not_changes _ missed]
      rfl
    · rfl
  refine ⟨time, clock, ?_⟩
  rw [changesAt_append, changesAt_cons_of_not_changes _ rfl, emptying]
  congr 1
  by_cases fresh : resumeToken ∈ arguments
  · have quiet : (effectiveCommand session arguments ⟨defaultDirectoryName time⟩ >>= fun command =>
        runCommand settings environment session (arguments.contains clearLogsToken) time
          ⟨defaultDirectoryName time⟩ command).Asks (Request.Spares session.commandLog) := by
      rw [effectiveCommand_resuming session _ fresh, bind_assoc]
      refine .bind ((Action.asks_recall _ _ _).mono fun _ inspects =>
        Request.spares_of_inspects inspects) ?_
      intro stored
      rw [pure_bind]
      exact asks_runCommand_resuming _ _ _ _ _ _ rfl off
    rw [addedRecords, if_pos fresh]
    exact changesAt_eq_nil _ (quiet _ _ ran) fun exchange member => kept exchange (later _ member)
  · rw [effectiveCommand_fresh session _ fresh, pure_bind] at ran
    exact changesAt_runCommand_fresh off (fun exchange member => granted exchange (later _ member))
      (fun exchange member => kept exchange (later _ member)) fresh apart ran

end

/-! ## Series of calls -/

/-- A call of the program: what it was given, the files when it began, and its trace. -/
structure Call where
  launch : Launch
  files : Path → Option String
  trace : List Exchange
  outcome : Except Failure Nat

namespace Call

variable (call : Call)

/-- What the call has to go on with. -/
def opening : Except Failure (List String × Settings) :=
  call.launch.opening (call.files (call.launch.directory.child defaultsFileName))

/-- What becomes of a list of recorded commands. -/
def extend (records : List CommandRecord) : List CommandRecord :=
  match call.opening with
  | .error _ => records
  | .ok (arguments, _) =>
    (if clearLogsToken ∈ arguments then [] else records) ++
      ((firstClock call.trace).map (addedRecords arguments)).getD []

/-- A call in a working directory and a mode whose logs have their built-in names.  The
files are as they are and no change to one is refused; no result and no run log goes where
the command log is. -/
structure Regular (directory : Path) (mode : Mode) : Prop where
  runs : call.launch.invoke.Yields call.trace call.outcome
  reports : Throughout (Exchange.Reports call.files) [] call.trace
  granted : ∀ exchange ∈ call.trace, exchange.Granted
  kept : ∀ exchange ∈ call.trace, ¬exchange.Overwrites (directory.child mode.commandLogName)
  place : call.launch.directory = directory
  names : ∀ arguments settings, call.opening = .ok (arguments, settings) →
    Mode.ofArguments arguments = mode ∧ settings.logs = {}
  clock : ∀ time, firstClock call.trace = some time → time.recordSeconds ≤ largestWord64

end Call

/-- The text of a file after a call. -/
def Call.textAfter (call : Call) (path : Path) : String :=
  (ModelRuns.textAfter path (call.files path) call.trace).getD ""

/-- Each call finds the file as the one before left it. -/
def Follow (path : Path) : String → List Call → Prop
  | _, [] => True
  | text, call :: rest => (call.files path).getD "" = text ∧ Follow path (call.textAfter path) rest

/-- What each call keeps of the text of a file, with a state that it goes on from, holds
behind the last one. -/
theorem Follow.after {State : Type} {path : Path} (holds : State → String → Prop)
    (next : State → Call → State) {calls : List Call} {text : String}
    (follow : Follow path text calls) (state : State) (start : holds state text)
    (step : ∀ call ∈ calls, ∀ state, holds state ((call.files path).getD "") →
      holds (next state call) (call.textAfter path)) :
    ∀ last ∈ calls.getLast?, holds (calls.foldl next state) (last.textAfter path) := by
  induction calls generalizing text state with
  | nil =>
    intro last impossible
    cases impossible
  | cons call rest inductionHypothesis =>
    rcases follow with ⟨found, others⟩
    rw [← found] at start
    have reached := step call List.mem_cons_self state start
    cases rest with
    | nil =>
      rintro last ⟨⟩
      exact reached
    | cons second more =>
      intro last member
      rw [List.getLast?_cons_cons] at member
      exact inductionHypothesis others _ reached
        (fun call member => step call (List.mem_cons_of_mem _ member)) last member

/-- A text is that of a command log with these records, none of which resumes. -/
structure IsCommandLog (text : String) (records : List CommandRecord) : Prop where
  text : text = withFeeds (records.map CommandRecord.line)
  made : ∀ record ∈ records, record.IsMade
  fresh : ∀ record ∈ records, resumeToken ∉ record.tokens

theorem IsCommandLog.nil : IsCommandLog "" [] :=
  ⟨rfl, List.forall_mem_nil _, List.forall_mem_nil _⟩

theorem IsCommandLog.append {text : String} {records : List CommandRecord}
    (log : IsCommandLog text records) {added : List CommandRecord}
    (made : ∀ record ∈ added, record.IsMade)
    (fresh : ∀ record ∈ added, resumeToken ∉ record.tokens) :
    IsCommandLog (text ++ withFeeds (added.map CommandRecord.line)) (records ++ added) where
  text := by rw [List.map_append, withFeeds_append, ← log.text]
  made := fun record member => (List.mem_append.mp member).elim (log.made record) (made record)
  fresh := fun record member => (List.mem_append.mp member).elim (log.fresh record) (fresh record)

theorem mem_addedRecords {arguments : List String} {time : Instant} {record : CommandRecord}
    (member : record ∈ addedRecords arguments time) :
    record = freshRecord arguments time ∧ resumeToken ∉ arguments := by
  unfold addedRecords at member
  split at member
  next => cases member
  next fresh =>
    split at member
    next => cases member
    next =>
      split at member
      next => cases member
      next => exact ⟨List.mem_singleton.mp member, fresh⟩

namespace Call.Regular

variable {directory : Path} {mode : Mode} {call : Call} (regular : call.Regular directory mode)

include regular

/-- What one call does to the text of the command log. -/
theorem textAfter_commandLog :
    call.textAfter (directory.child mode.commandLogName) =
      match call.opening with
      | .error _ => (call.files (directory.child mode.commandLogName)).getD ""
      | .ok (arguments, _) =>
        (if clearLogsToken ∈ arguments then ""
          else (call.files (directory.child mode.commandLogName)).getD "") ++
          withFeeds ((((firstClock call.trace).map (addedRecords arguments)).getD []).map
            CommandRecord.line) := by
  rcases Launch.yields_invoke regular.runs regular.reports with
    ⟨failure, refused, _, inspects⟩ |
      ⟨arguments, settings, front, back, opened, split, inspects, ran⟩
  · have opening : call.opening = .error failure := refused
    simp only [opening]
    rw [Call.textAfter, textAfter_of_changesAt_nil _ (changesAt_of_inspects inspects _)]
  · have opening : call.opening = .ok (arguments, settings) := opened
    rcases regular.names arguments settings opening with ⟨inMode, builtIn⟩
    have same : call.launch.session settings arguments = Session.of settings directory mode := by
      rw [Launch.session, regular.place, inMode]
    have named := Session.commandLog_builtIn builtIn directory mode
    have inside : ∀ exchange ∈ back, exchange ∈ call.trace := fun exchange member =>
      split ▸ List.mem_append_right front member
    rw [same] at ran
    have off := fun output => (Session.sharesApart_builtIn builtIn directory mode output).output
      _ List.mem_cons_self
    rcases changesAt_runArguments off
      (fun exchange member => regular.granted exchange (inside exchange member))
      (by
        rw [named]
        exact fun exchange member => regular.kept exchange (inside exchange member))
      (Session.sharesApart_builtIn builtIn directory mode directory).logs.symm ran with
      ⟨time, clock, changes⟩
    rw [named] at changes
    have whole : firstClock call.trace = some time := by
      rw [split, firstClock_append_of_inspects inspects, clock]
    simp only [opening, whole, Option.map_some, Option.getD_some]
    rw [Call.textAfter, ← textAfter_changesAt, split, changesAt_append,
      changesAt_of_inspects inspects, List.nil_append, changes, textAfter_append,
      textAfter_appending, if_pos (Path.same_self _)]
    congr 1
    split
    · simp [emptied, Exchange.applyTo]
    · rfl

/-- A call keeps what a command log is, and does to its records what it does to a list. -/
theorem isCommandLog {records : List CommandRecord}
    (log : IsCommandLog ((call.files (directory.child mode.commandLogName)).getD "") records) :
    IsCommandLog (call.textAfter (directory.child mode.commandLogName)) (call.extend records) := by
  rw [regular.textAfter_commandLog, Call.extend]
  cases opening : call.opening with
  | error failure => exact log
  | ok opened =>
    rcases opened with ⟨arguments, settings⟩
    have kept : IsCommandLog (if clearLogsToken ∈ arguments then ""
        else (call.files (directory.child mode.commandLogName)).getD "")
        (if clearLogsToken ∈ arguments then [] else records) := by
      split
      · exact .nil
      · exact log
    simp only
    cases clock : firstClock call.trace with
    | none => exact kept.append (List.forall_mem_nil _) (List.forall_mem_nil _)
    | some time =>
      refine kept.append ?_ ?_
      · intro record member
        rcases mem_addedRecords member with ⟨rfl, _⟩
        exact ⟨_, _, _, rfl, RunId.derive_isReadable _ _, regular.clock time clock⟩
      · intro record member
        rcases mem_addedRecords member with ⟨rfl, fresh⟩
        exact resumeToken_not_mem_recordedTokens fresh

/-- Without a request for empty logs the log is only extended. -/
theorem textAfter_of_not_clearing
    (keeps : ∀ arguments settings, call.opening = .ok (arguments, settings) →
      clearLogsToken ∉ arguments) :
    ∃ added, call.textAfter (directory.child mode.commandLogName) =
      (call.files (directory.child mode.commandLogName)).getD "" ++ added := by
  rw [regular.textAfter_commandLog]
  cases opening : call.opening with
  | error failure => exact ⟨"", String.append_empty.symm⟩
  | ok opened =>
    rcases opened with ⟨arguments, settings⟩
    simp only [if_neg (keeps arguments settings opening)]
    exact ⟨_, rfl⟩

end Call.Regular

/-- Along a series of calls the command log stays one, with the records that the calls
make of a list. -/
theorem isCommandLog_of_follow {directory : Path} {mode : Mode} (calls : List Call)
    (regular : ∀ call ∈ calls, call.Regular directory mode) {text : String}
    (follow : Follow (directory.child mode.commandLogName) text calls)
    {records : List CommandRecord} (log : IsCommandLog text records) :
    ∀ last ∈ calls.getLast?, IsCommandLog (last.textAfter (directory.child mode.commandLogName))
      (calls.foldl (fun records call => call.extend records) records) :=
  follow.after (fun records text => IsCommandLog text records) _ records log
    fun call member _ => (regular call member).isCommandLog

/-- After each call of a series, the command log is read as the list that the calls up to
then have made: emptied where that was asked for, and with each new command that was
accepted put at the end, whatever became of its run.  No record asks to resume, and a call
that does not ask for empty logs leaves what was there.  Calls whose arguments or settings
cannot be read leave the list alone. -/
theorem readCommands_after_calls (directory : Path) (mode : Mode) (calls : List Call) (last : Call)
    (regular : ∀ call ∈ calls ++ [last], call.Regular directory mode)
    (follow : Follow (directory.child mode.commandLogName) "" (calls ++ [last]))
    (reading : List Exchange) (result : Except Failure (List CommandRecord))
    (reads : (readCommands (directory.child mode.commandLogName)).Yields reading result)
    (reports : Throughout (Exchange.Reports last.files) last.trace reading) :
    result = .ok ((calls ++ [last]).foldl (fun records call => call.extend records) []) ∧
      (∀ record ∈ (calls ++ [last]).foldl (fun records call => call.extend records) [],
        resumeToken ∉ record.tokens) ∧
      ((∀ arguments settings, last.opening = .ok (arguments, settings) →
          clearLogsToken ∉ arguments) →
        ∃ added, last.textAfter (directory.child mode.commandLogName) =
          (last.files (directory.child mode.commandLogName)).getD "" ++ added) := by
  have log := isCommandLog_of_follow _ regular follow .nil last (by simp)
  refine ⟨?_, log.fresh, (regular last (by simp)).textAfter_of_not_clearing⟩
  rcases (Action.yields_bind_iff _ _ _ _).mp reads with
    ⟨failure, failed, _⟩ | ⟨front, back, text, rfl, read, rest⟩
  · cases (Action.yields_readIfThere _ _ failed reports).1
  · have reportsRead := ((Throughout.append_iff _ _ _).mp reports).1
    have found := (Action.yields_readIfThere _ _ read reportsRead).1
    cases found
    rw [((Action.yields_ofExcept_iff _ _ _).mp rest).2]
    have whole := log.text
    rw [Call.textAfter] at whole
    rw [whole]
    exact CommandRecord.ofLog_withFeeds _ log.made

/-! ## A series of calls -/

/-- The call of a launch at a time that is told the truth about files, and refused
nothing. -/
def Launch.call (launch : Launch) (files : Path → Option String) (time : Instant) : Call :=
  let run := launch.invoke.run.record (timedAnswer files time) []
  ⟨launch, files, run.1, run.2⟩

theorem Launch.answered_call (launch : Launch) (files : Path → Option String) (time : Instant) :
    Throughout (fun earlier exchange =>
      exchange.answer = timedAnswer files time earlier exchange.asked) []
      (launch.call files time).trace :=
  Program.throughout_record (timedAnswer files time) launch.invoke.run []

/-- The clock shows the time of the call. -/
theorem Launch.firstClock_call (launch : Launch) (files : Path → Option String) (time : Instant)
    {shown : Instant} (first : firstClock (launch.call files time).trace = some shown) :
    shown = time := by
  rcases List.exists_of_findSome?_eq_some first with ⟨exchange, member, shows⟩
  rcases (launch.answered_call files time).forall_mem
      (fun _ _ told => Exchange.clock?_of_timedAnswer told) exchange member with never | known
  · rw [never] at shows
    cases shows
  · rw [known] at shows
    cases shows
    rfl

theorem Launch.regular_call (launch : Launch) (files : Path → Option String) (time : Instant)
    (small : time.recordSeconds ≤ largestWord64) (mode : Mode)
    (kept : ∀ exchange ∈ (launch.call files time).trace,
      ¬exchange.Overwrites (launch.directory.child mode.commandLogName))
    (names : ∀ arguments settings, (launch.call files time).opening = .ok (arguments, settings) →
      Mode.ofArguments arguments = mode ∧ settings.logs = {}) :
    (launch.call files time).Regular launch.directory mode := by
  have answered := launch.answered_call files time
  refine ⟨Program.runs_record _ _ _, answered.mono (reports_of_timedAnswer files time),
    answered.forall_mem (Exchange.granted_of_timedAnswer files time), kept, rfl, names, ?_⟩
  intro read first
  rw [launch.firstClock_call files time first]
  exact small

/-- The file is as a call left it, and there is no other. -/
def Call.left (call : Call) (path : Path) : Path → Option String :=
  fun other => if other.same path then some (call.textAfter path) else none

/-- A new command without anything to build. -/
def namedLaunch : Launch :=
  ⟨["bigmler", "--name", "x", "--output-dir", "out"].map encodeUtf8, [], ⟨"/work"⟩⟩

/-- A new command that asks for empty logs first. -/
def clearingLaunch : Launch :=
  ⟨["bigmler", "--clear-logs", "--name", "y", "--output-dir", "out"].map encodeUtf8, [],
    ⟨"/work"⟩⟩

/-- A command that asks for empty logs, with an argument that cannot be read. -/
def unreadableLaunch : Launch :=
  ⟨[encodeUtf8 "bigmler", encodeUtf8 clearLogsToken, [255]], [], ⟨"/work"⟩⟩

/-- The two launches one after the other. -/
def namedCall : Call := namedLaunch.call (fun _ => none) ⟨0⟩

def clearingCall : Call := clearingLaunch.call (namedCall.left ⟨"/work/.bigmler"⟩) ⟨5000000000⟩

def unreadableCall : Call := unreadableLaunch.call (namedCall.left ⟨"/work/.bigmler"⟩) ⟨0⟩

theorem mainLog : (⟨"/work"⟩ : Path).child Mode.main.commandLogName = ⟨"/work/.bigmler"⟩ := by
  decide +kernel

theorem follow_namedCall (last : Call) (left : last.files = namedCall.left ⟨"/work/.bigmler"⟩) :
    Follow ⟨"/work/.bigmler"⟩ "" [namedCall, last] := by
  refine ⟨rfl, ?_, trivial⟩
  rw [left, Call.left, if_pos (Path.same_self _)]
  rfl

theorem namedCall_traced :
    (∀ exchange ∈ namedCall.trace,
        ¬exchange.Overwrites (namedLaunch.directory.child Mode.main.commandLogName)) ∧
      namedCall.opening = .ok (["bigmler", "--name", "x", "--output-dir", "out"], {}) ∧
      namedCall.extend [] =
        [freshRecord ["bigmler", "--name", "x", "--output-dir", "out"] ⟨0⟩] := by
  decide +kernel

theorem clearingCall_traced :
    (∀ exchange ∈ clearingCall.trace,
        ¬exchange.Overwrites (clearingLaunch.directory.child Mode.main.commandLogName)) ∧
      clearingCall.opening =
        .ok (["bigmler", "--clear-logs", "--name", "y", "--output-dir", "out"], {}) ∧
      clearingCall.extend [freshRecord ["bigmler", "--name", "x", "--output-dir", "out"] ⟨0⟩] =
        [freshRecord ["bigmler", "--clear-logs", "--name", "y", "--output-dir", "out"]
          ⟨5000000000⟩] := by
  decide +kernel

theorem regular_namedCall : namedCall.Regular ⟨"/work"⟩ .main := by
  refine Launch.regular_call namedLaunch _ _ (by decide) .main namedCall_traced.1 ?_
  intro arguments settings opened
  cases opened.symm.trans namedCall_traced.2.1
  exact ⟨by decide, rfl⟩

theorem regular_clearingCall : clearingCall.Regular ⟨"/work"⟩ .main := by
  refine Launch.regular_call clearingLaunch _ _ (by decide) .main clearingCall_traced.1 ?_
  intro arguments settings opened
  cases opened.symm.trans clearingCall_traced.2.1
  exact ⟨by decide, rfl⟩

theorem unreadableCall_opening :
    unreadableCall.opening = .error (.commandLine "argument is not valid UTF-8: \uFFFD") := by
  decide +kernel

theorem regular_unreadableCall : unreadableCall.Regular ⟨"/work"⟩ .main := by
  refine Launch.regular_call unreadableLaunch _ _ (by decide) .main (by decide +kernel) ?_
  intro arguments settings opened
  cases opened.symm.trans unreadableCall_opening

/-- A call that asks for empty logs leaves them as they are if one of its arguments cannot
be read. -/
theorem unreadableCall_keeps_record :
    (∀ call ∈ [namedCall, unreadableCall], call.Regular ⟨"/work"⟩ .main) ∧
      Follow ⟨"/work/.bigmler"⟩ "" [namedCall, unreadableCall] ∧
      encodeUtf8 clearLogsToken ∈ unreadableCall.launch.arguments ∧
      CommandRecord.ofLog (unreadableCall.textAfter ⟨"/work/.bigmler"⟩) =
        .ok [freshRecord ["bigmler", "--name", "x", "--output-dir", "out"] ⟨0⟩] := by
  have regular : ∀ call ∈ [namedCall, unreadableCall], call.Regular ⟨"/work"⟩ .main := by
    simp [regular_namedCall, regular_unreadableCall]
  have follow := follow_namedCall unreadableCall rfl
  refine ⟨regular, follow, by decide +kernel, ?_⟩
  have log := isCommandLog_of_follow _ regular (mainLog ▸ follow) .nil unreadableCall rfl
  have kept : unreadableCall.extend (namedCall.extend []) = namedCall.extend [] := by
    rw [Call.extend, unreadableCall_opening]
  have records : [namedCall, unreadableCall].foldl (fun records call => call.extend records) [] =
      [freshRecord ["bigmler", "--name", "x", "--output-dir", "out"] ⟨0⟩] :=
    kept.trans namedCall_traced.2.2
  rw [mainLog, records] at log
  rw [log.text]
  exact CommandRecord.ofLog_withFeeds _ log.made

/-- A command that asks for empty logs takes the place of the one before. -/
theorem readCommands_after_clearingCall :
    ∃ reading result, (readCommands ⟨"/work/.bigmler"⟩).Yields reading result ∧
      Throughout (Exchange.Reports clearingCall.files) clearingCall.trace reading ∧
      result = .ok [freshRecord ["bigmler", "--clear-logs", "--name", "y", "--output-dir", "out"]
        ⟨5000000000⟩] := by
  rcases (readCommands ⟨"/work/.bigmler"⟩).exists_yields clearingCall.files clearingCall.trace with
    ⟨reading, result, reads, reports⟩
  have regular : ∀ call ∈ [namedCall] ++ [clearingCall], call.Regular ⟨"/work"⟩ .main := by
    simp [regular_namedCall, regular_clearingCall]
  have follow : Follow ⟨"/work/.bigmler"⟩ "" ([namedCall] ++ [clearingCall]) :=
    follow_namedCall clearingCall rfl
  have records : ([namedCall] ++ [clearingCall]).foldl
      (fun records call => call.extend records) [] =
      [freshRecord ["bigmler", "--clear-logs", "--name", "y", "--output-dir", "out"]
        ⟨5000000000⟩] := by
    rw [List.cons_append, List.nil_append, List.foldl_cons, List.foldl_cons, List.foldl_nil,
      namedCall_traced.2.2, clearingCall_traced.2.2]
  have after := readCommands_after_calls ⟨"/work"⟩ .main [namedCall] clearingCall regular
    (mainLog ▸ follow) reading result (mainLog ▸ reads) reports
  rw [records] at after
  exact ⟨reading, result, reads, reports, after.1⟩

end ModelRuns
