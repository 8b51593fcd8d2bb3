import ModelRuns.Proofs.Run.Confined
import ModelRuns.Proofs.Run.History

namespace ModelRuns

/-!
# Histories of the two modes

Each mode keeps a log of commands and a log of directories.  The settings name all four,
and nothing looks whether these names lead to four files: `Settings.LogsApart` is a
condition on them.

What is recorded in one mode stays out of the logs of the other exactly if it holds.  Then a
command log is made of records of its mode, whatever calls of both modes there were, however
they ended and whatever was refused to them, and so a command that is recalled was recorded
in the mode in which it is.  That nothing else goes where a command log is, neither a session
log nor a checkpoint nor a result, is again a condition on the calls.
-/

/-! ## Four logs -/

namespace Session

/-- The logs of a session. -/
def logs (session : Session) : List Path := [session.commandLog, session.directoryLog]

/-- What is recorded in a session leaves the logs of another one as they are. -/
structure RecordsOff (session other : Session) : Prop where
  command : ∀ tokens id timestamp trace outcome,
    (session.recordCommand tokens id timestamp).Yields trace outcome →
      ∀ path ∈ other.logs, ∀ text, textAfter path text trace = text
  directory : ∀ id place trace outcome, (session.recordDirectory id place).Yields trace outcome →
    ∀ path ∈ other.logs, ∀ text, textAfter path text trace = text

variable (session : Session)

theorem asks_recordCommand (tokens : List String) (id : RunId) (timestamp : Nat) :
    (session.recordCommand tokens id timestamp).Asks fun asked =>
      ∃ line, asked = .file (.append session.commandLog line) :=
  .ite (.pure _) (.bind (.asking (.file (.append _ _)) (fun answer => answer) ⟨_, rfl⟩) fun _ =>
    .pure _)

/-- A record stays out of the logs of another session exactly if no log is shared. -/
theorem recordsOff_iff (other : Session) :
    session.RecordsOff other ↔
      ∀ left ∈ session.logs, ∀ right ∈ other.logs, left.same right = false := by
  have spared {target path : Path} (apart : target.same path = false) {trace : List Exchange}
      (appends : ∀ exchange ∈ trace, ∃ line, exchange.asked = .file (.append target line))
      (text : Option String) : textAfter path text trace = text := by
    refine textAfter_of_changesAt_nil _ (changesAt_eq_nil _ ?_ ?_) text
    · intro exchange member
      rcases appends exchange member with ⟨line, asked⟩
      rw [asked]
      exact apart
    · rintro ⟨asked, answer⟩ member
      rcases appends _ member with ⟨line, rfl⟩
      exact id
  have kept {target path : Path} {line : String}
      (kept : ∀ text, textAfter path text [appending target line] = text) :
      target.same path = false := by
    by_contra shared
    have appended := kept none
    rw [textAfter_cons, appending, Exchange.applyTo, if_pos (Bool.not_eq_false _ ▸ shared)]
      at appended
    cases appended
  constructor
  · intro off left leftLog right rightLog
    rcases List.mem_pair.mp leftLog with rfl | rfl
    · exact kept fun text => off.command [] ⟨""⟩ 0 _ _
        ((session.yields_recordCommand _ _ _ List.not_mem_nil _ _).mpr ⟨rfl, rfl⟩) _ rightLog text
    · exact kept fun text => off.directory ⟨""⟩ ⟨""⟩ _ _
        ((Action.yields_asking_iff (.file (.append _ _)) id _ _).mpr ⟨.ok (), rfl, rfl⟩) _
          rightLog text
  · intro apart
    constructor
    · intro tokens id timestamp trace outcome yields path listed text
      exact spared (apart _ List.mem_cons_self _ listed)
        (session.asks_recordCommand tokens id timestamp _ _ yields) text
    · intro id place trace outcome yields path listed text
      rcases (Action.yields_asking_iff (.file (.append _ _)) (fun answer => answer) _ _).mp yields
        with ⟨answer, rfl, _⟩
      exact spared (apart _ (List.mem_pair.mpr (.inr rfl)) _ listed)
        (List.forall_mem_singleton.mpr ⟨_, rfl⟩) text

end Session

namespace Settings

variable (settings : Settings) (directory : Path)

/-- The logs of the two modes in a working directory. -/
def logFiles : List Path :=
  (Session.of settings directory .main).logs ++ (Session.of settings directory .cluster).logs

/-- The logs of the two modes are four different files. -/
def LogsApart : Prop := ((settings.logFiles directory).map Path.components).Nodup

instance : Decidable (settings.LogsApart directory) :=
  inferInstanceAs (Decidable (List.Nodup _))

theorem logsApart_iff :
    settings.LogsApart directory ↔
      (∀ mode, (Session.of settings directory mode).KeepsLogsApart) ∧
        ∀ mode other, mode ≠ other →
          (Session.of settings directory mode).RecordsOff (Session.of settings directory other) := by
  have distinct {left right : Path} :
      left.components ≠ right.components ↔ left.same right = false := beq_eq_false_iff_ne.symm
  have logs (session : Session) :
      (session.logs.map Path.components).Nodup ↔ session.KeepsLogsApart := by
    simp [Session.logs, Session.KeepsLogsApart, Path.same]
  rw [LogsApart, logFiles, List.map_append, List.nodup_append, logs, logs]
  constructor
  · rintro ⟨main, cluster, apart⟩
    have crossing {left right : Path} (inMain : left ∈ (Session.of settings directory .main).logs)
        (inCluster : right ∈ (Session.of settings directory .cluster).logs) :
        left.components ≠ right.components :=
      apart _ (List.mem_map_of_mem inMain) _ (List.mem_map_of_mem inCluster)
    refine ⟨fun mode => ?_, fun mode other different => (Session.recordsOff_iff _ _).mpr ?_⟩
    · cases mode with
      | main => exact main
      | cluster => exact cluster
    · intro left inLeft right inRight
      cases mode with
      | main =>
        cases other with
        | main => exact absurd rfl different
        | cluster => exact distinct.mp (crossing inLeft inRight)
      | cluster =>
        cases other with
        | main => exact distinct.mp (crossing inRight inLeft).symm
        | cluster => exact absurd rfl different
  · rintro ⟨kept, off⟩
    have apart := (Session.recordsOff_iff _ _).mp (off .main .cluster (by decide))
    refine ⟨kept .main, kept .cluster, ?_⟩
    rw [List.forall_mem_map]
    intro left inMain
    rw [List.forall_mem_map]
    exact fun right inCluster => distinct.mpr (apart left inMain right inCluster)

end Settings

/-! ## What a call records -/

/-- The record of a new command that a call was given in a mode, at a time that the clock
showed. -/
inductive Call.Offers (call : Call) (mode : Mode) : CommandRecord → Prop
  | intro {arguments : List String} {settings : Settings} {time : Instant}
      (opened : call.opening = .ok (arguments, settings))
      (inMode : Mode.ofArguments arguments = mode) (fresh : resumeToken ∉ arguments)
      (shown : (⟨.now, time⟩ : Exchange) ∈ call.trace) :
      call.Offers mode (freshRecord arguments time)

/-- A call in a working directory where the logs have these names.  The files are as they
are, and requests may be refused.  Neither its session log nor a checkpoint nor another
output of the run goes where the command log of the mode is. -/
structure Call.Orderly (settings : Settings) (directory : Path) (mode : Mode) (call : Call) :
    Prop where
  runs : call.launch.invoke.Yields call.trace call.outcome
  reports : Throughout (Exchange.Reports call.files) [] call.trace
  place : call.launch.directory = directory
  names : ∀ arguments found, call.opening = .ok (arguments, found) → found.logs = settings.logs
  clock : ∀ time, (⟨.now, time⟩ : Exchange) ∈ call.trace → time.recordSeconds ≤ largestWord64
  off : ∀ invocation paths front, front <+: call.trace →
    call.launch.Resolves invocation paths front →
      (Session.of settings directory mode).KeepsOff paths.output
        (Session.of settings directory mode).commandLog
  kept : ∀ exchange ∈ call.trace,
    ¬exchange.Overwrites (Session.of settings directory mode).commandLog

/-- A request that spares a file, or empties one, or puts one of these records into it. -/
inductive Request.Records (path : Path) (offered : CommandRecord → Prop) : Request → Prop
  | spares {asked : Request} (spares : asked.Spares path) : Records path offered asked
  | empties (target : Path) : Records path offered (.file (.truncate target))
  | adds {record : CommandRecord} (own : offered record) :
      Records path offered (.file (.append path record.line))

theorem Session.of_congr {settings other : Settings} (same : settings.logs = other.logs)
    (directory : Path) (mode : Mode) :
    Session.of settings directory mode = Session.of other directory mode := by
  simp only [Session.of, same]

/-- A new command records itself, and a recalled one does not. -/
theorem asks_identify_found {session : Session} {arguments : List String} {fallback : Path}
    {command : EffectiveCommand} {finding : List Exchange}
    (found : (effectiveCommand session arguments fallback).Yields finding (.ok command))
    (time : Instant) :
    (identify session command time).Asks fun asked => resumeToken ∉ arguments ∧
      asked = .file (.append session.commandLog (freshRecord arguments time).line) := by
  rcases resuming_or_fresh_of_found found with resumes | ⟨fresh, rfl⟩
  · have known : identify session command time = pure command.runId := by
      rw [identify, resumes, Bool.or_true, if_pos rfl]
    rw [known]
    exact .pure _
  · intro trace outcome yields
    rcases yields_identify_fresh session fresh time yields with ⟨answer, rfl, _⟩
    exact List.forall_mem_singleton.mpr ⟨fresh, rfl⟩

namespace Call.Orderly

variable {settings : Settings} {directory : Path} {mode : Mode} {call : Call}
  (orderly : call.Orderly settings directory mode)

include orderly

/-- The session of an orderly call has logs with the names that are set. -/
theorem session {arguments : List String} {found : Settings} {loading : List Exchange}
    (readable : call.launch.arguments.mapM readArgument = .ok arguments)
    (loaded : (Settings.load call.launch.directory).Yields loading (.ok found))
    (begins : loading <+: call.trace) :
    call.opening = .ok (arguments, found) ∧
      call.launch.session found arguments =
        Session.of settings directory (Mode.ofArguments arguments) := by
  rcases begins with ⟨rest, split⟩
  have told := orderly.reports
  rw [← split, Throughout.append_iff] at told
  have opened : call.opening = .ok (arguments, found) :=
    (Launch.opening_ok_iff _ _ _ _).mpr
      ⟨readable, (Action.yields_loadSettings _ _ loaded told.1).symm⟩
  refine ⟨opened, ?_⟩
  rw [Launch.session, orderly.place]
  exact Session.of_congr (orderly.names _ _ opened) _ _

/-- A call asks nothing of the command log of a mode but to empty it and to put its command
there, if it has one in that mode. -/
theorem records (apart : settings.LogsApart directory) :
    ∀ exchange ∈ call.trace, exchange.asked.Records
      (Session.of settings directory mode).commandLog (call.Offers mode) := by
  rcases (settings.logsApart_iff directory).mp apart with ⟨logs, off⟩
  have others {other : Mode} (different : other ≠ mode) {log : Path}
      (listed : log ∈ (Session.of settings directory other).logs) :
      log.same (Session.of settings directory mode).commandLog = false :=
    (Session.recordsOff_iff _ _).mp (off other mode different) _ listed _ List.mem_cons_self
  have opens : call.launch.Opens call.trace (Request.Records
      (Session.of settings directory mode).commandLog (call.Offers mode)) := by
    refine ⟨fun asked inert => .spares ?_, fun _ _ _ _ _ _ => ?_,
      fun arguments found loading readable loaded begins command time finding shown finds => ?_⟩
    · cases asked with
      | file request => cases request <;> first | exact absurd inert id | trivial
      | _ => trivial
    · refine (asks_clearSessionLogs _).mono ?_
      rintro asked (rfl | rfl | ⟨line, rfl⟩)
      · exact .empties _
      · exact .empties _
      · exact .spares trivial
    · rcases orderly.session readable loaded begins with ⟨opened, same⟩
      refine (asks_identify_found finds time).mono ?_
      rintro asked ⟨fresh, rfl⟩
      rw [same]
      by_cases inMode : Mode.ofArguments arguments = mode
      · rw [inMode]
        exact .adds (.intro opened inMode fresh shown)
      · exact .spares (others inMode List.mem_cons_self)
  rcases Launch.yields_invoke_or opens orderly.runs with all | carries
  · exact all
  generalize whole : call.trace = trace at carries
  cases carries with
  | @intro arguments found time command invocation runId loading cleared finding opening working
      readable loaded clears finds read before opened carried =>
    have begins : loading <+: call.trace := by
      rw [whole, List.append_assoc, List.append_assoc]
      exact List.prefix_append _ _
    have reached : loading ++ (cleared ++ ⟨.now, time⟩ :: finding) <+: call.trace :=
      whole ▸ List.prefix_append _ _
    have same := (orderly.session readable loaded begins).2
    have keepsOff := orderly.off _ _ _ reached (.intro readable loaded clears finds read)
    refine List.forall_mem_append.mpr ⟨before, List.forall_mem_append.mpr ⟨opened, ?_⟩⟩
    have spared := spares_carryOut _ _ _ _ _ _ _ _ ⟨?_, keepsOff.checkpoint⟩ ?_ _ _ carried
    · exact fun exchange member => .spares (spared exchange member)
    · rw [same] at keepsOff ⊢
      exact keepsOff.sessionLog
    · rw [same]
      by_cases inMode : Mode.ofArguments arguments = mode
      · rw [inMode]
        exact .inr (logs mode).symm
      · exact .inr (others inMode (List.mem_pair.mpr (.inr rfl)))

end Call.Orderly

/-! ## What a series of calls records -/

/-- A text is that of a command log all of whose records are of some kind. -/
def IsHistory (own : CommandRecord → Prop) (text : String) : Prop :=
  ∃ records, IsCommandLog text records ∧ ∀ record ∈ records, own record

theorem IsHistory.nil (own : CommandRecord → Prop) : IsHistory own "" :=
  ⟨[], .nil, List.forall_mem_nil _⟩

theorem IsHistory.append {own : CommandRecord → Prop} {text : String}
    (history : IsHistory own text) {record : CommandRecord} (made : record.IsMade)
    (fresh : resumeToken ∉ record.tokens) (mine : own record) :
    IsHistory own (text ++ record.line ++ "\n") := by
  rcases history with ⟨records, log, owned⟩
  refine ⟨records ++ [record], ?_, List.forall_mem_append.mpr
    ⟨owned, List.forall_mem_singleton.mpr mine⟩⟩
  have appended := log.append (List.forall_mem_singleton.mpr made)
    (List.forall_mem_singleton.mpr fresh)
  rw [List.map_singleton] at appended
  simpa [withFeeds, String.append_assoc] using appended

/-- A history stays one along requests that only put records of its kind into it.  A request
that is refused puts nothing there. -/
theorem IsHistory.after {own offered : CommandRecord → Prop} {path : Path}
    (sound : ∀ record, offered record → record.IsMade ∧ resumeToken ∉ record.tokens)
    {trace : List Exchange} (records : ∀ exchange ∈ trace, exchange.asked.Records path offered)
    (kept : ∀ exchange ∈ trace, ¬exchange.Overwrites path)
    (owns : ∀ record, offered record → appending path record.line ∈ trace → own record)
    {text : Option String} (history : IsHistory own (text.getD "")) :
    IsHistory own ((textAfter path text trace).getD "") := by
  induction trace generalizing text with
  | nil => exact history
  | cons exchange rest inductionHypothesis =>
    rw [textAfter_cons]
    refine inductionHypothesis (fun later member => records later (List.mem_cons_of_mem _ member))
      (fun later member => kept later (List.mem_cons_of_mem _ member))
      (fun record offers member => owns record offers (List.mem_cons_of_mem _ member)) ?_
    rcases exchange with ⟨asked, answer⟩
    cases records _ List.mem_cons_self with
    | spares spares =>
      rw [Exchange.applyTo_of_not_changes
        (Exchange.not_changes_of_spares spares (kept _ List.mem_cons_self))]
      exact history
    | empties target =>
      rcases answer with failure | ⟨⟨⟩⟩
      · exact history
      · rw [Exchange.applyTo]
        split
        · exact .nil own
        · exact history
    | @adds record offers =>
      rcases answer with failure | ⟨⟨⟩⟩
      · exact history
      · rw [Exchange.applyTo, if_pos (Path.same_self _), Option.getD_some]
        exact history.append (sound record offers).1 (sound record offers).2
          (owns record offers List.mem_cons_self)

namespace Call.Orderly

variable {settings : Settings} {directory : Path} {mode : Mode} {call : Call}
  (orderly : call.Orderly settings directory mode)

include orderly

theorem sound {record : CommandRecord} (offers : call.Offers mode record) :
    record.IsMade ∧ resumeToken ∉ record.tokens := by
  cases offers with
  | intro opened inMode fresh shown =>
    exact ⟨⟨_, _, _, rfl, RunId.derive_isReadable _ _, orderly.clock _ shown⟩,
      resumeToken_not_mem_recordedTokens fresh⟩

/-- An orderly call keeps the history of a mode. -/
theorem isHistory (apart : settings.LogsApart directory) {own : CommandRecord → Prop}
    (owns : ∀ record, call.Offers mode record →
      appending (Session.of settings directory mode).commandLog record.line ∈ call.trace →
        own record)
    (history : IsHistory own
      ((call.files (Session.of settings directory mode).commandLog).getD "")) :
    IsHistory own (call.textAfter (Session.of settings directory mode).commandLog) :=
  history.after (fun _ => orderly.sound) (orderly.records apart) orderly.kept owns

end Call.Orderly

/-- What is recalled is the command of one of the records. -/
theorem Session.recalled_mem {session : Session} {current : List String} {default : Path}
    {commands directories : String} {records : List CommandRecord} {stored : StoredCommand}
    (read : CommandRecord.ofLog commands = .ok records)
    (recalled : session.recalled current default commands directories = .ok stored) :
    ∃ record ∈ records, stored.runId = record.runId ∧
      stored.tokens = replayTokens record.tokens current := by
  rw [Session.recalled, read] at recalled
  split at recalled
  next _ impossible => cases impossible
  next found same =>
    cases same
    split at recalled
    next => cases recalled
    next last known =>
      split at recalled
      · cases recalled
      · cases recalled
        exact ⟨last, List.mem_of_getLast? known, rfl, rfl⟩

/-! ## Isolation -/

namespace Settings

/-- One of the calls was given the command in the mode, and put it into the command log. -/
def Recorded (settings : Settings) (directory : Path) (mode : Mode) (calls : List Call)
    (record : CommandRecord) : Prop :=
  ∃ call ∈ calls, call.Offers mode record ∧
    appending (Session.of settings directory mode).commandLog record.line ∈ call.trace

/-- Behind a series of calls of both modes that began without a command log, what is recalled
in a mode is a command that one of the calls recorded in this mode. -/
def RecallsOwn (settings : Settings) (directory : Path) (mode : Mode) : Prop :=
  ∀ (calls : List Call) (last : Call) (current : List String) (default : Path)
    (recalling : List Exchange) (stored : StoredCommand),
    (∀ call ∈ calls ++ [last], call.Orderly settings directory mode) →
    Follow (Session.of settings directory mode).commandLog "" (calls ++ [last]) →
    ((Session.of settings directory mode).recall current default).Yields recalling (.ok stored) →
    Throughout (Exchange.Reports last.files) last.trace recalling →
    ∃ record, settings.Recorded directory mode (calls ++ [last]) record ∧
      stored.runId = record.runId ∧ stored.tokens = replayTokens record.tokens current

/-- The histories of the two modes have nothing to do with each other: the two logs of a
mode are different files, what is recorded in one mode leaves the logs of the other as they
are, and what is recalled in a mode was recorded in it. -/
structure Isolates (settings : Settings) (directory : Path) : Prop where
  logs : ∀ mode, (Session.of settings directory mode).KeepsLogsApart
  records : ∀ mode other, mode ≠ other →
    (Session.of settings directory mode).RecordsOff (Session.of settings directory other)
  recalls : ∀ mode, settings.RecallsOwn directory mode

variable {settings : Settings} {directory : Path}

theorem LogsApart.recallsOwn (apart : settings.LogsApart directory) (mode : Mode) :
    settings.RecallsOwn directory mode := by
  intro calls last current default recalling stored orderly follow recalls reports
  have history := follow.after
    (fun _ => IsHistory (settings.Recorded directory mode (calls ++ [last])))
    (fun state _ => state) () (.nil _)
    (fun call member _ => (orderly call member).isHistory apart
      fun record offers recorded => ⟨call, member, offers, recorded⟩) last (by simp)
  rcases history with ⟨records, log, owned⟩
  have recalled := (Action.yields_recall _ _ _ _ recalls reports).symm
  have read := CommandRecord.ofLog_withFeeds _ log.made
  rw [← log.text] at read
  rcases Session.recalled_mem read recalled with ⟨record, member, identified, tokens⟩
  exact ⟨record, owned record member, identified, tokens⟩

/-- The histories of the two modes are isolated exactly if the settings name four different
files. -/
theorem isolates_iff (settings : Settings) (directory : Path) :
    settings.Isolates directory ↔ settings.LogsApart directory := by
  constructor
  · exact fun isolates => (settings.logsApart_iff directory).mpr ⟨isolates.logs, isolates.records⟩
  · intro apart
    rcases (settings.logsApart_iff directory).mp apart with ⟨logs, records⟩
    exact ⟨logs, records, apart.recallsOwn⟩

end Settings

/-- The names of the logs of a mode when the settings leave them alone. -/
def Mode.logNames (mode : Mode) : List String := [mode.commandLogName, mode.directoryLogName]

/-- The built-in names are those of four files. -/
theorem Settings.logsApart_builtIn {settings : Settings} (builtIn : settings.logs = {})
    (directory : Path) : settings.LogsApart directory := by
  have names : settings.logFiles directory =
      (Mode.main.logNames ++ Mode.cluster.logNames).map directory.child := by
    simp only [logFiles, Session.logs, Session.commandLog_builtIn builtIn,
      Session.directoryLog_builtIn builtIn]
    rfl
  rw [LogsApart, names, List.map_map]
  have plain : ∀ name ∈ Mode.main.logNames ++ Mode.cluster.logNames, Path.IsPlainName name := by
    decide
  have different : (Mode.main.logNames ++ Mode.cluster.logNames).Nodup := by decide
  refine different.map_on fun left leftIn right rightIn same => ?_
  rw [Function.comp_apply, Function.comp_apply, Path.components_child _ (plain left leftIn),
    Path.components_child _ (plain right rightIn)] at same
  simpa using same

/-! ## A call of each mode, and a name given twice -/

theorem Launch.orderly_call (launch : Launch) (files : Path → Option String) (time : Instant)
    (small : time.recordSeconds ≤ largestWord64) (mode : Mode)
    (names : ∀ arguments found, (launch.call files time).opening = .ok (arguments, found) →
      found.logs = {})
    (kept : ∀ exchange ∈ (launch.call files time).trace, ¬exchange.Overwrites
      (Session.of {} launch.directory mode).commandLog) :
    (launch.call files time).Orderly {} launch.directory mode where
  runs := Program.runs_record _ _ _
  reports := (launch.answered_call files time).mono (reports_of_timedAnswer files time)
  place := rfl
  names := names
  clock := by
    intro shown member
    have told := (launch.answered_call files time).forall_mem
      (fun _ _ told => Exchange.clock?_of_timedAnswer told) _ member
    rcases told with never | known
    · cases never
    · cases known
      exact small
  off _ _ _ _ _ := (Session.sharesApart_builtIn rfl launch.directory mode _).output _
    List.mem_cons_self
  kept := kept

/-- A new command of the cluster mode without anything to build. -/
def clusterLaunch : Launch :=
  ⟨["bigmler", "cluster", "--name", "z", "--output-dir", "clusters"].map encodeUtf8, [],
    ⟨"/work"⟩⟩

/-- A command of the cluster mode, where a command of the main mode left no file of it. -/
def clusterCall : Call := clusterLaunch.call (fun _ => none) ⟨5000000000⟩

theorem namedCall_facts :
    (∀ exchange ∈ namedCall.trace, ¬exchange.Overwrites clusterSession.commandLog) ∧
      namedCall.textAfter clusterSession.commandLog = "" := by
  decide +kernel

theorem clusterCall_facts :
    (∀ exchange ∈ clusterCall.trace, ¬exchange.Overwrites clusterSession.commandLog) ∧
      (clusterSession.recalled [] ⟨"out"⟩ (clusterCall.textAfter clusterSession.commandLog)
        (clusterCall.textAfter clusterSession.directoryLog)).isOk = true := by
  decide +kernel

theorem orderly_namedCall : namedCall.Orderly {} ⟨"/work"⟩ .cluster := by
  refine Launch.orderly_call namedLaunch _ _ (by decide) .cluster ?_ namedCall_facts.1
  intro arguments found opened
  cases opened.symm.trans namedCall_traced.2.1
  rfl

theorem orderly_clusterCall : clusterCall.Orderly {} ⟨"/work"⟩ .cluster := by
  refine Launch.orderly_call clusterLaunch _ _ (by decide) .cluster ?_ clusterCall_facts.1
  intro arguments found opened
  have known : clusterCall.opening =
      .ok (["bigmler", "cluster", "--name", "z", "--output-dir", "clusters"], {}) := by
    decide +kernel
  cases opened.symm.trans known
  rfl

/-- A defaults file that gives the command log of the main mode to the cluster mode. -/
def sharedLogDefaults : String := "[logs]\ncluster_command_log = \".bigmler\"\n"

/-- With the built-in names a command of the main mode is not recalled in the cluster mode.
The histories are not isolated with a defaults file that names one log twice, and such a file
is accepted. -/
theorem isolates_clusterCall :
    (∃ recalling stored, (clusterSession.recall [] ⟨"out"⟩).Yields recalling (.ok stored) ∧
      Throughout (Exchange.Reports clusterCall.files) clusterCall.trace recalling ∧
      ∃ record, Settings.Recorded {} ⟨"/work"⟩ .cluster [namedCall, clusterCall] record ∧
        stored.tokens = replayTokens record.tokens []) ∧
    ∃ settings, Settings.ofDefaults (some sharedLogDefaults) = .ok settings ∧
      ¬settings.Isolates ⟨"/work"⟩ := by
  constructor
  · have isolates : ({} : Settings).Isolates ⟨"/work"⟩ :=
      (Settings.isolates_iff _ _).mpr (Settings.logsApart_builtIn rfl _)
    rcases (clusterSession.recall [] ⟨"out"⟩).exists_yields clusterCall.files clusterCall.trace with
      ⟨recalling, outcome, recalls, reports⟩
    have orderly : ∀ call ∈ [namedCall] ++ [clusterCall], call.Orderly {} ⟨"/work"⟩ .cluster := by
      simp [orderly_namedCall, orderly_clusterCall]
    have follow : Follow clusterSession.commandLog "" ([namedCall] ++ [clusterCall]) :=
      ⟨rfl, namedCall_facts.2.symm, trivial⟩
    have recalled := Action.yields_recall _ _ _ _ recalls reports
    have succeeds : outcome.isOk = true := recalled ▸ clusterCall_facts.2
    cases outcome with
    | error failure => cases succeeds
    | ok stored =>
      rcases isolates.recalls .cluster _ _ _ _ _ _ orderly follow recalls reports with
        ⟨record, recorded, _, tokens⟩
      exact ⟨recalling, stored, recalls, reports, record, recorded, tokens⟩
  · refine ⟨{ logs := { clusterCommandLog := ".bigmler" } }, by decide +kernel, ?_⟩
    rw [Settings.isolates_iff]
    decide +kernel

end ModelRuns
