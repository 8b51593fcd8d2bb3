import ModelRuns.Proofs.Invocation.Replay
import ModelRuns.Proofs.Run.Opening

namespace ModelRuns

/-!
# Invocations that are rejected

Before an invocation records itself it may be rejected: an argument or the defaults file
cannot be read, the command to resume cannot be recalled, the options cannot be read or
only ask for help, or there is an objection to them.  `Launch.Rejects` lists these, each
with the requests that were asked until then.

Nothing is changed until then, and the service is not reached.  The answers determine how a
run goes, so with those that reject it an invocation asks nothing else, whatever is answered
apart from them.
-/

/-- A request that changes no file and does not reach the service.  What opens the run log
is one: the run log is kept apart from the files. -/
def Request.Inert : Request → Prop
  | .file (.read _) => True
  | .file (.fileExists _) => True
  | .now => True
  | .printHelp => True
  | .openRunLog _ _ => True
  | _ => False

theorem Request.inert_of_inspects {asked : Request} (inspects : asked.Inspects) :
    asked.Inert := by
  cases asked with
  | file request =>
    cases request with
    | read path => trivial
    | fileExists path => trivial
    | _ => exact inspects
  | _ => exact absurd inspects id

theorem Exchange.applyTo_of_inert {exchange : Exchange} (inert : exchange.asked.Inert)
    (path : Path) (text : Option String) : exchange.applyTo path text = text := by
  rcases exchange with ⟨asked, answer⟩
  cases asked with
  | file request =>
    cases request with
    | read target => rfl
    | fileExists target => rfl
    | _ => exact absurd inert id
  | _ => rfl

theorem textAfter_of_inert {trace : List Exchange}
    (inert : ∀ exchange ∈ trace, exchange.asked.Inert) (path : Path) (text : Option String) :
    textAfter path text trace = text := by
  induction trace with
  | nil => rfl
  | cons exchange rest inductionHypothesis =>
    rw [textAfter_cons, Exchange.applyTo_of_inert (inert exchange List.mem_cons_self)]
    exact inductionHypothesis fun later member => inert later (List.mem_cons_of_mem _ member)

namespace Launch

variable {launch : Launch} {arguments : List String} {settings : Settings} {time : Instant}
  {command : EffectiveCommand} {loading back trace : List Exchange}
  {outcome : Except Failure Nat}

/-- The invocation has come to know its command: its arguments and settings are read, the
clock has shown the time, and a command to resume is recalled. -/
structure Knows (launch : Launch) (arguments : List String) (settings : Settings)
    (time : Instant) (command : EffectiveCommand) (trace : List Exchange) : Prop where
  readable : launch.arguments.mapM readArgument = .ok arguments
  found : ∃ loading finding, trace = loading ++ ⟨.now, time⟩ :: finding ∧
    (Settings.load launch.directory).Yields loading (.ok settings) ∧
    (effectiveCommand (launch.session settings arguments) arguments
      ⟨defaultDirectoryName time⟩).Yields finding (.ok command)

/-- The invocation is rejected behind a trace, and ends with an outcome. -/
inductive Rejects (launch : Launch) : List Exchange → Except Failure Nat → Prop
  | unreadable {failure : Failure} (failed : launch.arguments.mapM readArgument = .error failure) :
      launch.Rejects [] (.error failure)
  | settings {arguments : List String} {loading : List Exchange} {failure : Failure}
      (readable : launch.arguments.mapM readArgument = .ok arguments)
      (failed : (Settings.load launch.directory).Yields loading (.error failure)) :
      launch.Rejects loading (.error failure)
  | recalling {arguments : List String} {settings : Settings} {time : Instant}
      {loading recalling : List Exchange} {failure : Failure}
      (readable : launch.arguments.mapM readArgument = .ok arguments)
      (loaded : (Settings.load launch.directory).Yields loading (.ok settings))
      (resumes : resumeToken ∈ arguments)
      (failed : ((launch.session settings arguments).recall arguments
        ⟨defaultDirectoryName time⟩).Yields recalling (.error failure)) :
      launch.Rejects (loading ++ ⟨.now, time⟩ :: recalling) (.error failure)
  | help {arguments : List String} {settings : Settings} {time : Instant}
      {command : EffectiveCommand} {trace : List Exchange}
      (knows : launch.Knows arguments settings time command trace)
      (asked : Invocation.read command.tokens = .error .helpRequested) :
      launch.Rejects (trace ++ [⟨.printHelp, ()⟩]) (.ok exitSuccess)
  | options {arguments : List String} {settings : Settings} {time : Instant}
      {command : EffectiveCommand} {trace : List Exchange} {fault : UsageFault}
      (knows : launch.Knows arguments settings time command trace)
      (refused : Invocation.read command.tokens = .error fault) (other : fault ≠ .helpRequested) :
      launch.Rejects trace (.error (.commandLine fault.message))
  /-- The run log comes before the objections, so one that cannot be opened hides them. -/
  | runLog {arguments : List String} {settings : Settings} {time : Instant}
      {command : EffectiveCommand} {trace : List Exchange} {invocation : Invocation}
      {failure : Failure}
      (knows : launch.Knows arguments settings time command trace)
      (read : Invocation.read command.tokens = .ok invocation) :
      launch.Rejects (trace ++ [⟨.openRunLog (invocation.common.logFile.map
        (launch.session settings arguments).resolve) invocation.common.debug, .error failure⟩])
        (.error failure)
  | objection {arguments : List String} {settings : Settings} {time : Instant}
      {command : EffectiveCommand} {trace : List Exchange} {invocation : Invocation}
      {cause : Objection}
      (knows : launch.Knows arguments settings time command trace)
      (read : Invocation.read command.tokens = .ok invocation)
      (objected : invocation.check = .error cause) :
      launch.Rejects (trace ++ [⟨.openRunLog (invocation.common.logFile.map
        (launch.session settings arguments).resolve) invocation.common.debug, .ok ()⟩])
        (.error (.objection cause))

/-! ## Up to the rejection nothing is changed -/

theorem inert_loading {result : Except Failure Settings}
    (loads : (Settings.load launch.directory).Yields loading result) :
    ∀ exchange ∈ loading, exchange.asked.Inert :=
  fun exchange member =>
    Request.inert_of_inspects (Action.asks_loadSettings _ _ _ loads exchange member)

theorem inert_finding {session : Session} {fallback : Path} {finding : List Exchange}
    {result : Except Failure EffectiveCommand}
    (finds : (effectiveCommand session arguments fallback).Yields finding result) :
    ∀ exchange ∈ finding, exchange.asked.Inert := by
  have asks : (effectiveCommand session arguments fallback).Asks Request.Inspects :=
    .ite (.bind (Action.asks_recall _ _ _) fun _ => .pure _) (.pure _)
  exact fun exchange member => Request.inert_of_inspects (asks _ _ finds exchange member)

theorem inert_behind_clock {front back : List Exchange}
    (before : ∀ exchange ∈ front, exchange.asked.Inert)
    (behind : ∀ exchange ∈ back, exchange.asked.Inert) :
    ∀ exchange ∈ front ++ ⟨.now, time⟩ :: back, exchange.asked.Inert :=
  List.forall_mem_append.mpr ⟨before, List.forall_mem_cons.mpr ⟨trivial, behind⟩⟩

theorem Knows.inert (knows : launch.Knows arguments settings time command trace) :
    ∀ exchange ∈ trace, exchange.asked.Inert := by
  rcases knows.found with ⟨loading, finding, rfl, loaded, found⟩
  exact inert_behind_clock (inert_loading loaded) (inert_finding found)

theorem Rejects.inert (rejects : launch.Rejects trace outcome) :
    ∀ exchange ∈ trace, exchange.asked.Inert := by
  cases rejects with
  | unreadable failed => exact List.forall_mem_nil _
  | settings readable failed => exact inert_loading failed
  | recalling readable loaded resumes failed =>
    exact inert_behind_clock (inert_loading loaded) fun exchange member =>
      Request.inert_of_inspects (Action.asks_recall _ _ _ _ _ failed exchange member)
  | options knows refused other => exact knows.inert
  | help knows asked =>
    exact List.forall_mem_append.mpr ⟨knows.inert, List.forall_mem_singleton.mpr trivial⟩
  | runLog knows read =>
    exact List.forall_mem_append.mpr ⟨knows.inert, List.forall_mem_singleton.mpr trivial⟩
  | objection knows read objected =>
    exact List.forall_mem_append.mpr ⟨knows.inert, List.forall_mem_singleton.mpr trivial⟩

/-! ## A rejection is a whole run -/

/-- The arguments are read in one way only. -/
theorem keeps_of_readable (readable : launch.arguments.mapM readArgument = .ok arguments)
    (keeps : clearLogsToken ∉ arguments) :
    ∀ others, launch.arguments.mapM readArgument = .ok others → clearLogsToken ∉ others := by
  intro others read
  cases readable.symm.trans read
  exact keeps

theorem yields_of_loaded (readable : launch.arguments.mapM readArgument = .ok arguments)
    (loaded : (Settings.load launch.directory).Yields loading (.ok settings))
    (ran : (runArguments settings (readEnvironment launch.environment)
      (launch.session settings arguments) arguments).Yields back outcome) :
    launch.invoke.Yields (loading ++ back) outcome := by
  refine (Action.yields_bind_iff _ _ _ _).mpr (.inr ⟨[], loading ++ back, arguments, rfl, ?_, ?_⟩)
  · exact (Action.yields_ofExcept_iff _ _ _).mpr ⟨rfl, readable.symm⟩
  · exact (Action.yields_bind_iff _ _ _ _).mpr (.inr ⟨loading, back, settings, rfl, loaded, ran⟩)

section

variable (keeps : ∀ arguments, launch.arguments.mapM readArgument = .ok arguments →
  clearLogsToken ∉ arguments)

include keeps

/-- An invocation that does not ask for empty logs looks at the clock once its settings are
read. -/
theorem yields_of_clock (readable : launch.arguments.mapM readArgument = .ok arguments)
    (loaded : (Settings.load launch.directory).Yields loading (.ok settings))
    (ran : (effectiveCommand (launch.session settings arguments) arguments
        ⟨defaultDirectoryName time⟩ >>= fun command =>
      runCommand settings (readEnvironment launch.environment) (launch.session settings arguments)
        false time ⟨defaultDirectoryName time⟩ command).Yields back outcome) :
    launch.invoke.Yields (loading ++ ⟨.now, time⟩ :: back) outcome := by
  have absent : arguments.contains clearLogsToken = false := by
    simpa using keeps arguments readable
  refine yields_of_loaded readable loaded ?_
  unfold runArguments
  rw [absent]
  exact (Action.yields_asking_bind_iff .now _ _ _).mpr ⟨time, back, rfl, ran⟩

theorem Knows.yields (knows : launch.Knows arguments settings time command trace)
    (ran : (runCommand settings (readEnvironment launch.environment)
      (launch.session settings arguments) false time ⟨defaultDirectoryName time⟩ command).Yields
        back outcome) :
    launch.invoke.Yields (trace ++ back) outcome := by
  rcases knows.found with ⟨loading, finding, rfl, loaded, found⟩
  rw [List.append_assoc, List.cons_append]
  refine yields_of_clock keeps knows.readable loaded ?_
  exact (Action.yields_bind_iff _ _ _ _).mpr (.inr ⟨finding, back, command, rfl, found, ran⟩)

theorem Rejects.yields (rejects : launch.Rejects trace outcome) :
    launch.invoke.Yields trace outcome := by
  cases rejects with
  | unreadable failed =>
    refine (Action.yields_bind_iff _ _ _ _).mpr (.inl ⟨_, ?_, rfl⟩)
    exact (Action.yields_ofExcept_iff _ _ _).mpr ⟨rfl, failed.symm⟩
  | @settings arguments loading failure readable failed =>
    refine (Action.yields_bind_iff _ _ _ _).mpr (.inr ⟨[], trace, arguments, rfl, ?_, ?_⟩)
    · exact (Action.yields_ofExcept_iff _ _ _).mpr ⟨rfl, readable.symm⟩
    · exact (Action.yields_bind_iff _ _ _ _).mpr (.inl ⟨failure, failed, rfl⟩)
  | recalling readable loaded resumes failed =>
    refine yields_of_clock keeps readable loaded ?_
    rw [effectiveCommand_resuming _ _ resumes, bind_assoc]
    exact (Action.yields_bind_iff _ _ _ _).mpr (.inl ⟨_, failed, rfl⟩)
  | help knows asked =>
    refine knows.yields keeps ?_
    unfold runCommand
    rw [asked]
    exact (Action.yields_asking_bind_iff .printHelp _ _ _).mpr
      ⟨(), [], rfl, (Action.yields_pure_iff _ _ _).mpr ⟨rfl, rfl⟩⟩
  | @options _ _ _ _ _ fault knows refused other =>
    rw [← List.append_nil trace]
    refine knows.yields keeps ?_
    unfold runCommand
    rw [refused]
    cases fault with
    | helpRequested => exact absurd rfl other
    | _ => exact (Action.yields_throw_iff _ _ _).mpr ⟨rfl, rfl⟩
  | runLog knows read =>
    refine knows.yields keeps ?_
    unfold runCommand
    rw [read]
    refine (Action.yields_bind_iff _ _ _ _).mpr (.inl ⟨_, ?_, rfl⟩)
    exact (Action.yields_asking_iff (.openRunLog _ _) id _ _).mpr ⟨_, rfl, rfl⟩
  | objection knows read objected =>
    refine knows.yields keeps ?_
    unfold runCommand
    rw [read]
    refine (Action.yields_bind_iff _ _ _ _).mpr (.inr ⟨[_], [], (), rfl, ?_, ?_⟩)
    · exact (Action.yields_asking_iff (.openRunLog _ _) id _ _).mpr ⟨.ok (), rfl, rfl⟩
    · refine (Action.yields_bind_iff _ _ _ _).mpr (.inl ⟨_, ?_, rfl⟩)
      rw [objected]
      exact (Action.yields_ofExcept_iff _ _ _).mpr ⟨rfl, rfl⟩

/-- However it is answered, an invocation that is rejected with these answers ends with what it
was rejected for.  It changes no file, makes no directory and does not reach the service. -/
theorem inert_of_rejects (reply : List Exchange → (asked : Request) → asked.Answer)
    {rejected : List Exchange} {answer : Except Failure Nat}
    (rejects : launch.Rejects rejected answer)
    (answered : Throughout (fun earlier exchange => exchange.answer = reply earlier exchange.asked)
      [] rejected) :
    launch.invoke.run.record reply [] = (rejected, answer) ∧
      (∀ exchange ∈ rejected, exchange.asked.Inert) ∧
      ∀ path text, textAfter path text rejected = text :=
  ⟨(rejects.yields keeps).eq_record answered, rejects.inert, textAfter_of_inert rejects.inert⟩

end

/-! ## Up to the run of a command -/

/-- A condition on requests that a run meets before its command is carried out. -/
structure Opens (launch : Launch) (trace : List Exchange) (allowed : Request → Prop) : Prop where
  inert : ∀ asked : Request, asked.Inert → allowed asked
  clears : ∀ arguments settings loading, launch.arguments.mapM readArgument = .ok arguments →
    (Settings.load launch.directory).Yields loading (.ok settings) → loading <+: trace →
    (clearSessionLogs (launch.session settings arguments)).Asks allowed
  identifies : ∀ arguments settings loading, launch.arguments.mapM readArgument = .ok arguments →
    (Settings.load launch.directory).Yields loading (.ok settings) → loading <+: trace →
    ∀ command time finding, (⟨.now, time⟩ : Exchange) ∈ trace →
    (effectiveCommand (launch.session settings arguments) arguments
      ⟨defaultDirectoryName time⟩).Yields finding (.ok command) →
    (identify (launch.session settings arguments) command time).Asks allowed

/-- A run comes to carry out the invocation that it has read. -/
inductive Carries (launch : Launch) (allowed : Request → Prop) (outcome : Except Failure Nat) :
    List Exchange → Prop
  | intro {arguments : List String} {settings : Settings} {time : Instant}
      {command : EffectiveCommand} {invocation : Invocation} {runId : Option RunId}
      {loading cleared finding opening working : List Exchange}
      (readable : launch.arguments.mapM readArgument = .ok arguments)
      (loaded : (Settings.load launch.directory).Yields loading (.ok settings))
      (clears : (Action.when (arguments.contains clearLogsToken)
        (clearSessionLogs (launch.session settings arguments))).Yields cleared (.ok ()))
      (found : (effectiveCommand (launch.session settings arguments) arguments
        ⟨defaultDirectoryName time⟩).Yields finding (.ok command))
      (read : Invocation.read command.tokens = .ok invocation)
      (before : ∀ exchange ∈ loading ++ (cleared ++ ⟨.now, time⟩ :: finding),
        allowed exchange.asked)
      (opens : ∀ exchange ∈ opening, allowed exchange.asked)
      (carried : (carryOut settings (readEnvironment launch.environment)
        (launch.session settings arguments) (arguments.contains clearLogsToken)
        ⟨defaultDirectoryName time⟩ command invocation runId).Yields working outcome) :
      launch.Carries allowed outcome
        (loading ++ (cleared ++ ⟨.now, time⟩ :: finding) ++ (opening ++ working))

/-- A command comes to be carried out, or all that its run asks is allowed. -/
theorem yields_runCommand_or {allowed : Request → Prop} {environment : Environment}
    {session : Session} {clearing : Bool} {fallback : Path}
    (helps : allowed .printHelp) (logs : ∀ file debug, allowed (.openRunLog file debug))
    (identifies : (identify session command time).Asks allowed)
    (yields : (runCommand settings environment session clearing time fallback command).Yields
      trace outcome) :
    (∀ exchange ∈ trace, allowed exchange.asked) ∨ ∃ invocation runId opening working,
      trace = opening ++ working ∧ (∀ exchange ∈ opening, allowed exchange.asked) ∧
      Invocation.read command.tokens = .ok invocation ∧
      (carryOut settings environment session clearing fallback command invocation runId).Yields
        working outcome := by
  unfold runCommand at yields
  split at yields
  next =>
    rcases (Action.yields_asking_bind_iff .printHelp _ _ _).mp yields with ⟨_, _, rfl, helped⟩
    rw [((Action.yields_pure_iff _ _ _).mp helped).1]
    exact .inl (List.forall_mem_singleton.mpr helps)
  next =>
    rw [((Action.yields_throw_iff _ _ _).mp yields).1]
    exact .inl (List.forall_mem_nil _)
  next invocation read =>
    rcases yields_runInvocation yields with ⟨answer, back, rfl, ⟨_, rfl⟩ | ⟨_, identifying⟩⟩
    · exact .inl (List.forall_mem_singleton.mpr (logs _ _))
    rcases identifies.yields_bind identifying with
      others | ⟨identified, working, runId, rfl, others, _, carried⟩
    · exact .inl (List.forall_mem_cons.mpr ⟨logs _ _, others⟩)
    · exact .inr ⟨invocation, runId, _ :: identified, working, rfl,
        List.forall_mem_cons.mpr ⟨logs _ _, others⟩, read, carried⟩

/-- A run comes to carry out an invocation, or all that it asks is allowed. -/
theorem yields_invoke_or {allowed : Request → Prop} (opens : launch.Opens trace allowed)
    (runs : launch.invoke.Yields trace outcome) :
    (∀ exchange ∈ trace, allowed exchange.asked) ∨ launch.Carries allowed outcome trace := by
  rcases (Action.yields_bind_iff _ _ _ _).mp runs with
    ⟨failure, failed, _⟩ | ⟨none, rest, arguments, rfl, parsed, goesOn⟩
  · rw [((Action.yields_ofExcept_iff _ _ _).mp failed).1]
    exact .inl (List.forall_mem_nil _)
  rcases (Action.yields_ofExcept_iff _ _ _).mp parsed with ⟨rfl, readable⟩
  rw [List.nil_append] at opens ⊢
  have loads : (Settings.load launch.directory).Asks allowed :=
    fun _ _ loads exchange member => opens.inert _ (inert_loading loads exchange member)
  rcases loads.yields_bind goesOn with
    others | ⟨loading, back, settings, rfl, allowedLoading, loaded, ran⟩
  · exact .inl others
  have begins : loading <+: loading ++ back := List.prefix_append _ _
  have identifies := opens.identifies _ _ _ readable.symm loaded begins
  have emptying : (Action.when (arguments.contains clearLogsToken)
      (clearSessionLogs (launch.session settings arguments))).Asks allowed :=
    .when (opens.clears _ _ _ readable.symm loaded begins)
  rcases emptying.yields_bind ran with
    others | ⟨cleared, last, _, rfl, allowedCleared, clears, looks⟩
  · exact .inl (List.forall_mem_append.mpr ⟨allowedLoading, others⟩)
  rcases (Action.yields_asking_bind_iff .now _ _ _).mp looks with ⟨time, behind, rfl, commands⟩
  have before {rest : List Exchange} (others : ∀ exchange ∈ rest, allowed exchange.asked) :
      ∀ exchange ∈ loading ++ (cleared ++ ⟨.now, time⟩ :: rest), allowed exchange.asked :=
    List.forall_mem_append.mpr ⟨allowedLoading, List.forall_mem_append.mpr
      ⟨allowedCleared, List.forall_mem_cons.mpr ⟨opens.inert _ trivial, others⟩⟩⟩
  have finds : (effectiveCommand (launch.session settings arguments) arguments
      ⟨defaultDirectoryName time⟩).Asks allowed :=
    fun _ _ finds exchange member => opens.inert _ (inert_finding finds exchange member)
  rcases finds.yields_bind commands with
    others | ⟨finding, working, command, rfl, allowedFinding, found, works⟩
  · exact .inl (before others)
  rcases yields_runCommand_or (opens.inert _ trivial)
      (fun _ _ => opens.inert _ trivial) (identifies _ _ _ (by simp) found) works with
    others | ⟨invocation, runId, opening, working, rfl, allowedOpening, read, carried⟩
  · exact .inl (before (List.forall_mem_append.mpr ⟨allowedFinding, others⟩))
  have carries : launch.Carries allowed outcome
      (loading ++ (cleared ++ ⟨.now, time⟩ :: finding) ++ (opening ++ working)) :=
    .intro readable.symm loaded clears found read (before allowedFinding) allowedOpening carried
  rw [List.append_assoc, List.append_assoc, List.cons_append] at carries
  exact .inr carries

end Launch

/-! ## A cluster to be published without a description, and nothing to resume -/

def publicArguments : List String :=
  ["bigmler", "cluster", "--cluster", "cluster/5143a51a37203f2cf7000972", "--public-cluster"]

def publicLaunch : Launch := ⟨publicArguments.map encodeUtf8, [], ⟨"/work"⟩⟩

def resumingLaunch : Launch := ⟨["bigmler", resumeToken].map encodeUtf8, [], ⟨"/work"⟩⟩

theorem readable_publicLaunch :
    publicLaunch.arguments.mapM readArgument = .ok publicArguments := by
  decide +kernel

theorem readable_resumingLaunch :
    resumingLaunch.arguments.mapM readArgument = .ok ["bigmler", resumeToken] := by
  decide +kernel

/-- Looking for a defaults file that is not there. -/
def noDefaults : Exchange := ⟨.file (.fileExists ⟨"/work/.bigmler_defaults"⟩), false⟩

theorem yields_load_noDefaults : (Settings.load ⟨"/work"⟩).Yields [noDefaults] (.ok {}) := by
  have place : (⟨"/work"⟩ : Path).child defaultsFileName = ⟨"/work/.bigmler_defaults"⟩ := by
    decide +kernel
  unfold Settings.load
  rw [place]
  refine (Action.yields_asking_bind_iff (.file (.fileExists _)) _ _ _).mpr ⟨false, [], rfl, ?_⟩
  rw [if_neg Bool.false_ne_true]
  exact (Action.yields_ofExcept_iff _ _ _).mpr ⟨rfl, rfl⟩

/-- The requests up to the objection. -/
def publicTrace : List Exchange := [noDefaults, ⟨.now, ⟨0⟩⟩] ++ [⟨.openRunLog none false, .ok ()⟩]

theorem rejects_publicLaunch :
    publicLaunch.Rejects publicTrace (.error (.objection .missingDescription)) := by
  have knows : publicLaunch.Knows publicArguments {} ⟨0⟩ (freshCommand publicArguments)
      [noDefaults, ⟨.now, ⟨0⟩⟩] := by
    refine ⟨readable_publicLaunch, [noDefaults], [], rfl, yields_load_noDefaults, ?_⟩
    rw [effectiveCommand_fresh _ _ (by decide)]
    exact (Action.yields_pure_iff _ _ _).mpr ⟨rfl, rfl⟩
  have read : Invocation.read (freshCommand publicArguments).tokens = .ok (Given.invocation
      [(.cluster, .text "cluster/5143a51a37203f2cf7000972"), (.publicCluster, .on)] .cluster) :=
    rfl
  exact .objection knows read (by decide +kernel)

/-- The failure of a run that finds nothing to resume. -/
def nothingToResume : Failure :=
  .corruptLog "no previous command found in /work/.bigmler; nothing to resume"

/-- The answers on a machine without files, at one time. -/
def emptyAnswer : List Exchange → (asked : Request) → asked.Answer :=
  timedAnswer (fun _ => none) ⟨0⟩

theorem rejects_resumingLaunch : ∃ trace, resumingLaunch.Rejects trace (.error nothingToResume) ∧
    Throughout (fun earlier exchange => exchange.answer = emptyAnswer earlier exchange.asked)
      [] trace := by
  have fails : ((((resumingLaunch.session {} ["bigmler", resumeToken]).recall
      ["bigmler", resumeToken] ⟨defaultDirectoryName ⟨0⟩⟩).run.record
        emptyAnswer [noDefaults, ⟨.now, ⟨0⟩⟩]).2 = .error nothingToResume) := by
    decide +kernel
  exact ⟨_, .recalling readable_resumingLaunch yields_load_noDefaults (by decide)
    (Action.yields_record _ _ _ fails), rfl, rfl, Program.throughout_record _ _ _⟩

/-- The objection to publishing without a description ends a run before anything is changed,
and so does the missing history of a run that resumes. -/
theorem inert_publicLaunch :
    publicLaunch.invoke.run.record emptyAnswer [] =
        (publicTrace, .error (.objection .missingDescription)) ∧
      (∀ path text, textAfter path text publicTrace = text) ∧
    ∃ trace, resumingLaunch.invoke.run.record emptyAnswer [] = (trace, .error nothingToResume) ∧
      ∀ path text, textAfter path text trace = text := by
  rcases Launch.inert_of_rejects (Launch.keeps_of_readable readable_publicLaunch (by decide))
    emptyAnswer rejects_publicLaunch ⟨rfl, rfl, rfl, trivial⟩ with ⟨objected, _, unchangedPublic⟩
  rcases rejects_resumingLaunch with ⟨trace, rejects, answered⟩
  rcases Launch.inert_of_rejects (Launch.keeps_of_readable readable_resumingLaunch (by decide))
    emptyAnswer rejects answered with ⟨resumed, _, unchangedResuming⟩
  exact ⟨objected, unchangedPublic, trace, resumed, unchangedResuming⟩

end ModelRuns
