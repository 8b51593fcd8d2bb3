import ModelRuns.Proofs.Path.Within
import ModelRuns.Proofs.Run.Places
import ModelRuns.Proofs.Run.Rejected
import ModelRuns.Proofs.Run.Sharing

namespace ModelRuns

/-!
# Files that a run changes

A run changes the two logs of its session, and otherwise files within its output directory:
its session log, its checkpoints, its copy of the defaults file and its results.  The names
of most of these are its own.  Of a path for the predictions only the file name counts, or
the path names the output directory itself.

The export is called what the user calls it.  A relative name stays within the output
directory, but an absolute name takes the place of the directory it is put behind.  This is
the one way out.
-/

/-! ## Results -/

/-- The predictions lie directly in the output directory. -/
structure RunPaths.Settled (paths : RunPaths) : Prop where
  output : paths.output.isAbsolute = true
  predictions : paths.predictions.isAbsolute = true
  below : paths.predictions.IsBelow paths.output

theorem RunPaths.settled_resolve {directory : Path} (absolute : directory.isAbsolute = true)
    (output predictions : Option Path) {defaultName : String}
    (plain : Path.IsPlainName defaultName) (fallback : Path) :
    (RunPaths.resolve directory output predictions defaultName fallback).Settled := by
  rcases resolve_cases absolute output predictions defaultName fallback with
    ⟨_, inside, rooted, resolved⟩ | ⟨_, path, _, directed, resolved⟩
  · rw [resolved]
    refine ⟨rooted, Path.join_isAbsolute rooted _, Path.isBelow_child inside ?_⟩
    cases named : predictions.bind Path.fileName? with
    | none => exact plain
    | some name =>
      rcases Option.bind_eq_some_iff.mp named with ⟨path, _, named⟩
      exact Path.isPlainName_fileName named
  · have rooted := Path.absolutize_isAbsolute absolute path
    rcases directed.parent?_absolutize absolute with ⟨parent, above⟩
    rw [resolved, above]
    exact ⟨Path.parent?_isAbsolute rooted above, rooted, Path.components_parent above⟩

theorem Invocation.isPlainName_defaultOutputName (invocation : Invocation) :
    Path.IsPlainName invocation.defaultOutputName := by
  cases invocation with
  | main options =>
    rw [defaultOutputName]
    cases options.evaluate with
    | true => exact (by decide : Path.IsPlainName "evaluation")
    | false => exact (by decide : Path.IsPlainName "predictions.csv")
  | cluster options => exact (by decide : Path.IsPlainName "centroids.csv")

/-- A result is written within the output directory, or it is an export to an absolute
path. -/
theorem RunContext.Writes.isWithin_or {run : RunContext} {invocation : Invocation} {path : Path}
    (writes : run.Writes invocation path) (settled : run.paths.Settled) :
    path.isWithin run.paths.output = true ∨ ∃ name, invocation.common.toCsv = some name ∧
      (⟨name⟩ : Path).isAbsolute = true ∧ path = ⟨name⟩ := by
  cases writes with
  | exported _ name asked =>
    rcases Path.isWithin_join_or settled.output ⟨name⟩ with within | ⟨absolute, same⟩
    · exact .inl within
    · exact .inr ⟨name, asked, absolute, same⟩
  | predictions options trained predicting index =>
    exact .inl (settled.below.isWithin_numberedOutput index)
  | centroids options index =>
    exact .inl (settled.below.isWithin_numberedOutput index)
  | evaluation options asked suffix member =>
    refine .inl (settled.below.isWithin_withSuffix settled.predictions ?_)
    rcases List.mem_pair.mp member with rfl | rfl <;> decide
  | crossValidation options asked suffix member =>
    refine .inl ((Path.isBelow_child _ (by decide)).isWithin_withSuffix
      (Path.join_isAbsolute settled.output _) ?_)
    rcases List.mem_pair.mp member with rfl | rfl <;> decide
  | summary =>
    exact .inl (Path.isWithin_trans (Path.isWithin_child _ (by decide))
      (Path.isWithin_child _ (by decide)))

/-! ## Requests -/

/-- A request changes no file but one of these, unless it exports to an absolute path. -/
def Request.Confined (owned : Path → Prop) (invocation : Invocation) (asked : Request) : Prop :=
  ∀ path, asked.changed? = some path → owned path ∨ ∃ name text,
    invocation.common.toCsv = some name ∧ (⟨name⟩ : Path).isAbsolute = true ∧
      asked = .file (.write ⟨name⟩ text)

theorem Request.confined_of_changed? {owned : Path → Prop} {invocation : Invocation}
    {asked : Request} (unchanging : asked.changed? = none) : asked.Confined owned invocation := by
  intro path changed
  rw [unchanging] at changed
  cases changed

/-- A file is one of the logs of a session, or lies within a directory. -/
def Session.Owns (session : Session) (output path : Path) : Prop :=
  path = session.commandLog ∨ path = session.directoryLog ∨ path.isWithin output = true

section

variable {settings : Settings} (builtIn : settings.logs = {}) {directory : Path} (mode : Mode)
  {paths : RunPaths} (settled : paths.Settled) (invocation : Invocation) (resuming : Bool)

include builtIn settled

/-- In its places the run of a command keeps to the files that it owns. -/
theorem admits_confined (echo : Bool) :
    (Session.of settings directory mode).Admits
      ⟨(Session.of settings directory mode).sessionLogIn paths.output, echo⟩ paths invocation
      resuming
      (Request.Confined ((Session.of settings directory mode).Owns paths.output) invocation) := by
  have inside {path : Path} {asked : Request} (changed : asked.changed? = some path)
      (within : path.isWithin paths.output = true) :
      asked.Confined ((Session.of settings directory mode).Owns paths.output) invocation := by
    intro other same
    cases changed.symm.trans same
    exact .inl (.inr (.inr within))
  have logged : ((Session.of settings directory mode).sessionLogIn paths.output).isWithin
      paths.output = true := by
    simp only [Session.sessionLogIn, Session.of, builtIn]
    exact Path.isWithin_child _ (by decide)
  have keeps {asked : Request} (keeps : SessionLog.Keeps
      ⟨(Session.of settings directory mode).sessionLogIn paths.output, echo⟩ asked) :
      asked.Confined ((Session.of settings directory mode).Owns paths.output) invocation := by
    cases keeps with
    | append line => exact inside rfl logged
    | truncate => exact inside rfl logged
    | _ => exact Request.confined_of_changed? rfl
  have placed (checkpoint : Checkpoint) :
      (Checkpoint.path paths.output checkpoint).isWithin paths.output = true :=
    Path.isWithin_child _ checkpoint.fileName_isPlain
  refine ⟨fun checkpoint => inside rfl (placed checkpoint), fun asked begins => ?_,
    fun run log places => ?_⟩
  · cases begins with
    | keeps kept => exact keeps kept
    | copy name text named =>
      exact inside rfl (Path.isWithin_child _ (Path.isPlainName_fileName named))
    | place line new =>
      intro path changed
      cases changed
      exact .inl (.inr (.inl rfl))
    | _ => exact Request.confined_of_changed? rfl
  · refine ⟨fun asked => Request.confined_of_changed?, fun asked kept => keeps (log ▸ kept),
      fun checkpoint line => inside rfl (places ▸ placed checkpoint), fun path text writes => ?_⟩
    subst places
    rcases writes.isWithin_or settled with within | ⟨name, asked, absolute, rfl⟩
    · exact inside rfl within
    · exact fun path changed => .inr ⟨name, text, asked, absolute, rfl⟩

end

/-! ## Whole runs -/

/-- What is asked before a command is carried out: besides requests that change no file, the
logs of the session are emptied and the command is recorded. -/
inductive Session.Opens (session : Session) : Request → Prop
  | inert {asked : Request} (inert : asked.Inert) : session.Opens asked
  | complains (line : String) : session.Opens (.printErrorLine line)
  | empties {path : Path} (member : path ∈ [session.commandLog, session.directoryLog]) :
      session.Opens (.file (.truncate path))
  | records (line : String) : session.Opens (.file (.append session.commandLog line))

theorem Session.Opens.changes {session : Session} {asked : Request}
    (opens : session.Opens asked) {path : Path} (changed : asked.changed? = some path) :
    path = session.commandLog ∨ path = session.directoryLog := by
  cases opens with
  | inert inert =>
    cases asked with
    | file request => cases request <;> first | exact absurd inert id | cases changed
    | _ => cases changed
  | complains line => cases changed
  | empties member =>
    cases changed
    exact List.mem_pair.mp member
  | records line =>
    cases changed
    exact .inl rfl

theorem asks_identify (session : Session) (command : EffectiveCommand) (time : Instant) :
    (identify session command time).Asks session.Opens := by
  refine .ite (.pure _) (.bind (.ite (.pure _) (.bind ?_ fun _ => .pure _)) fun _ => .pure _)
  exact .asking (.file (.append _ _)) (fun answer => answer) (.records _)

namespace Launch

/-- Behind a part of its trace a run has read its invocation, and its places are known. -/
inductive Resolves (launch : Launch) (invocation : Invocation) : RunPaths → List Exchange → Prop
  | intro {arguments : List String} {settings : Settings} {time : Instant}
      {command : EffectiveCommand} {loading cleared finding : List Exchange}
      (readable : launch.arguments.mapM readArgument = .ok arguments)
      (loaded : (Settings.load launch.directory).Yields loading (.ok settings))
      (clears : (Action.when (arguments.contains clearLogsToken)
        (clearSessionLogs (launch.session settings arguments))).Yields cleared (.ok ()))
      (found : (effectiveCommand (launch.session settings arguments) arguments
        ⟨defaultDirectoryName time⟩).Yields finding (.ok command))
      (read : Invocation.read command.tokens = .ok invocation) :
      launch.Resolves invocation (command.paths (launch.session settings arguments) invocation
        ⟨defaultDirectoryName time⟩) (loading ++ (cleared ++ ⟨.now, time⟩ :: finding))

/-- A file is one of the logs of the session, or lies within the output directory of the
run. -/
def Owns (launch : Launch) (session : Session) (trace : List Exchange) (path : Path) : Prop :=
  path = session.commandLog ∨ path = session.directoryLog ∨ ∃ invocation paths front,
    front <+: trace ∧ launch.Resolves invocation paths front ∧ path.isWithin paths.output = true

/-- The run is to export to an absolute path. -/
def ExportsTo (launch : Launch) (trace : List Exchange) (path : Path) : Prop :=
  path.isAbsolute = true ∧ ∃ invocation paths front, front <+: trace ∧
    launch.Resolves invocation paths front ∧ invocation.common.toCsv = some path.text

variable {launch : Launch} {trace : List Exchange} {outcome : Except Failure Nat}

/-- What a run reads first is the only thing that its trace can begin with. -/
theorem loaded_unique {arguments others : List String} {settings found : Settings}
    {loading first : List Exchange} (readable : launch.arguments.mapM readArgument = .ok arguments)
    (loaded : (Settings.load launch.directory).Yields loading (.ok settings))
    (begins : loading <+: trace) (same : launch.arguments.mapM readArgument = .ok others)
    (loads : (Settings.load launch.directory).Yields first (.ok found)) (before : first <+: trace) :
    others = arguments ∧ found = settings := by
  cases same.symm.trans readable
  cases (Program.Runs.eq_of_begin loads loaded before begins).2
  exact ⟨rfl, rfl⟩

/-- Before a command is carried out, a run changes nothing but the logs of its session. -/
theorem opens_session {arguments : List String} {settings : Settings} {loading : List Exchange}
    (readable : launch.arguments.mapM readArgument = .ok arguments)
    (loaded : (Settings.load launch.directory).Yields loading (.ok settings))
    (begins : loading <+: trace) :
    launch.Opens trace (launch.session settings arguments).Opens := by
  refine ⟨fun _ => .inert, fun _ _ _ same loads before => ?_,
    fun _ _ _ same loads before command time _ _ _ => ?_⟩
  · rcases loaded_unique readable loaded begins same loads before with ⟨rfl, rfl⟩
    refine (asks_clearSessionLogs _).mono ?_
    rintro asked (rfl | rfl | ⟨line, rfl⟩)
    · exact .empties List.mem_cons_self
    · exact .empties (List.mem_pair.mpr (.inr rfl))
    · exact .complains line
  · rcases loaded_unique readable loaded begins same loads before with ⟨rfl, rfl⟩
    exact asks_identify _ command time

theorem owns_or_exportsTo (absolute : launch.directory.isAbsolute = true)
    (runs : launch.invoke.Yields trace outcome) {arguments : List String} {settings : Settings}
    {loading : List Exchange} (readable : launch.arguments.mapM readArgument = .ok arguments)
    (loaded : (Settings.load launch.directory).Yields loading (.ok settings))
    (begins : loading <+: trace) (builtIn : settings.logs = {}) :
    ∀ exchange ∈ trace, ∀ path, exchange.asked.changed? = some path →
      launch.Owns (launch.session settings arguments) trace path ∨
        launch.ExportsTo trace path ∧ ∃ text, exchange.asked = .file (.write path text) := by
  have logs {exchange : Exchange} (opens : (launch.session settings arguments).Opens exchange.asked)
      {path : Path} (changed : exchange.asked.changed? = some path) :
      launch.Owns (launch.session settings arguments) trace path :=
    (opens.changes changed).imp_right .inl
  rcases yields_invoke_or (opens_session readable loaded begins) runs with early | carries
  · exact fun exchange member path changed => .inl (logs (early exchange member) changed)
  cases carries with
  | @intro others found time command invocation runId first cleared finding opening working
      same loads clears finds read before opened carried =>
    have prefixes : first <+: first ++ (cleared ++ ⟨.now, time⟩ :: finding) ++
        (opening ++ working) := by
      rw [List.append_assoc]
      exact List.prefix_append _ _
    rcases loaded_unique readable loaded begins same loads prefixes with ⟨rfl, rfl⟩
    have resolves := Resolves.intro same loads clears finds read
    have settled : (command.paths (launch.session found others) invocation
        ⟨defaultDirectoryName time⟩).Settled :=
      RunPaths.settled_resolve absolute _ _ invocation.isPlainName_defaultOutputName _
    intro exchange member path changed
    rcases List.mem_append.mp member with early | late
    · exact .inl (logs (before exchange early) changed)
    rcases List.mem_append.mp late with early | late
    · exact .inl (logs (opened exchange early) changed)
    have confined := asks_carryOut _ _ _ _ _ _ _ _
      (fun _ unchanging => Request.confined_of_changed? unchanging)
      (admits_confined builtIn (Mode.ofArguments others) settled invocation command.resuming _)
      _ _ carried exchange late path changed
    rcases confined with (log | log | within) | ⟨name, text, asked, absolute, same⟩
    · exact .inl (.inl log)
    · exact .inl (.inr (.inl log))
    · exact .inl (.inr (.inr ⟨invocation, _, _, List.prefix_append _ _, resolves, within⟩))
    · rw [same] at changed
      cases changed
      exact .inr ⟨⟨absolute, invocation, _, _, List.prefix_append _ _, resolves, asked⟩, text, same⟩

/-- Every file that a run with the built-in names of logs changes is one of the two logs of
its session or lies within its output directory, except for an export to an absolute path:
that goes to where its name leads. -/
theorem owns_changed_iff (absolute : launch.directory.isAbsolute = true)
    (runs : launch.invoke.Yields trace outcome) {arguments : List String} {settings : Settings}
    {loading : List Exchange} (readable : launch.arguments.mapM readArgument = .ok arguments)
    (loaded : (Settings.load launch.directory).Yields loading (.ok settings))
    (begins : loading <+: trace) (builtIn : settings.logs = {}) :
    (∀ exchange ∈ trace, ∀ path, exchange.asked.changed? = some path →
      launch.Owns (launch.session settings arguments) trace path) ↔
    ∀ path text answer, (⟨.file (.write path text), answer⟩ : Exchange) ∈ trace →
      launch.ExportsTo trace path → launch.Owns (launch.session settings arguments) trace path := by
  constructor
  · exact fun owned path text answer written _ => owned _ written path rfl
  · rintro exported ⟨asked, answer⟩ member path changed
    rcases owns_or_exportsTo absolute runs readable loaded begins builtIn _ member path changed with
      owned | ⟨exports, text, rfl⟩
    · exact owned
    · exact exported path text answer member exports

end Launch

/-! ## An export to an absolute path -/

def exportArguments : List String :=
  ["bigmler", "--dataset", "dataset/5143a51a37203f2cf7000972", "--to-csv", "/data.csv",
    "--output-dir", "out"]

/-- A run that exports its dataset, under an absolute name. -/
def exportLaunch : Launch :=
  ⟨exportArguments.map encodeUtf8, [usernameVariable, apiKeyVariable].map fun name =>
    (encodeUtf8 name, encodeUtf8 "alice"), ⟨"/work"⟩⟩

/-- The run where there is no file yet and nothing is refused. -/
def exportRun : List Exchange × Except Failure Nat :=
  exportLaunch.invoke.run.record (timedAnswer (fun _ => none) ⟨0⟩) []

theorem readable_exportLaunch :
    exportLaunch.arguments.mapM readArgument = .ok exportArguments := by
  decide +kernel

/-- The run goes through a request that changes the file of that name. -/
theorem exportRun_facts :
    ∃ exchange ∈ exportRun.1, exchange.asked.changed? = some ⟨"/data.csv"⟩ := by
  decide +kernel

theorem output_exportLaunch {invocation : Invocation} {paths : RunPaths} {front : List Exchange}
    (resolves : exportLaunch.Resolves invocation paths front) : paths.output = ⟨"/work/out"⟩ := by
  cases resolves with
  | intro readable loaded clears found read =>
    cases readable_exportLaunch.symm.trans readable
    rw [effectiveCommand_fresh _ _ (by decide)] at found
    cases ((Action.yields_pure_iff _ _ _).mp found).2
    have asked : (Invocation.read (freshCommand exportArguments).tokens).toOption.map
        (·.common.outputDirectory) = some (some ⟨"out"⟩) := by decide +kernel
    rw [read] at asked
    have named : invocation.common.outputDirectory = some ⟨"out"⟩ := Option.some.inj asked
    rw [EffectiveCommand.paths, named]
    exact (by decide : absolutize ⟨"/work"⟩ ⟨"out"⟩ = ⟨"/work/out"⟩)

/-- The export goes to the root directory, outside the output directory. -/
theorem owns_changed_exportRun :
    exportLaunch.invoke.Yields exportRun.1 exportRun.2 ∧ ∃ path text answer,
      (⟨.file (.write path text), answer⟩ : Exchange) ∈ exportRun.1 ∧
        exportLaunch.ExportsTo exportRun.1 path ∧
        ¬exportLaunch.Owns (exportLaunch.session {} exportArguments) exportRun.1 path := by
  have runs : exportLaunch.invoke.Yields exportRun.1 exportRun.2 :=
    Action.yields_record (timedAnswer (fun _ => none) ⟨0⟩) exportLaunch.invoke [] rfl
  have reports : Throughout (Exchange.Reports fun _ => none) [] exportRun.1 :=
    (Program.throughout_record _ _ _).mono (reports_of_timedAnswer (fun _ => none) ⟨0⟩)
  rcases Launch.exists_loading readable_exportLaunch runs reports with ⟨loading, begins, loaded⟩
  have owned := Launch.owns_changed_iff (by decide) runs readable_exportLaunch loaded begins rfl
  refine ⟨runs, ?_⟩
  by_contra none
  have confined : ∀ path text answer, (⟨.file (.write path text), answer⟩ : Exchange) ∈
      exportRun.1 → exportLaunch.ExportsTo exportRun.1 path →
      exportLaunch.Owns (exportLaunch.session {} exportArguments) exportRun.1 path :=
    fun path text answer written exports => by_contra fun outside =>
      none ⟨path, text, answer, written, exports, outside⟩
  rcases exportRun_facts with ⟨exchange, member, changed⟩
  rcases owned.mpr confined exchange member _ changed with log | log | ⟨_, _, _, _, resolves, within⟩
  · exact absurd log (by decide)
  · exact absurd log (by decide)
  · rw [output_exportLaunch resolves] at within
    exact absurd within (by decide)

end ModelRuns
