import Mathlib.Data.List.Nodup
import ModelRuns.Proofs.Command.Directories
import ModelRuns.Proofs.Path.Components

namespace ModelRuns

/-!
# Runs that record themselves at the same time

Several runs of a session may go on at once, so that their entries stand in the logs in
any order that keeps the order of each run.  A run may also stop before it has recorded
its directory, or before it has recorded anything.

What is recalled then is the command recorded last, with the directory of the same run,
or with the default one if that run recorded none.  Entries of other runs do not matter,
because lines are told apart by the identifier of their run.  This needs a path that fits
into its line: one that ends in a carriage return comes back without it, and may so be
taken for the directory of another run.
-/

/-! ## Interleaving -/

/-- What several parties do together.  At each point one of them does the next of what
it has pending, or all stop there. -/
inductive Interleaves {α : Type} : (pending : List (List α)) → (whole : List α) → Prop
  | stop (pending : List (List α)) : Interleaves pending []
  | step {front back : List (List α)} {next : α} {rest whole : List α}
      (others : Interleaves (front ++ rest :: back) whole) :
      Interleaves (front ++ (next :: rest) :: back) (next :: whole)

namespace Interleaves

variable {α : Type} {pending : List (List α)} {whole : List α}

theorem exists_mem (interleaves : Interleaves pending whole) {item : α} (member : item ∈ whole) :
    ∃ own ∈ pending, item ∈ own := by
  induction interleaves with
  | stop pending => cases member
  | @step front back next rest whole others inductionHypothesis =>
    rcases List.mem_cons.mp member with rfl | later
    · exact ⟨item :: rest, by simp, List.mem_cons_self⟩
    · rcases inductionHypothesis later with ⟨own, listed, inside⟩
      rcases List.mem_append.mp listed with before | here
      · exact ⟨own, List.mem_append_left _ before, inside⟩
      rcases List.mem_cons.mp here with rfl | behind
      · exact ⟨next :: own, by simp, List.mem_cons_of_mem next inside⟩
      · exact ⟨own, List.mem_append_right _ (List.mem_cons_of_mem _ behind), inside⟩

/-- One party may go on alone. -/
theorem alone {own : List α} (listed : own ∈ pending) : Interleaves pending own := by
  induction own generalizing pending with
  | nil => exact .stop pending
  | cons next rest inductionHypothesis =>
    rcases List.append_of_mem listed with ⟨front, back, rfl⟩
    exact .step (inductionHypothesis (by simp))

end Interleaves

/-! ## Runs that use the logs -/

/-- A run that records its command and then the directory it works in.  Its command is
not empty, and it is no command to resume another one. -/
structure LoggedRun where
  id : RunId
  time : Nat
  tokens : List String
  directory : Path
  readable : id.IsReadable
  small : time ≤ largestWord64
  nonempty : tokens ≠ []
  fresh : resumeToken ∉ tokens

namespace LoggedRun

variable (run : LoggedRun) (session : Session)

def command : LogEntry := .command run.id run.time run.tokens

/-- The entry of its directory. -/
def place : LogEntry := .directory run.id run.directory

/-- What the run records, in this order. -/
def entries : List LogEntry := [run.command, run.place]

/-- The command of the run was recorded, and no command behind it. -/
def IsLast (log : List LogEntry) : Prop :=
  ∃ front back, log = front ++ run.command :: back ∧ back.flatMap LogEntry.commands = []

/-- Where the run works as far as a log tells: in the directory it recorded, and in the
default one if it recorded none. -/
inductive WorksIn (log : List LogEntry) (default : Path) : Path → Prop
  | recorded (listed : run.place ∈ log) : WorksIn log default (session.resolve run.directory)
  | unrecorded (missing : run.place ∉ log) : WorksIn log default (session.resolve default)

theorem commands_command :
    run.command.commands = [⟨some run.id, some run.time, run.tokens⟩] := if_neg run.fresh

theorem wellFormed {entry : LogEntry} (listed : entry ∈ run.entries) : entry.WellFormed := by
  rcases List.mem_cons.mp listed with rfl | placed
  · exact ⟨run.readable, run.small⟩
  · rw [List.mem_singleton.mp placed]
    exact run.readable

theorem runId_of_mem {entry : LogEntry} (listed : entry ∈ run.entries) : entry.runId = run.id := by
  rcases List.mem_cons.mp listed with rfl | placed
  · rfl
  · rw [List.mem_singleton.mp placed]
    rfl

end LoggedRun

/-- Whatever order these runs record themselves in, and wherever they stop: the command
recorded last is recalled, with the directory its own run works in.  No assumption is
made about the answers except that the files are as they are. -/
def Session.RecallsOwn (session : Session) (runs : List LoggedRun) : Prop :=
  ∀ (files : Path → Option String) (log : List LogEntry) (run : LoggedRun)
    (current : List String) (default : Path) (recording recalling : List Exchange)
    (outcome : Except Failure StoredCommand),
    (files session.commandLog).getD "" = "" → (files session.directoryLog).getD "" = "" →
    Interleaves (runs.map LoggedRun.entries) log → run ∈ runs → run.IsLast log →
    (session.recordAll log).Yields recording (.ok ()) →
    (session.recall current default).Yields recalling outcome →
    Throughout (Exchange.Reports files) recording recalling →
    ∃ directory, run.WorksIn session log default directory ∧
      outcome = .ok ⟨some run.id, replayTokens run.tokens current, directory⟩

/-! ## Directories of several runs -/

/-- Records of runs whose paths fit into lines are read back from their lines. -/
theorem DirectoryRecord.ofLog_withFeeds (records : List DirectoryRecord)
    (made : ∀ record ∈ records, ∃ (id : RunId) (path : Path),
      record = ⟨some id, path⟩ ∧ id.IsReadable ∧ FitsLine path.text) :
    DirectoryRecord.ofLog (withFeeds (records.map DirectoryRecord.line)) = records := by
  have lineOf : ∀ record ∈ records, FitsLine record.line ∧ allBlank record.line = false ∧
      DirectoryRecord.ofLine record.line = record := by
    intro record member
    rcases made record member with ⟨id, path, rfl, readable, fits⟩
    exact ⟨line_fitsLine id readable path fits, line_not_blank id readable path,
      ofLine_line id readable path⟩
  have fits : ∀ line ∈ records.map DirectoryRecord.line, FitsLine line :=
    List.forall_mem_map.mpr fun record member => (lineOf record member).1
  have shown : ∀ line ∈ records.map DirectoryRecord.line, (!allBlank line) = true :=
    List.forall_mem_map.mpr fun record member => by rw [(lineOf record member).2.1]; rfl
  rw [DirectoryRecord.ofLog, logLines, lines_withFeeds _ fits, List.filter_eq_self.mpr shown,
    List.map_map]
  exact (List.map_congr_left fun record member => (lineOf record member).2.2).trans
    (List.map_id records)

section

variable {session : Session} {runs : List LoggedRun} {log : List LogEntry}
  (interleaves : Interleaves (runs.map LoggedRun.entries) log)

include interleaves

/-- Each entry of a log is one that a run records. -/
theorem Interleaves.exists_run {entry : LogEntry} (listed : entry ∈ log) :
    ∃ run ∈ runs, entry ∈ run.entries := by
  rcases interleaves.exists_mem listed with ⟨own, pending, inside⟩
  rcases List.mem_map.mp pending with ⟨run, member, rfl⟩
  exact ⟨run, member, inside⟩

/-- The only directory recorded under the identifier of a run is its own. -/
theorem Interleaves.place_of_runId (distinct : (runs.map LoggedRun.id).Nodup) {run : LoggedRun}
    (member : run ∈ runs) {path : Path} (listed : LogEntry.directory run.id path ∈ log) :
    path = run.directory ∧ run.place ∈ log := by
  rcases interleaves.exists_run listed with ⟨other, listedRun, inside⟩
  have same : other = run :=
    List.inj_on_of_nodup_map distinct listedRun member (other.runId_of_mem inside).symm
  subst same
  rcases List.mem_cons.mp inside with impossible | placed
  · cases impossible
  · have entry := List.mem_singleton.mp placed
    cases entry
    exact ⟨rfl, listed⟩

theorem Interleaves.findDirectory_eq (distinct : (runs.map LoggedRun.id).Nodup) {run : LoggedRun}
    (member : run ∈ runs) (default : Path) :
    run.WorksIn session log default
      ((findDirectory (some run.id) (log.flatMap (LogEntry.directories session))).getD
        (session.resolve default)) := by
  have own : ∀ record ∈ log.flatMap (LogEntry.directories session),
      (record.runId == some run.id) = true →
        record = ⟨some run.id, session.resolve run.directory⟩ ∧ run.place ∈ log := by
    intro record inside tagged
    rcases List.mem_flatMap.mp inside with ⟨entry, listed, made⟩
    cases entry with
    | command id time tokens => cases made
    | directory id path =>
      have same := List.mem_singleton.mp made
      subst same
      have identified : id = run.id := Option.some.inj (beq_iff_eq.mp tagged)
      subst identified
      rcases interleaves.place_of_runId distinct member listed with ⟨rfl, placed⟩
      exact ⟨rfl, placed⟩
  unfold findDirectory
  cases last : ((log.flatMap (LogEntry.directories session)).filter
      (fun record => record.runId == some run.id)).getLast? with
  | none =>
    simp only [last, Option.map_none, Option.getD_none]
    refine .unrecorded fun placed => ?_
    have nothing := List.getLast?_eq_none_iff.mp last
    have listed : (⟨some run.id, session.resolve run.directory⟩ : DirectoryRecord) ∈
        log.flatMap (LogEntry.directories session) :=
      List.mem_flatMap.mpr ⟨run.place, placed, List.mem_singleton_self _⟩
    exact List.filter_eq_nil_iff.mp nothing _ listed (beq_self_eq_true _)
  | some record =>
    simp only [last, Option.map_some, Option.getD_some]
    rcases List.mem_filter.mp (List.mem_of_getLast? last) with ⟨inside, tagged⟩
    rcases own record inside tagged with ⟨rfl, placed⟩
    exact .recorded placed

end

/-! ## Exactly the runs that are recalled -/

namespace Session

variable {session : Session} {runs : List LoggedRun}

theorem recallsOwn_of_fitsLine (apart : session.KeepsLogsApart)
    (distinct : (runs.map LoggedRun.id).Nodup)
    (fits : ∀ run ∈ runs, FitsLine (session.resolve run.directory).text) :
    session.RecallsOwn runs := by
  intro files log run current default recording recalling outcome noCommands noDirectories
    interleaves member last recorded recalls reports
  have madeCommands : ∀ record ∈ log.flatMap LogEntry.commands, CommandRecord.IsMade record := by
    intro record inside
    rcases List.mem_flatMap.mp inside with ⟨entry, listed, made⟩
    rcases interleaves.exists_run listed with ⟨other, _, own⟩
    exact LogEntry.isMade_of_mem_commands (other.wellFormed own) made
  have madeDirectories : ∀ record ∈ log.flatMap (LogEntry.directories session),
      ∃ (id : RunId) (path : Path),
        record = ⟨some id, path⟩ ∧ id.IsReadable ∧ FitsLine path.text := by
    intro record inside
    rcases List.mem_flatMap.mp inside with ⟨entry, listed, made⟩
    rcases interleaves.exists_run listed with ⟨other, listedRun, own⟩
    rcases List.mem_cons.mp own with rfl | placed
    · cases made
    · rw [List.mem_singleton.mp placed] at made
      exact ⟨_, _, List.mem_singleton.mp made, other.readable, fits other listedRun⟩
  have commands : ∃ others, log.flatMap LogEntry.commands =
      others ++ [⟨some run.id, some run.time, run.tokens⟩] := by
    rcases last with ⟨front, back, rfl, none⟩
    refine ⟨front.flatMap LogEntry.commands, ?_⟩
    rw [List.flatMap_append, List.flatMap_cons, none, run.commands_command, List.append_nil]
  rw [(session.yields_recordAll _ _).mp recorded] at reports
  have result := Action.yields_recall session current default outcome recalls reports
  rw [commandLog_entries apart, directoryLog_entries apart, noCommands, noDirectories,
    String.empty_append, String.empty_append] at result
  have read := CommandRecord.ofLog_withFeeds _ madeCommands
  rcases commands with ⟨others, whole⟩
  rw [whole] at read result
  rw [session.recalled_last current default _ _ others _ read run.nonempty,
    DirectoryRecord.ofLog_withFeeds _ madeDirectories] at result
  exact ⟨_, interleaves.findDirectory_eq distinct member default, result⟩

/-- A run may come to use the logs alone.  So its directory must be one that comes back. -/
theorem RecallsOwn.apart (recallsOwn : session.RecallsOwn runs)
    (absolute : session.directory.isAbsolute = true) {run : LoggedRun} (member : run ∈ runs) :
    session.KeepsLogsApart ∧ FitsLine (session.resolve run.directory).text := by
  have placed := Path.absolutize_isAbsolute absolute run.directory
  have alone : Interleaves (runs.map LoggedRun.entries) run.entries :=
    .alone (List.mem_map_of_mem member)
  have recorded := (session.yields_recordAll run.entries _).mpr rfl
  have exchanges : run.entries.flatMap (LogEntry.exchanges session) =
      [appending session.commandLog (CommandRecord.line ⟨some run.id, some run.time, run.tokens⟩),
        appending session.directoryLog
          (DirectoryRecord.line ⟨some run.id, session.resolve run.directory⟩)] := by
    rw [LoggedRun.entries, List.flatMap_cons, List.flatMap_singleton, LogEntry.exchanges,
      run.commands_command]
    rfl
  rcases (session.recall [] ⟨(session.resolve run.directory).text ++ "x"⟩).exists_yields
    (fun _ => none) (run.entries.flatMap (LogEntry.exchanges session)) with
    ⟨recalling, outcome, recalls, reports⟩
  rcases recallsOwn (fun _ => none) run.entries run [] _ _ recalling outcome rfl rfl alone member
    ⟨[], [run.place], rfl, rfl⟩ recorded recalls reports with ⟨directory, works, rfl⟩
  have result := Action.yields_recall session [] _ _ recalls reports
  rw [exchanges] at result
  cases works with
  | unrecorded missing => exact absurd (List.mem_cons_of_mem _ (List.mem_singleton_self _)) missing
  | recorded listed =>
    exact session.apart_of_recalled run.readable placed result.symm rfl rfl
      (session.resolve_longer_ne placed)

/-- Runs with identifiers of their own are told apart in every order in which they may
record themselves exactly if the two logs are different files and each directory fits into
a line. -/
theorem recallsOwn_iff (session : Session) (absolute : session.directory.isAbsolute = true)
    (runs : List LoggedRun) (present : runs ≠ []) (distinct : (runs.map LoggedRun.id).Nodup) :
    session.RecallsOwn runs ↔
      session.KeepsLogsApart ∧ ∀ run ∈ runs, FitsLine (session.resolve run.directory).text := by
  constructor
  · intro recallsOwn
    rcases List.exists_mem_of_ne_nil runs present with ⟨run, member⟩
    exact ⟨(recallsOwn.apart absolute member).1,
      fun run member => (recallsOwn.apart absolute member).2⟩
  · rintro ⟨apart, fits⟩
    exact recallsOwn_of_fitsLine apart distinct fits

end Session

/-- A run without options that works in a directory. -/
def LoggedRun.bare (id : RunId) (readable : id.IsReadable) (directory : Path) : LoggedRun where
  id := id
  time := 0
  tokens := ["bigmler"]
  directory := directory
  readable := readable
  small := Nat.zero_le _
  nonempty := List.cons_ne_nil _ _
  fresh := by decide

/-- Two runs that work in these directories. -/
def LoggedRun.two (first second : Path) : List LoggedRun :=
  [.bare ⟨"r-00000000000000a1"⟩ (by decide +kernel) first,
    .bare ⟨"r-00000000000000b2"⟩ (by decide +kernel) second]

/-- Two runs in directories of usual spelling are told apart, but not two whose directories
differ by a carriage return at the end. -/
theorem Session.recallsOwn_two :
    (Session.of {} ⟨"/work"⟩ .main).RecallsOwn (LoggedRun.two ⟨"/work/a b\tc"⟩ ⟨"out"⟩) ∧
      ¬(Session.of {} ⟨"/work"⟩ .main).RecallsOwn (LoggedRun.two ⟨"/work/out\r"⟩ ⟨"out"⟩) := by
  have exactly := fun first second => Session.recallsOwn_iff (Session.of {} ⟨"/work"⟩ .main)
    (by decide +kernel) (LoggedRun.two first second) (List.cons_ne_nil _ _) (by
      show ([⟨"r-00000000000000a1"⟩, ⟨"r-00000000000000b2"⟩] : List RunId).Nodup
      decide)
  constructor
  · refine (exactly _ _).mpr ⟨by unfold Session.KeepsLogsApart; decide +kernel, ?_⟩
    intro run member
    simp only [LoggedRun.two, List.mem_cons, List.not_mem_nil, or_false] at member
    rcases member with rfl | rfl <;> decide +kernel
  · intro recallsOwn
    have fits := ((exactly _ _).mp recallsOwn).2 _ List.mem_cons_self
    exact absurd fits (by decide +kernel)

end ModelRuns
