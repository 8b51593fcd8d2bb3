import ModelRuns.Proofs.Command.Resumable
import ModelRuns.Proofs.Trace.Changes

namespace ModelRuns

/-!
# Logs that runs share

All runs of a session append to the same two logs.  An entry is what one run puts
there at one time: its command or its directory.  Whatever entries come in whatever
order, each log holds the lines of its own entries, provided that the two are
different files.

The records of commands read back as they were made, because the line of a command
stands on its own among any others.
-/

/-! ## Entries -/

/-- What a run puts into the logs of its session. -/
inductive LogEntry
  | command (id : RunId) (time : Nat) (tokens : List String)
  | directory (id : RunId) (path : Path)

namespace LogEntry

/-- The run that an entry belongs to. -/
def runId : LogEntry → RunId
  | .command id _ _ => id
  | .directory id _ => id

/-- The identifier reads as one, and a time has sixty-four bits. -/
def WellFormed : LogEntry → Prop
  | .command id time _ => id.IsReadable ∧ time ≤ largestWord64
  | .directory id _ => id.IsReadable

variable (session : Session)

def record : LogEntry → Action Unit
  | .command id time tokens => do
    let _ ← session.recordCommand tokens id time
  | .directory id path => session.recordDirectory id path

/-- The commands that an entry adds; one that resumes is not added. -/
def commands : LogEntry → List CommandRecord
  | .command id time tokens =>
    if resumeToken ∈ tokens then [] else [⟨some id, some time, tokens⟩]
  | .directory _ _ => []

def directories : LogEntry → List DirectoryRecord
  | .command _ _ _ => []
  | .directory id path => [⟨some id, session.resolve path⟩]

/-- The exchanges in which an entry is recorded. -/
def exchanges (entry : LogEntry) : List Exchange :=
  (entry.commands.map CommandRecord.line).map (appending session.commandLog) ++
    ((entry.directories session).map DirectoryRecord.line).map (appending session.directoryLog)

theorem yields_record (entry : LogEntry) (trace : List Exchange) :
    (entry.record session).Yields trace (.ok ()) ↔ trace = entry.exchanges session := by
  cases entry with
  | command id time tokens =>
    unfold record
    rw [Action.yields_bind_iff]
    by_cases resumes : resumeToken ∈ tokens
    · have nothing : session.recordCommand tokens id time = pure none := by
        rw [Session.recordCommand, if_pos (List.contains_iff_mem.mpr resumes)]
      simp [nothing, exchanges, commands, directories, resumes]
    · simp [session.yields_recordCommand tokens id time resumes, exchanges, commands, directories,
        resumes, appending]
  | directory id path =>
    have asks : (LogEntry.directory id path).record session = Action.asking
        (.file (.append session.directoryLog
          (DirectoryRecord.line ⟨some id, session.resolve path⟩)))
        (fun answer => answer) := rfl
    rw [asks, Action.yields_asking_iff]
    constructor
    · rintro ⟨answer, rfl, same⟩
      cases same
      rfl
    · rintro rfl
      exact ⟨.ok (), rfl, rfl⟩

end LogEntry

/-! ## Lines of entries -/

theorem textAfter_appending (path target : Path) (text : Option String) (appended : List String) :
    (textAfter path text (appended.map (appending target))).getD "" =
      if target.same path then text.getD "" ++ withFeeds appended else text.getD "" := by
  induction appended generalizing text with
  | nil => simp
  | cons line rest inductionHypothesis =>
    rw [List.map_cons, textAfter_cons, inductionHypothesis]
    by_cases here : target.same path = true
    · simp [appending, Exchange.applyTo, here, String.append_assoc]
    · simp [appending, Exchange.applyTo, here]

namespace Session

variable (session : Session)

/-- Record entries one after the other. -/
def recordAll : List LogEntry → Action Unit
  | [] => return ()
  | entry :: rest => do
    entry.record session
    recordAll rest

theorem yields_recordAll (entries : List LogEntry) (trace : List Exchange) :
    (session.recordAll entries).Yields trace (.ok ()) ↔
      trace = entries.flatMap (LogEntry.exchanges session) := by
  induction entries generalizing trace with
  | nil => simp [recordAll]
  | cons entry rest inductionHypothesis =>
    rw [recordAll, Action.yields_bind_iff, List.flatMap_cons]
    constructor
    · rintro (⟨_, _, impossible⟩ | ⟨front, back, _, rfl, first, others⟩)
      · cases impossible
      · rw [(entry.yields_record session front).mp first, (inductionHypothesis back).mp others]
    · rintro rfl
      have first := (entry.yields_record session _).mpr rfl
      exact .inr ⟨_, _, (), rfl, first, (inductionHypothesis _).mpr rfl⟩

/-- The two logs are different files. -/
def KeepsLogsApart : Prop := session.commandLog.same session.directoryLog = false

theorem KeepsLogsApart.symm {session : Session} (apart : session.KeepsLogsApart) :
    session.directoryLog.same session.commandLog = false := by
  rw [KeepsLogsApart, Path.same, beq_eq_false_iff_ne] at apart
  exact beq_eq_false_iff_ne.mpr apart.symm

variable {session} (apart : session.KeepsLogsApart) (entries : List LogEntry)
  (text : Option String)

include apart

/-- The command log holds the commands of the entries. -/
theorem commandLog_entries :
    (textAfter session.commandLog text (entries.flatMap (LogEntry.exchanges session))).getD "" =
      text.getD "" ++ withFeeds ((entries.flatMap LogEntry.commands).map CommandRecord.line) := by
  induction entries generalizing text with
  | nil => simp
  | cons entry rest inductionHypothesis =>
    rw [List.flatMap_cons, textAfter_append, inductionHypothesis, LogEntry.exchanges,
      textAfter_append, textAfter_appending, if_neg (Bool.eq_false_iff.mp apart.symm),
      textAfter_appending, if_pos (Path.same_self _), List.flatMap_cons, List.map_append,
      withFeeds_append, String.append_assoc]

/-- The directory log holds the directories of the entries. -/
theorem directoryLog_entries :
    (textAfter session.directoryLog text (entries.flatMap (LogEntry.exchanges session))).getD "" =
      text.getD "" ++ withFeeds ((entries.flatMap (LogEntry.directories session)).map
        DirectoryRecord.line) := by
  induction entries generalizing text with
  | nil => simp
  | cons entry rest inductionHypothesis =>
    rw [List.flatMap_cons, textAfter_append, inductionHypothesis, LogEntry.exchanges,
      textAfter_append, textAfter_appending, if_pos (Path.same_self _), textAfter_appending,
      if_neg (Bool.eq_false_iff.mp apart), List.flatMap_cons, List.map_append, withFeeds_append,
      String.append_assoc]

end Session

/-! ## Reading the commands of entries -/

/-- A record as runs make it: with an identifier that reads as one, and with a time of
sixty-four bits. -/
def CommandRecord.IsMade (record : CommandRecord) : Prop :=
  ∃ id time tokens, record = ⟨some id, some time, tokens⟩ ∧ id.IsReadable ∧ time ≤ largestWord64

theorem LogEntry.isMade_of_mem_commands {entry : LogEntry} (formed : entry.WellFormed)
    {record : CommandRecord} (member : record ∈ entry.commands) : record.IsMade := by
  cases entry with
  | command id time tokens =>
    by_cases resumes : resumeToken ∈ tokens
    · simp [commands, resumes] at member
    · have same : record = ⟨some id, some time, tokens⟩ := by
        simpa [commands, resumes] using member
      exact ⟨id, time, tokens, same, formed⟩
  | directory id path => cases member

/-- Records as runs make them are read back from their lines. -/
theorem CommandRecord.ofLog_withFeeds (records : List CommandRecord)
    (made : ∀ record ∈ records, record.IsMade) :
    CommandRecord.ofLog (withFeeds (records.map CommandRecord.line)) = .ok records := by
  have fits : ∀ line ∈ records.map CommandRecord.line, FitsLine line := by
    intro line member
    rcases List.mem_map.mp member with ⟨record, listed, rfl⟩
    rcases made record listed with ⟨id, time, tokens, rfl, readable, _⟩
    exact CommandRecord.line_fitsLine id readable time tokens
  have shown : ∀ line ∈ records.map CommandRecord.line, (!allBlank line) = true := by
    intro line member
    rcases List.mem_map.mp member with ⟨record, listed, rfl⟩
    rcases made record listed with ⟨id, time, tokens, rfl, readable, _⟩
    rw [CommandRecord.line_not_blank id readable time tokens]
    rfl
  rw [CommandRecord.ofLog, logLines, lines_withFeeds _ fits, List.filter_eq_self.mpr shown]
  induction records with
  | nil => rfl
  | cons record rest inductionHypothesis =>
    rcases made record List.mem_cons_self with ⟨id, time, tokens, rfl, readable, small⟩
    have others := inductionHypothesis
      (fun record member => made record (List.mem_cons_of_mem _ member))
      (fun line member => fits line (List.mem_cons_of_mem _ member))
      (fun line member => shown line (List.mem_cons_of_mem _ member))
    rw [List.map_cons, List.mapM_cons, CommandRecord.ofLine_line id readable time small, others]
    rfl

end ModelRuns
