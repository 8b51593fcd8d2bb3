import ModelRuns.Proofs.Command.Entries

namespace ModelRuns

/-!
# When the output directory is remembered

The text of a command is escaped before it is recorded, that of a directory is not.
So the line of a directory is its path behind the identifier, and it comes back as it
is only if the path is fit to stand in a line: a line break would end the record early,
and a carriage return at its end would be taken for a part of the line break.

That condition on the path is also enough, whatever was recorded before, provided that
commands and directories are not kept in one file.
-/

/-! ## The line of a directory -/

namespace DirectoryRecord

variable (id : RunId) (readable : id.IsReadable) (path : Path)

theorem toList_line :
    (line ⟨some id, path⟩).toList = id.text.toList ++ '\t' :: path.text.toList := by
  have tab : ("\t" : String).toList = ['\t'] := rfl
  simp [line, tab]

include readable

theorem ofLine_line : ofLine (line ⟨some id, path⟩) = ⟨some id, path⟩ := by
  have noTab := tab_not_mem _ readable.keeps_line
  unfold ofLine
  rw [toList_line, splitFirst_append _ _ _ noTab]
  simp only [String.ofList_toList]
  rw [show RunId.parse? id.text = some id from readable]

theorem line_not_blank : allBlank (line ⟨some id, path⟩) = false := by
  rcases readable.digits with ⟨digits, text, _, _⟩
  rw [allBlank, toList_line, text]
  rfl

theorem feed_not_mem_line (plain : '\n' ∉ path.text.toList) :
    '\n' ∉ (line ⟨some id, path⟩).toList := by
  rw [toList_line, List.mem_append, List.mem_cons]
  rintro (inId | tab | inPath)
  · exact absurd (readable.keeps_line _ inId) (by decide)
  · exact absurd tab (by decide)
  · exact plain inPath

/-- The line of a directory is a line exactly if the path could be one. -/
theorem line_fitsLine (fits : FitsLine path.text) : FitsLine (line ⟨some id, path⟩) := by
  refine ⟨feed_not_mem_line id readable path fits.1, ?_⟩
  rw [toList_line, List.getLast?_append_cons, List.getLast?_cons]
  cases last : path.text.toList.getLast? with
  | none => simp
  | some c =>
    have ended := fits.2
    rw [last] at ended
    simpa using ended

end DirectoryRecord

/-! ## Finding a directory -/

theorem logLines_append (text written shown : String) (terminated : Terminated text)
    (single : lines written = [shown]) (visible : allBlank shown = false) :
    logLines (text ++ written) = logLines text ++ [shown] := by
  rw [logLines, lines_append_of_terminated _ _ terminated, single, List.filter_append]
  simp [logLines, visible]

/-- The directory that was recorded last is found. -/
theorem findDirectory_concat (id : RunId) (path : Path) (records : List DirectoryRecord) :
    findDirectory (some id) (records ++ [⟨some id, path⟩]) = some path := by
  simp [findDirectory]

/-- A path that is found holds no line break. -/
theorem feed_not_mem_findDirectory {id : RunId} {text : String} {path : Path}
    (found : findDirectory (some id) (DirectoryRecord.ofLog text) = some path) :
    '\n' ∉ path.text.toList := by
  rcases Option.map_eq_some_iff.mp found with ⟨record, last, rfl⟩
  have listed := (List.mem_filter.mp (List.mem_of_getLast? last)).1
  rcases List.mem_map.mp listed with ⟨line, shown, rfl⟩
  have plain := feed_not_mem_of_mem_lines (List.mem_filter.mp shown).1
  unfold DirectoryRecord.ofLine
  split
  next first rest split =>
    have part : ∀ c ∈ rest, c ∈ line.toList := by
      intro c member
      have tail : (line.toList.dropWhile (· ≠ '\t')).tail? = some rest := congrArg Prod.snd split
      apply (List.dropWhile_sublist (· ≠ '\t')).subset
      cases behind : line.toList.dropWhile (· ≠ '\t') with
      | nil =>
        rw [behind] at tail
        cases tail
      | cons tab after =>
        rw [behind] at tail
        cases tail
        exact List.mem_cons_of_mem tab member
    split
    next => simpa using fun member => plain (part _ member)
    next => exact plain
  next => exact plain

/-- Behind any entries a recorded directory is found as it is exactly if its path fits
into a line. -/
theorem findDirectory_recorded_iff (id : RunId) (readable : id.IsReadable) (path : Path)
    (text : String) (terminated : Terminated text) :
    findDirectory (some id) (DirectoryRecord.ofLog
        (text ++ (DirectoryRecord.line ⟨some id, path⟩ ++ "\n"))) = some path ↔
      FitsLine path.text := by
  constructor
  · intro found
    have plain := feed_not_mem_findDirectory found
    refine ⟨plain, fun returned => ?_⟩
    rcases List.getLast?_eq_some_iff.mp returned with ⟨front, split⟩
    have shorter : path.text = String.ofList front ++ "\r" := by
      rw [← String.toList_inj, split]
      simp
    have plainFront : '\n' ∉ (⟨String.ofList front⟩ : Path).text.toList := by
      intro member
      rw [shorter, String.toList_append] at plain
      exact plain (List.mem_append_left _ member)
    have written : DirectoryRecord.line ⟨some id, path⟩ =
        DirectoryRecord.line ⟨some id, ⟨String.ofList front⟩⟩ ++ "\r" := by
      simp [DirectoryRecord.line, shorter, String.append_assoc]
    have single := lines_line_of_return _
      (DirectoryRecord.feed_not_mem_line id readable ⟨String.ofList front⟩ plainFront)
    rw [written, DirectoryRecord.ofLog, logLines_append _ _ _ terminated single
      (DirectoryRecord.line_not_blank id readable _), List.map_append, List.map_singleton,
      DirectoryRecord.ofLine_line id readable, findDirectory_concat] at found
    have same : (⟨String.ofList front⟩ : Path) = path := Option.some.inj found
    have lengths := congrArg (fun path : Path => path.text.toList.length) same
    simp [split] at lengths
  · intro fits
    have single := lines_line _ (DirectoryRecord.line_fitsLine id readable path fits)
    rw [DirectoryRecord.ofLog, logLines_append _ _ _ terminated single
      (DirectoryRecord.line_not_blank id readable path), List.map_append, List.map_singleton,
      DirectoryRecord.ofLine_line id readable, findDirectory_concat]

/-! ## Exactly the paths that are remembered -/

theorem splitTagged_of_untimed {line first rest : List Char}
    (fields : splitFirst '\t' line = (first, some rest))
    (untimed : readTimestamp (splitFirst '\t' rest).1 = none) : splitTagged line = none := by
  unfold splitTagged
  rw [fields]
  simp only
  split
  next => rfl
  next second command split =>
    have timeless : readTimestamp second = none := by simpa [split] using untimed
    rw [timeless]
    cases RunId.parse? (String.ofList first) <;> rfl

/-- The line of a directory is no line of a command with an identifier: no time begins
with a slash. -/
theorem runId_ofLine_directory (id : RunId) (readable : id.IsReadable) (path : Path)
    (absolute : path.isAbsolute = true) (record : CommandRecord)
    (read : CommandRecord.ofLine (DirectoryRecord.line ⟨some id, path⟩) = .ok record) :
    record.runId = none := by
  have fields := splitFirst_append '\t' id.text.toList path.text.toList
    (tab_not_mem _ readable.keeps_line)
  have untimed : readTimestamp (splitFirst '\t' path.text.toList).1 = none := by
    cases text : path.text.toList with
    | nil => rfl
    | cons c rest =>
      have slash : c = '/' := by simpa [Path.isAbsolute, text] using absolute
      subst slash
      simp [splitFirst, readTimestamp]
  have untagged := splitTagged_of_untimed fields untimed
  rw [← DirectoryRecord.toList_line] at untagged
  rw [CommandRecord.ofLine, untagged] at read
  cases tokens : CommandText.split (DirectoryRecord.line ⟨some id, path⟩) with
  | error failure => simp [tokens, Except.map] at read
  | ok split =>
    rw [tokens] at read
    cases read
    rfl

namespace Session

variable (session : Session)

/-- Whatever other runs recorded before, a run that records its command and then this
path is recalled with the path.  No assumption is made about the answers except that
the files are as they are. -/
def RemembersDirectory (path : Path) : Prop :=
  ∀ (files : Path → Option String) (entries : List LogEntry) (id : RunId) (time : Nat)
    (tokens current : List String) (default : Path) (recording recalling : List Exchange)
    (outcome : Except Failure StoredCommand),
    (files session.commandLog).getD "" = "" → (files session.directoryLog).getD "" = "" →
    (∀ entry ∈ entries, entry.WellFormed ∧ entry.runId ≠ id) →
    (LogEntry.command id time tokens).WellFormed → tokens ≠ [] → resumeToken ∉ tokens →
    (session.recordAll (entries ++ [.command id time tokens, .directory id path])).Yields
      recording (.ok ()) →
    (session.recall current default).Yields recalling outcome →
    Throughout (Exchange.Reports files) recording recalling →
    ∃ replayed, outcome = .ok ⟨some id, replayed, path⟩

/-- The exchanges in which the first run of all records its command and a directory. -/
def firstExchanges (id : RunId) (tokens : List String) (path : Path) : List Exchange :=
  [appending session.commandLog (CommandRecord.line ⟨some id, some 0, tokens⟩),
    appending session.directoryLog (DirectoryRecord.line ⟨some id, path⟩)]

theorem resolve_of_isAbsolute {path : Path} (absolute : path.isAbsolute = true) :
    session.resolve path = path := if_pos absolute

theorem resolve_longer_ne {path : Path} (absolute : path.isAbsolute = true) :
    session.resolve ⟨path.text ++ "x"⟩ ≠ path := by
  have longer : (⟨path.text ++ "x"⟩ : Path).isAbsolute = true := by
    cases text : path.text.toList with
    | nil => simp [Path.isAbsolute, text] at absolute
    | cons c rest => simpa [Path.isAbsolute, text] using absolute
  rw [session.resolve_of_isAbsolute longer]
  intro same
  have lengths := congrArg (fun path : Path => path.text.toList.length) same
  simp at lengths

/-- Behind a command, a directory is the last line of its log.  The two logs may still be one
file; then the line of the command stands before it. -/
theorem directoryLog_of_two (command directory : String) :
    ∃ front, Terminated front ∧ (textAfter session.directoryLog none
      [appending session.commandLog command, appending session.directoryLog directory]).getD "" =
      front ++ (directory ++ "\n") := by
  by_cases together : session.commandLog.same session.directoryLog = true
  · refine ⟨_, terminated_append_feed command, ?_⟩
    simp [appending, Exchange.applyTo, together, String.append_assoc]
  · refine ⟨"", terminated_empty, ?_⟩
    simp [appending, Exchange.applyTo, together]

theorem commandLog_of_two (together : session.commandLog.same session.directoryLog = true)
    (command directory : String) :
    (textAfter session.commandLog none
      [appending session.commandLog command, appending session.directoryLog directory]).getD "" =
      command ++ "\n" ++ (directory ++ "\n") := by
  have reversed : session.directoryLog.same session.commandLog = true := by
    have components : session.commandLog.components = session.directoryLog.components :=
      beq_iff_eq.mp together
    exact beq_iff_eq.mpr components.symm
  simp [appending, Exchange.applyTo, reversed, String.append_assoc]

theorem recalled_directory {current : List String} {default : Path} {commands directories : String}
    {stored : StoredCommand}
    (recalled : session.recalled current default commands directories = .ok stored) :
    stored.outputDirectory = (findDirectory stored.runId (DirectoryRecord.ofLog directories)).getD
      (session.resolve default) := by
  unfold Session.recalled at recalled
  split at recalled
  next => cases recalled
  next =>
    split at recalled
    next => cases recalled
    next =>
      split at recalled
      next => cases recalled
      next =>
        cases recalled
        rfl

/-- A command and a directory that were recorded first of all come back together only from
two files, and only if the path fits into a line.  In one file the directory would be the
last line and so be taken for the command. -/
theorem apart_of_recalled {id : RunId} (readable : id.IsReadable) {path default : Path}
    (absolute : path.isAbsolute = true) {current : List String} {command : String}
    {stored : StoredCommand}
    (recalled : session.recalled current default
      ((textAfter session.commandLog none [appending session.commandLog command,
        appending session.directoryLog (DirectoryRecord.line ⟨some id, path⟩)]).getD "")
      ((textAfter session.directoryLog none [appending session.commandLog command,
        appending session.directoryLog (DirectoryRecord.line ⟨some id, path⟩)]).getD "") =
      .ok stored)
    (same : stored.runId = some id) (directory : stored.outputDirectory = path)
    (elsewhere : session.resolve default ≠ path) :
    session.KeepsLogsApart ∧ FitsLine path.text := by
  have fits : FitsLine path.text := by
    have found := session.recalled_directory recalled
    rcases session.directoryLog_of_two command (DirectoryRecord.line ⟨some id, path⟩) with
      ⟨front, terminated, text⟩
    rw [same, directory, text] at found
    apply (findDirectory_recorded_iff id readable path front terminated).mp
    cases listed : findDirectory (some id) (DirectoryRecord.ofLog
        (front ++ (DirectoryRecord.line ⟨some id, path⟩ ++ "\n"))) with
    | none =>
      rw [listed] at found
      exact absurd found.symm elsewhere
    | some other =>
      rw [listed] at found
      exact congrArg some found.symm
  refine ⟨Bool.eq_false_iff.mpr fun together => ?_, fits⟩
  have whole := logLines_append _ _ _ (terminated_append_feed command)
    (lines_line _ (DirectoryRecord.line_fitsLine id readable path fits))
    (DirectoryRecord.line_not_blank id readable path)
  rw [session.commandLog_of_two together] at recalled
  rcases (recalled_ok session current default _ _ stored _ _ whole recalled).2 with
    ⟨record, read, tagged⟩
  rw [runId_ofLine_directory id readable path absolute record read, same] at tagged
  cases tagged

variable {session}

namespace RemembersDirectory

variable {path : Path} (remembers : session.RemembersDirectory path)
  (absolute : path.isAbsolute = true)

include remembers absolute

/-- A run that is the first of all is recalled from what it recorded. -/
theorem recalls_first : ∃ (id : RunId) (tokens : List String) (default : Path)
    (stored : StoredCommand), id.IsReadable ∧ session.resolve default ≠ path ∧
      stored.runId = some id ∧ stored.outputDirectory = path ∧
      session.recalled [] default
        ((textAfter session.commandLog none (session.firstExchanges id tokens path)).getD "")
        ((textAfter session.directoryLog none (session.firstExchanges id tokens path)).getD "") =
        .ok stored := by
  have readable := RunId.derive_isReadable "" 0
  have elsewhere := session.resolve_longer_ne absolute
  rcases (session.recall [] ⟨path.text ++ "x"⟩).exists_yields (fun _ => none)
    (session.firstExchanges (RunId.derive "" 0) ["bigmler"] path) with
    ⟨recalling, outcome, recalls, reports⟩
  have recorded := (session.yields_recordAll
    [.command (RunId.derive "" 0) 0 ["bigmler"], .directory (RunId.derive "" 0) path] _).mpr rfl
  have fresh : resumeToken ∉ ["bigmler"] := by decide
  simp only [List.flatMap_cons, List.flatMap_nil, LogEntry.exchanges, LogEntry.commands,
    LogEntry.directories, if_neg fresh, session.resolve_of_isAbsolute absolute] at recorded
  rcases remembers (fun _ => none) [] _ 0 ["bigmler"] [] ⟨path.text ++ "x"⟩ _ recalling outcome rfl
    rfl (List.forall_mem_nil _) ⟨readable, Nat.zero_le _⟩ (by decide) fresh recorded recalls reports
    with ⟨replayed, rfl⟩
  have result := Action.yields_recall session [] _ _ recalls reports
  exact ⟨_, _, _, _, readable, elsewhere, rfl, rfl, result.symm⟩

theorem fitsLine : FitsLine path.text := by
  rcases remembers.recalls_first absolute with
    ⟨id, tokens, default, stored, readable, elsewhere, same, directory, recalled⟩
  exact (session.apart_of_recalled readable absolute recalled same directory elsewhere).2

theorem keepsLogsApart : session.KeepsLogsApart := by
  rcases remembers.recalls_first absolute with
    ⟨id, tokens, default, stored, readable, elsewhere, same, directory, recalled⟩
  exact (session.apart_of_recalled readable absolute recalled same directory elsewhere).1

end RemembersDirectory

/-- A directory is remembered exactly if its path fits into a line and directories are
kept in a file of their own.  So a path with a line break, or with a carriage return at
its end, comes back as another path. -/
theorem remembersDirectory_iff (session : Session) (path : Path)
    (absolute : path.isAbsolute = true) :
    session.RemembersDirectory path ↔ session.KeepsLogsApart ∧ FitsLine path.text := by
  constructor
  · intro remembers
    exact ⟨remembers.keepsLogsApart absolute, remembers.fitsLine absolute⟩
  · rintro ⟨apart, fits⟩
    intro files entries id time tokens current default recording recalling outcome noCommands
      noDirectories others formed nonempty fresh recorded recalls reports
    have readable := formed.1
    rw [(session.yields_recordAll _ _).mp recorded] at reports
    have result := Action.yields_recall session current default outcome recalls reports
    rw [commandLog_entries apart, directoryLog_entries apart, noCommands, noDirectories,
      String.empty_append, String.empty_append] at result
    have commands : (entries ++ [LogEntry.command id time tokens, .directory id path]).flatMap
        LogEntry.commands =
          entries.flatMap LogEntry.commands ++ [⟨some id, some time, tokens⟩] := by
      simp [LogEntry.commands, fresh]
    have directories : (entries ++ [LogEntry.command id time tokens, .directory id path]).flatMap
        (LogEntry.directories session) =
          entries.flatMap (LogEntry.directories session) ++ [⟨some id, path⟩] := by
      simp [LogEntry.directories, session.resolve_of_isAbsolute absolute]
    have made : ∀ record ∈ entries.flatMap LogEntry.commands ++ [⟨some id, some time, tokens⟩],
        CommandRecord.IsMade record := by
      intro record member
      rcases List.mem_append.mp member with earlier | last
      · rcases List.mem_flatMap.mp earlier with ⟨entry, listed, inside⟩
        exact LogEntry.isMade_of_mem_commands (others entry listed).1 inside
      · exact ⟨id, time, tokens, List.mem_singleton.mp last, formed⟩
    rw [commands, directories, session.recalled_last current default _ _ _ _
      (CommandRecord.ofLog_withFeeds _ made) nonempty, List.map_append, withFeeds_append,
      List.map_singleton, withFeeds_cons, withFeeds_nil, String.append_empty] at result
    have terminated : Terminated (withFeeds
        ((entries.flatMap (LogEntry.directories session)).map DirectoryRecord.line)) := by
      have whole := terminated_append_withFeeds ""
        ((entries.flatMap (LogEntry.directories session)).map DirectoryRecord.line) terminated_empty
      rwa [String.empty_append] at whole
    rw [(findDirectory_recorded_iff id readable path _ terminated).mpr fits] at result
    exact ⟨_, result⟩

/-- In a session with the built-in names every directory of usual spelling is remembered,
but not one with a line break. -/
theorem remembersDirectory_builtIn :
    (Session.of {} ⟨"/work"⟩ .main).RemembersDirectory ⟨"/work/a b\tc"⟩ ∧
      ¬(Session.of {} ⟨"/work"⟩ .main).RemembersDirectory ⟨"/work/a\nb"⟩ := by
  constructor
  · exact (remembersDirectory_iff _ ⟨"/work/a b\tc"⟩ (by decide +kernel)).mpr
      ⟨by unfold KeepsLogsApart; decide +kernel, by decide +kernel⟩
  · intro remembers
    have fits := ((remembersDirectory_iff _ ⟨"/work/a\nb"⟩ (by decide +kernel)).mp remembers).2
    exact absurd fits (by decide +kernel)

end Session

end ModelRuns
