import Mathlib.Data.List.Nodup
import ModelRuns.Proofs.Command.Entries
import ModelRuns.Proofs.Run.Requests

namespace ModelRuns

/-!
# Files that runs share

All runs of a session look into three files: the log of commands, the log of directories
and the defaults file.  A run leaves alone what it does not mean to change only if these
are different files, and none of them is the session log or a checkpoint of the output
directory.

The names of logs can be set, so this is a condition.  It holds of the built-in names, for
every output directory.
-/

namespace Session

/-- The files that a run looks into before it works. -/
def sharedFiles (session : Session) : List Path :=
  [session.commandLog, session.directoryLog, session.defaultsFile]

/-- The shared files are apart from each other, and from the files of a run in its output
directory. -/
structure SharesApart (session : Session) (output : Path) : Prop where
  distinct : (session.sharedFiles.map Path.components).Nodup
  output : ∀ path ∈ session.sharedFiles, session.KeepsOff output path

namespace SharesApart

variable {session : Session} {output : Path} (apart : session.SharesApart output)

include apart

/-- Shared files that are the same have the same path. -/
theorem eq_of_same {left right : Path} (leftShared : left ∈ session.sharedFiles)
    (rightShared : right ∈ session.sharedFiles) (same : left.same right = true) : left = right :=
  List.inj_on_of_nodup_map apart.distinct leftShared rightShared (beq_iff_eq.mp same)

theorem nodup : session.sharedFiles.Nodup := .of_map _ apart.distinct

theorem logs : session.KeepsLogsApart := by
  have different := (List.nodup_cons.mp apart.distinct).1
  refine beq_eq_false_iff_ne.mpr fun same => different ?_
  exact List.mem_map.mpr ⟨session.directoryLog, by simp, same.symm⟩

end SharesApart

end Session

/-! ## Built-in names -/

namespace Mode

/-- The name of the command log when the settings leave it alone. -/
def commandLogName : Mode → String
  | .main => ({} : LogNames).commandLog
  | .cluster => ({} : LogNames).clusterCommandLog

/-- The name of the directory log when the settings leave it alone. -/
def directoryLogName : Mode → String
  | .main => ({} : LogNames).directoryLog
  | .cluster => ({} : LogNames).clusterDirectoryLog

def sharedNames (mode : Mode) : List String :=
  [mode.commandLogName, mode.directoryLogName, defaultsFileName]

variable (mode : Mode)

theorem sharedNames_plain : ∀ name ∈ mode.sharedNames, Path.IsPlainName name := by
  cases mode <;> decide

theorem sharedNames_nodup : mode.sharedNames.Nodup := by
  cases mode <;> decide

theorem sessionsLog_not_mem_sharedNames : ({} : LogNames).sessionsLog ∉ mode.sharedNames := by
  cases mode <;> decide

theorem checkpoint_not_mem_sharedNames (checkpoint : Checkpoint) :
    checkpoint.fileName ∉ mode.sharedNames := by
  cases mode <;> cases checkpoint <;> decide

end Mode

namespace Session

variable {settings : Settings} (builtIn : settings.logs = {}) (directory : Path) (mode : Mode)

include builtIn

theorem commandLog_builtIn :
    (Session.of settings directory mode).commandLog = directory.child mode.commandLogName := by
  cases mode <;> simp only [Session.of, builtIn] <;> rfl

theorem directoryLog_builtIn :
    (Session.of settings directory mode).directoryLog = directory.child mode.directoryLogName := by
  cases mode <;> simp only [Session.of, builtIn] <;> rfl

/-- No output directory has a file of a run where a shared file is. -/
theorem keepsOff_builtIn (output : Path) {name : String} (shared : name ∈ mode.sharedNames) :
    (Session.of settings directory mode).KeepsOff output (directory.child name) where
  sessionLog := by
    have named : (Session.of settings directory mode).sessionLogIn output =
        output.child ({} : LogNames).sessionsLog := by
      simp only [Session.sessionLogIn, Session.of, builtIn]
    rw [named]
    refine Path.child_same_child _ _ (by decide) (mode.sharedNames_plain name shared) ?_
    rintro rfl
    exact mode.sessionsLog_not_mem_sharedNames shared
  checkpoint := by
    intro checkpoint
    refine Path.child_same_child _ _ checkpoint.fileName_isPlain
      (mode.sharedNames_plain name shared) ?_
    rintro rfl
    exact mode.checkpoint_not_mem_sharedNames checkpoint shared

theorem sharedFiles_builtIn :
    (Session.of settings directory mode).sharedFiles = mode.sharedNames.map directory.child := by
  rw [sharedFiles, commandLog_builtIn builtIn, directoryLog_builtIn builtIn]
  rfl

/-- With the built-in names the shared files are apart from everything. -/
theorem sharesApart_builtIn (output : Path) :
    (Session.of settings directory mode).SharesApart output where
  distinct := by
    rw [sharedFiles_builtIn builtIn, List.map_map]
    refine mode.sharedNames_nodup.map_on fun left leftIn right rightIn same => ?_
    rw [Function.comp_apply, Function.comp_apply,
      Path.components_child _ (mode.sharedNames_plain left leftIn),
      Path.components_child _ (mode.sharedNames_plain right rightIn)] at same
    simpa using same
  output := by
    rw [sharedFiles_builtIn builtIn]
    intro path member
    rcases List.mem_map.mp member with ⟨name, shared, rfl⟩
    exact keepsOff_builtIn builtIn directory mode output shared

end Session

end ModelRuns
