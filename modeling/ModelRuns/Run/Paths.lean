import ModelRuns.Settings.Basic

namespace ModelRuns

/-!
# Places of a run

The output directory is the one asked for; without one, the directory of the
predictions path, if that has a directory part; without that, a directory named
after the time.  A bare name for the predictions lies in the output directory.
-/

/-- Where a run reads its inputs and writes its outputs. -/
structure RunPaths where
  directory : Path
  output : Path
  predictions : Path
deriving DecidableEq, Repr

/-- The places of a run. -/
def RunPaths.resolve (directory : Path) (output predictions : Option Path)
    (defaultName : String) (fallback : Path) : RunPaths :=
  let name := (predictions.bind Path.fileName?).getD defaultName
  let inside := fun (output : Path) =>
    let output := absolutize directory output
    (⟨directory, output, output.child name⟩ : RunPaths)
  match output, predictions with
  | some output, _ => inside output
  | none, none => inside fallback
  | none, some predictions =>
    match predictions.parent? with
    | none => inside fallback
    | some parent =>
      if parent.text = "" then inside fallback
      else
        let predictions := absolutize directory predictions
        ⟨directory, predictions.parent?.getD directory, predictions⟩

/-- The path of one of several outputs.  The first keeps the path; the others
have their number after the stem of the file name. -/
def numberedOutput (path : Path) (index : Nat) : Path :=
  if index = 0 then path
  else
    let stem := path.fileStem?.getD "" ++ "_" ++ toString index
    path.withFileName (match path.extension? with
      | some extension => stem ++ "." ++ extension
      | none => stem)

end ModelRuns
