import ModelRuns.Proofs.Path.Names
import ModelRuns.Proofs.Pipeline.Journal

namespace ModelRuns

/-!
# Where results go

A run writes results into its output directory, where the checkpoints are.  The user
names two of the files: the export, and the first file of predictions or centroids.
All others have names made by the run, which no checkpoint has: they hold a dot or end
in a digit.
-/

/-- The files of results that are called what the user calls them. -/
def RunPaths.namedOutputs (paths : RunPaths) (invocation : Invocation) : List Path :=
  (invocation.common.toCsv.map paths.output.child).toList ++ [paths.predictions]

/-- Names of checkpoints hold no dot and do not end in a digit. -/
theorem Checkpoint.fileName_shape (checkpoint : Checkpoint) :
    '.' ∉ checkpoint.fileName.toList ∧
      ∀ last, checkpoint.fileName.toList.getLast? = some last → last.isDigit = false := by
  have shape : checkpoint.fileName.toList.all (· ≠ '.') = true ∧
      checkpoint.fileName.toList.getLast?.all (fun last => !last.isDigit) = true := by
    cases checkpoint <;> decide
  constructor
  · intro member
    simpa using List.all_eq_true.mp shape.1 '.' member
  · intro last ends
    rw [ends] at shape
    simpa using shape.2

/-- A path whose file name is that of no checkpoint is the path of no checkpoint. -/
theorem Checkpoint.not_same_of_fileName {path : Path} {name : String}
    (named : path.fileName? = some name)
    (other : ∀ checkpoint : Checkpoint, name ≠ checkpoint.fileName) (output : Path)
    (checkpoint : Checkpoint) : path.same (Checkpoint.path output checkpoint) = false := by
  refine Bool.eq_false_iff.mpr fun same => other checkpoint ?_
  have names := Path.fileName?_of_same same
  rw [named, Checkpoint.path, Path.fileName?_child _ checkpoint.fileName_isPlain] at names
  exact Option.some.inj names

namespace RunContext

variable {run : RunContext}

theorem offCheckpoints_of_fileName {path : Path} {name : String}
    (named : path.fileName? = some name)
    (other : ∀ checkpoint : Checkpoint, name ≠ checkpoint.fileName) :
    run.OffCheckpoints path :=
  Checkpoint.not_same_of_fileName named other _

/-- An ending with a dot is off the checkpoints. -/
theorem offCheckpoints_withSuffix (path : Path) {ending : String}
    (member : ending ∈ [".json", ".txt"]) : run.OffCheckpoints (path.withSuffix ending) := by
  have shape : '/' ∉ ending.toList ∧ 2 < ending.toList.length ∧ '.' ∈ ending.toList := by
    simp only [List.mem_cons, List.not_mem_nil, or_false] at member
    rcases member with rfl | rfl <;> decide
  rcases path.fileName?_withSuffix shape.1 shape.2.1 with ⟨name, named, ends⟩
  refine offCheckpoints_of_fileName named fun checkpoint same => ?_
  exact checkpoint.fileName_shape.1 (same ▸ ends.subset shape.2.2)

theorem offCheckpoints_numberedOutput (path : Path) {index : Nat} (behind : index ≠ 0) :
    run.OffCheckpoints (numberedOutput path index) := by
  refine offCheckpoints_of_fileName (fileName?_numberedOutput path behind) fun checkpoint same => ?_
  rcases path.numberedName_shape index with dot | ⟨digit, last, isDigit⟩
  · exact checkpoint.fileName_shape.1 (same ▸ dot)
  · rw [same] at last
    rw [checkpoint.fileName_shape.2 digit last] at isDigit
    cases isDigit

/-- A run writes nothing over checkpoints but what the user gives the name of one. -/
theorem Writes.named {invocation : Invocation} {path : Path} (writes : run.Writes invocation path) :
    path ∈ run.paths.namedOutputs invocation ∨ run.OffCheckpoints path := by
  have numbered : ∀ index, numberedOutput run.paths.predictions index ∈
      run.paths.namedOutputs invocation ∨
        run.OffCheckpoints (numberedOutput run.paths.predictions index) := by
    intro index
    by_cases first : index = 0
    · subst first
      exact .inl (List.mem_append_right _ List.mem_cons_self)
    · exact .inr (offCheckpoints_numberedOutput _ first)
  cases writes with
  | exported _ name asked =>
    refine .inl (List.mem_append_left _ ?_)
    rw [asked]
    exact List.mem_cons_self
  | predictions options trained predicting index => exact numbered index
  | centroids options index => exact numbered index
  | evaluation options asked ending member => exact .inr (offCheckpoints_withSuffix _ member)
  | crossValidation options asked ending member => exact .inr (offCheckpoints_withSuffix _ member)
  | summary =>
    refine .inr (offCheckpoints_of_fileName (Path.fileName?_child _ ?_) fun checkpoint => ?_)
    · decide
    · cases checkpoint <;> decide

end RunContext

end ModelRuns
