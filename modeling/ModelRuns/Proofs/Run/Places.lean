import ModelRuns.Proofs.Path.Parents

namespace ModelRuns

/-!
# Places of a run that is taken up again

A run that is taken up again is given the output directory it worked in before, in
place of the one asked for or found.  Its places are then the same files, whichever
way the directory was found at first and whatever directory would stand in now.

There is one exception.  A predictions path that names the output directory by its
directory part is kept as it is, even if it ends in `..` and has no file name; inside
a given directory such a path stands for the default name.
-/

namespace RunPaths

variable {directory : Path}

/-- The places of two runs are the same files. -/
structure Same (left right : RunPaths) : Prop where
  directory : left.directory.same right.directory = true
  output : left.output.same right.output = true
  predictions : left.predictions.same right.predictions = true

/-- The predictions path is to name the output directory, and has no file name. -/
def Unnamed (output predictions : Option Path) : Prop :=
  output = none ∧ ∃ path, predictions = some path ∧ path.HasDirectory ∧ path.fileName? = none

theorem same_refl (path : Path) : path.same path = true := beq_self_eq_true _

/-- Places inside an absolute directory, whose name for the predictions is given by
their path or by default. -/
theorem resolve_some {output : Path} (absolute : output.isAbsolute = true)
    (predictions : Option Path) (defaultName : String) (fallback : Path) :
    resolve directory (some output) predictions defaultName fallback =
      ⟨directory, output,
        output.child ((predictions.bind Path.fileName?).getD defaultName)⟩ := by
  simp only [resolve, absolutize, absolute, if_true]

/-- Either the places lie inside an absolute directory, or they are those of a
predictions path with a directory part. -/
theorem resolve_cases (absolute : directory.isAbsolute = true) (output predictions : Option Path)
    (defaultName : String) (fallback : Path) :
    (¬Unnamed output predictions ∧ ∃ inside : Path, inside.isAbsolute = true ∧
      resolve directory output predictions defaultName fallback =
        ⟨directory, inside,
          inside.child ((predictions.bind Path.fileName?).getD defaultName)⟩) ∨
      output = none ∧ ∃ path, predictions = some path ∧ path.HasDirectory ∧
        resolve directory output predictions defaultName fallback =
          ⟨directory, (absolutize directory path).parent?.getD directory,
            absolutize directory path⟩ := by
  cases output with
  | some output =>
    exact .inl ⟨fun unnamed => (nomatch unnamed.1),
      _, Path.absolutize_isAbsolute absolute output, rfl⟩
  | none =>
    have inside := Path.absolutize_isAbsolute absolute fallback
    cases predictions with
    | none => exact .inl ⟨fun ⟨_, _, impossible, _⟩ => (nomatch impossible), _, inside, rfl⟩
    | some path =>
      by_cases directed : path.HasDirectory
      · rcases directed with ⟨parent, above, spelled⟩
        refine .inr ⟨rfl, path, rfl, ⟨parent, above, spelled⟩, ?_⟩
        simp only [resolve, above, if_neg spelled]
      · refine .inl ⟨?_, _, inside, ?_⟩
        · rintro ⟨-, other, equal, impossible, -⟩
          cases equal
          exact directed impossible
        cases above : path.parent? with
        | none => simp only [resolve, above]
        | some parent =>
          have unspelled : parent.text = "" :=
            of_not_not fun spelled => directed ⟨parent, above, spelled⟩
          simp only [resolve, above, if_pos unspelled]

/-- The places found with the output directory of a run are its own exactly if its
predictions path has a file name or its default name is where they were; a plain
default name never is. -/
theorem resolve_again_iff (absolute : directory.isAbsolute = true)
    (output predictions : Option Path) (defaultName : String) (fallback other : Path) :
    let first := resolve directory output predictions defaultName fallback
    let again := resolve directory (some first.output) predictions defaultName other
    (again.Same first ↔ (Unnamed output predictions →
      (first.output.child defaultName).same first.predictions = true)) ∧
      (Path.IsPlainName defaultName → (again.Same first ↔ ¬Unnamed output predictions)) := by
  intro first again
  rcases resolve_cases absolute output predictions defaultName fallback with
    ⟨named, inside, insideAbsolute, resolved⟩ | ⟨rfl, path, rfl, directed, resolved⟩
  · have equal : again = first := by
      simp only [again, first, resolved]
      exact resolve_some insideAbsolute predictions defaultName other
    have same : again.Same first := equal ▸ ⟨same_refl _, same_refl _, same_refl _⟩
    exact ⟨⟨fun _ unnamed => absurd unnamed named, fun _ => same⟩,
      fun _ => ⟨fun _ => named, fun _ => same⟩⟩
  · rcases directed.parent?_absolutize absolute with ⟨parent, above⟩
    have rooted := Path.absolutize_isAbsolute absolute path
    have found : first = ⟨directory, parent, absolutize directory path⟩ := by
      simp only [first, resolved, above, Option.getD_some]
    have taken : again = ⟨directory, parent, parent.child (path.fileName?.getD defaultName)⟩ := by
      simp only [again, found]
      exact resolve_some (Path.parent?_isAbsolute rooted above) (some path) defaultName other
    rw [taken, found]
    cases named : path.fileName? with
    | none =>
      have unnamed : Unnamed none (some path) := ⟨rfl, path, rfl, directed, named⟩
      have decided : RunPaths.Same ⟨directory, parent, parent.child defaultName⟩
            ⟨directory, parent, absolutize directory path⟩ ↔
          (parent.child defaultName).same (absolutize directory path) = true :=
        ⟨Same.predictions, fun same => ⟨same_refl _, same_refl _, same⟩⟩
      refine ⟨decided.trans ⟨fun same _ => same, fun leads => leads unnamed⟩, fun plain => ?_⟩
      refine ⟨fun same => ?_, fun impossible => absurd unnamed impossible⟩
      have names := Path.fileName?_of_same (decided.mp same)
      rw [Path.fileName?_child parent plain, directed.fileName?_absolutize absolute,
        named] at names
      cases names
    | some name =>
      have settled : ¬Unnamed none (some path) := by
        rintro ⟨-, other, equal, -, impossible⟩
        cases equal
        rw [named] at impossible
        cases impossible
      have leadsBack : (parent.child name).same (absolutize directory path) = true :=
        Path.child_parent_same above
          ((directed.fileName?_absolutize absolute).trans named)
      have same : RunPaths.Same ⟨directory, parent, parent.child name⟩
          ⟨directory, parent, absolutize directory path⟩ :=
        ⟨same_refl _, same_refl _, leadsBack⟩
      exact ⟨⟨fun _ unnamed => absurd unnamed settled, fun _ => same⟩,
        fun _ => ⟨fun _ => settled, fun _ => same⟩⟩

/-- A path to a file names the directory for good; one that ends in `..` is given a
place inside the directory it named. -/
theorem resolve_again_work :
    (⟨"/work"⟩ : Path).isAbsolute = true ∧
      (resolve ⟨"/work"⟩ (some ⟨"/work/runs/a"⟩) (some ⟨"runs/a/out.csv"⟩) "predictions.csv"
        ⟨"now"⟩).Same (resolve ⟨"/work"⟩ none (some ⟨"runs/a/out.csv"⟩) "predictions.csv"
          ⟨"then"⟩) ∧
      ¬(resolve ⟨"/work"⟩ (some ⟨"/work/out"⟩) (some ⟨"out/.."⟩) "predictions.csv"
        ⟨"now"⟩).Same (resolve ⟨"/work"⟩ none (some ⟨"out/.."⟩) "predictions.csv"
          ⟨"then"⟩) := by
  have absolute : (⟨"/work"⟩ : Path).isAbsolute = true := by decide
  have plain : Path.IsPlainName "predictions.csv" := by decide
  refine ⟨absolute, ?_, ?_⟩
  · refine ((resolve_again_iff absolute none (some ⟨"runs/a/out.csv"⟩) "predictions.csv"
      ⟨"then"⟩ ⟨"now"⟩).2 plain).mpr ?_
    rintro ⟨-, path, equal, -, unnamed⟩
    cases equal
    revert unnamed
    decide +kernel
  · intro same
    refine ((resolve_again_iff absolute none (some ⟨"out/.."⟩) "predictions.csv"
      ⟨"then"⟩ ⟨"now"⟩).2 plain).mp same ⟨rfl, ⟨"out/.."⟩, rfl, ⟨⟨"out"⟩, ?_, ?_⟩, ?_⟩
    · decide +kernel
    · decide
    · decide +kernel

end RunPaths

end ModelRuns
