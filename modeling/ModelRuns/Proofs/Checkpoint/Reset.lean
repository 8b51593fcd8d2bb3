import ModelRuns.Memory.FileStore
import ModelRuns.Proofs.Checkpoint.Recorded
import ModelRuns.Proofs.Pipeline.Conduct

namespace ModelRuns

/-!
# Resetting an output directory

A reset looks for each checkpoint of a directory, and removes it if it is there and is no
input.  Inputs are spelled by the user; a checkpoint is one of them when the components
agree.

So of all files a reset removes the stale ones, `Checkpoint.isStale`, and leaves the others
as they were.  It is enough for this that what is there is found: something else than a file
may be found as well, and then it cannot be removed.
-/

/-! ## Files -/

/-- The texts of files.  All spellings of a path are one file. -/
structure Files where
  text : Path → Option String
  text_of_same : ∀ left right : Path, left.same right = true → text left = text right

/-- The files of a store in memory. -/
def FileStore.contents (store : FileStore) : Files where
  text := store.text?
  text_of_same left right same := by
    have alike : ∀ file : StoredFile, file.path.same left = file.path.same right := by
      intro file
      rw [Path.same, Path.same, beq_iff_eq.mp same]
    simp only [FileStore.text?, alike]

/-- What happens to a file does not depend on its spelling. -/
theorem textAfter_of_same {left right : Path} (same : left.same right = true)
    (text : Option String) (trace : List Exchange) :
    textAfter left text trace = textAfter right text trace := by
  have reached : ∀ target : Path, target.same left = target.same right := fun target => by
    rw [Path.same, Path.same, beq_iff_eq.mp same]
  have steps : ∀ (exchange : Exchange) (text : Option String),
      exchange.applyTo left text = exchange.applyTo right text := by
    intro exchange text
    unfold Exchange.applyTo
    split <;> simp only [reached]
  induction trace generalizing text with
  | nil => rfl
  | cons exchange rest inductionHypothesis =>
    rw [textAfter_cons, textAfter_cons, steps]
    exact inductionHypothesis _

/-- What is there is found. -/
def Exchange.Shows (files : Path → Option String) (earlier : List Exchange) : Exchange → Prop
  | ⟨.file (.fileExists path), found⟩ =>
    (textAfter path (files path) earlier).isSome = true → found = true
  | _ => True

theorem Exchange.Reports.shows {files : Path → Option String} {earlier : List Exchange}
    {exchange : Exchange} (reports : exchange.Reports files earlier) :
    exchange.Shows files earlier := by
  rcases exchange with ⟨asked, answer⟩
  cases asked with
  | file request =>
    cases request with
    | fileExists path => exact fun there => Eq.trans reports there
    | _ => trivial
  | _ => trivial

/-- What is there is found, and what is read is there. -/
structure Exchange.Tells (files : Path → Option String) (earlier : List Exchange)
    (exchange : Exchange) : Prop where
  shows : exchange.Shows files earlier
  reads : ∀ path text, exchange = ⟨.file (.read path), .ok text⟩ →
    textAfter path (files path) earlier = some text

theorem Exchange.tells_of_reportedAnswer {files : Path → Option String}
    {earlier : List Exchange} {exchange : Exchange}
    (answered : exchange.answer = reportedAnswer files earlier exchange.asked) :
    exchange.Tells files earlier := by
  refine ⟨(reports_of_reportedAnswer files earlier exchange answered).shows, ?_⟩
  rintro path text rfl
  simp only [reportedAnswer] at answered
  cases known : textAfter path (files path) earlier with
  | none =>
    rw [known] at answered
    cases answered
  | some held =>
    rw [known] at answered
    cases answered
    rfl

/-- The answers tell of the files, and nothing is refused. -/
structure Files.Serve (files : Files) (earlier trace : List Exchange) : Prop where
  tells : Throughout (Exchange.Tells files.text) earlier trace
  granted : ∀ exchange ∈ trace, exchange.failure? = none

namespace Checkpoint

variable {output : Path} {inputs : List Path}

/-! ## What a reset removes -/

/-- A file is one of these checkpoints of a directory, and no input. -/
def isStaleAmong (output : Path) (inputs : List Path) (checkpoints : List Checkpoint)
    (file : Path) : Bool :=
  checkpoints.any (fun checkpoint => (path output checkpoint).same file) &&
    !inputs.any (fun input => input.same file)

/-- A file is a checkpoint of a directory, and no input. -/
def isStale (output : Path) (inputs : List Path) (file : Path) : Bool :=
  isStaleAmong output inputs all file

theorem isStaleAmong_cons (first : Checkpoint) (rest : List Checkpoint) (file : Path) :
    isStaleAmong output inputs (first :: rest) file =
      ((path output first).same file && !inputs.any (fun input => input.same file) ||
        isStaleAmong output inputs rest file) := by
  rw [isStaleAmong, isStaleAmong, List.any_cons, Bool.and_or_distrib_right]

/-- Being an input does not depend on the spelling of the file. -/
theorem any_same_eq {left right : Path} (same : left.same right = true) :
    inputs.any (fun input => input.same left) = inputs.any (fun input => input.same right) := by
  simp only [Path.same, beq_iff_eq.mp same]

/-- A checkpoint is stale exactly if it is no input. -/
theorem isStale_path (checkpoint : Checkpoint) :
    isStale output inputs (path output checkpoint) =
      !inputs.any (fun input => input.same (path output checkpoint)) := by
  have listed : all.any (fun other => (path output other).same (path output checkpoint)) = true :=
    List.any_eq_true.mpr ⟨checkpoint, checkpoint.mem_all, Path.same_self _⟩
  rw [isStale, isStaleAmong, listed, Bool.true_and]

/-! ## How a reset goes -/

/-- A reset that succeeds goes through the checkpoints one by one.  It removes what it
finds, unless that is an input. -/
inductive Removes (output : Path) (inputs : List Path) : List Checkpoint → List Exchange → Prop
  | nil : Removes output inputs [] []
  | kept {checkpoint : Checkpoint} {rest : List Checkpoint} {trace : List Exchange} {found : Bool}
      (reason : found = false ∨
        inputs.any (fun input => input.same (path output checkpoint)) = true)
      (others : Removes output inputs rest trace) :
      Removes output inputs (checkpoint :: rest)
        (⟨.file (.fileExists (path output checkpoint)), found⟩ :: trace)
  | removed {checkpoint : Checkpoint} {rest : List Checkpoint} {trace : List Exchange}
      (free : inputs.any (fun input => input.same (path output checkpoint)) = false)
      (others : Removes output inputs rest trace) :
      Removes output inputs (checkpoint :: rest)
        (⟨.file (.fileExists (path output checkpoint)), true⟩ ::
          ⟨.file (.remove (path output checkpoint)), .ok ()⟩ :: trace)

/-- A reset fails only with a removal that is refused. -/
theorem removes_of_yields {checkpoints : List Checkpoint} {trace : List Exchange}
    {outcome : Except Failure Unit}
    (yields : (removeAll output inputs checkpoints).Yields trace outcome) :
    outcome = .ok () ∧ Removes output inputs checkpoints trace ∨
      ∃ failure, outcome = .error failure ∧
        ∃ exchange ∈ trace, exchange.failure? = some failure := by
  induction checkpoints generalizing trace with
  | nil =>
    rcases (Action.yields_pure_iff _ _ _).mp yields with ⟨rfl, rfl⟩
    exact .inl ⟨rfl, .nil⟩
  | cons checkpoint rest inductionHypothesis =>
    rcases (Action.yields_asking_bind_iff (.file (.fileExists _)) _ _ _).mp yields with
      ⟨found, back, rfl, goesOn⟩
    have keeps (reason : found = false ∨
          inputs.any (fun input => input.same (path output checkpoint)) = true)
        (others : (removeAll output inputs rest).Yields back outcome) :
        outcome = .ok () ∧ Removes output inputs (checkpoint :: rest) (⟨_, found⟩ :: back) ∨
          ∃ failure, outcome = .error failure ∧
            ∃ exchange ∈ ⟨_, found⟩ :: back, exchange.failure? = some failure := by
      rcases inductionHypothesis others with ⟨rfl, removes⟩ | ⟨failure, failed, exchange, member, brings⟩
      · exact .inl ⟨rfl, .kept reason removes⟩
      · exact .inr ⟨failure, failed, exchange, List.mem_cons_of_mem _ member, brings⟩
    split at goesOn
    next there =>
      split at goesOn
      next free =>
        rcases (Action.yields_bind_iff _ _ _ _).mp goesOn with
          ⟨failure, refused, rfl⟩ | ⟨removing, later, _, rfl, removed, others⟩
        · rcases (Action.yields_asking_iff (.file (.remove _)) (fun answer => answer) _ _).mp
            refused with ⟨answer, rfl, same⟩
          subst same
          exact .inr ⟨failure, rfl, _, List.mem_cons_of_mem _ List.mem_cons_self, rfl⟩
        · rcases (Action.yields_asking_iff (.file (.remove _)) (fun answer => answer) _ _).mp
            removed with ⟨answer, rfl, same⟩
          subst same
          subst there
          rcases inductionHypothesis others with
            ⟨rfl, removes⟩ | ⟨failure, failed, exchange, member, brings⟩
          · exact .inl ⟨rfl, .removed ((Bool.not_eq_true' _).mp free) removes⟩
          · exact .inr ⟨failure, failed, exchange,
              List.mem_cons_of_mem _ (List.mem_cons_of_mem _ member), brings⟩
      next input => exact keeps (.inr (by simpa using input)) goesOn
    next missing => exact keeps (.inl (Bool.eq_false_iff.mpr missing)) goesOn

/-- A reset removes the stale files among its checkpoints, and leaves every other file. -/
theorem Removes.textAfter {files : Path → Option String} {file : Path}
    (spelled : ∀ checkpoint, (path output checkpoint).same file = true →
      files (path output checkpoint) = files file)
    {checkpoints : List Checkpoint} {earlier trace : List Exchange}
    (removes : Removes output inputs checkpoints trace)
    (shown : Throughout (Exchange.Shows files) earlier trace) :
    textAfter file (files file) (earlier ++ trace) =
      if isStaleAmong output inputs checkpoints file then none
      else textAfter file (files file) earlier := by
  induction removes generalizing earlier with
  | nil => simp [isStaleAmong]
  | @kept checkpoint rest trace found reason others inductionHypothesis =>
    have looked : ModelRuns.textAfter file (files file)
        (earlier ++ [⟨.file (.fileExists (path output checkpoint)), found⟩]) =
          ModelRuns.textAfter file (files file) earlier := by
      rw [textAfter_append]
      rfl
    rw [List.append_cons, inductionHypothesis shown.2, looked, isStaleAmong_cons]
    cases same : (path output checkpoint).same file with
    | false => rw [Bool.false_and, Bool.false_or]
    | true =>
      rcases reason with absent | input
      · -- The checkpoint was not found, so there is no such file.
        have gone : ModelRuns.textAfter file (files file) earlier = none := by
          rw [← spelled checkpoint same, ← textAfter_of_same same]
          refine Option.not_isSome_iff_eq_none.mp fun there => ?_
          cases absent.symm.trans (shown.1 there)
        rw [gone, ite_self, ite_self]
      · rw [any_same_eq same] at input
        rw [input, Bool.not_true, Bool.and_false, Bool.false_or]
  | @removed checkpoint rest trace free others inductionHypothesis =>
    have changed : ModelRuns.textAfter file (files file)
        (earlier ++ [⟨.file (.fileExists (path output checkpoint)), true⟩,
          ⟨.file (.remove (path output checkpoint)), .ok ()⟩]) =
          if (path output checkpoint).same file then none
          else ModelRuns.textAfter file (files file) earlier := by
      rw [textAfter_append]
      rfl
    have later := inductionHypothesis shown.2.2
    simp only [List.append_assoc, List.cons_append, List.nil_append] at later
    rw [later, changed, isStaleAmong_cons]
    cases same : (path output checkpoint).same file with
    | false =>
      rw [Bool.false_and, Bool.false_or]
      rfl
    | true =>
      rw [any_same_eq same] at free
      rw [free]
      simp

end Checkpoint

/-! ## Resetting where nothing is refused -/

namespace Files

variable {files : Files} {output : Path} {inputs : List Path} {earlier trace : List Exchange}
  {outcome : Except Failure Unit}

/-- The reset succeeds, and exactly the stale files are gone. -/
theorem reset (yields : (Checkpoint.reset output inputs).Yields trace outcome)
    (serve : files.Serve earlier trace) :
    outcome = .ok () ∧ ∀ path, textAfter path (files.text path) (earlier ++ trace) =
      if Checkpoint.isStale output inputs path then none
      else textAfter path (files.text path) earlier := by
  rcases Checkpoint.removes_of_yields yields with
    ⟨rfl, removes⟩ | ⟨failure, _, exchange, member, brings⟩
  · refine ⟨rfl, fun path => removes.textAfter (fun checkpoint same => ?_) ?_⟩
    · exact files.text_of_same _ _ same
    · exact serve.tells.mono fun _ _ => Exchange.Tells.shows
  · cases (serve.granted exchange member).symm.trans brings

/-- A checkpoint that is not there reads as empty. -/
theorem read_of_missing {checkpoint : Checkpoint}
    (missing : textAfter (Checkpoint.path output checkpoint)
      (files.text (Checkpoint.path output checkpoint)) earlier = none)
    {found : Except Failure (List ResourceId)}
    (yields : (Checkpoint.read output checkpoint).Yields trace found)
    (serve : files.Serve earlier trace) : found = .ok [] := by
  rcases (Action.yields_asking_bind_iff (.file (.fileExists _)) _ _ _).mp yields with
    ⟨there, back, rfl, rest⟩
  cases there with
  | false => exact ((Action.yields_pure_iff _ _ _).mp rest).2
  | true =>
    have reading : ∃ answer last, back = ⟨.file (.read (Checkpoint.path output checkpoint)),
        answer⟩ :: last := by
      rcases (Action.yields_bind_iff _ _ _ _).mp rest with
        ⟨failure, reads, _⟩ | ⟨front, last, text, rfl, reads, _⟩ <;>
      rcases (Action.yields_asking_iff (.file (.read _)) (fun answer => answer) _ _).mp reads with
        ⟨answer, rfl, _⟩
      · exact ⟨answer, [], rfl⟩
      · exact ⟨answer, last, rfl⟩
    rcases reading with ⟨answer, last, rfl⟩
    cases answer with
    | error failure =>
      cases serve.granted _ (List.mem_cons_of_mem _ List.mem_cons_self)
    | ok text =>
      have held := serve.tells.2.1.reads _ _ rfl
      rw [textAfter_append, missing] at held
      cases held

end Files

end ModelRuns
