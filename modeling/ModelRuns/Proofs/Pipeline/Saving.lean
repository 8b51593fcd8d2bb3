import ModelRuns.Proofs.Path.Within
import ModelRuns.Proofs.Pipeline.Evaluating
import ModelRuns.Proofs.Run.Requests

namespace ModelRuns

open Stateful

/-!
# Results in files of their own

Predictions and centroids are obtained for all test datasets first and then downloaded one
after the other, each into the output of its number.  A download is written whole, and what
follows it goes to outputs with other numbers, which are other files; so in the end each
output holds what was downloaded for it.  Only the session log could come in between: its
lines are written behind every download, and they would spoil an output at its path.
-/

/-! ## Obtained resources -/

namespace RunContext

variable {run : RunContext}

theorem length_takeUp_le (checkpoint : Checkpoint) (count : Nat) :
    Returns (fun known => known.length ≤ count) (run.takeUp checkpoint count) := by
  refine .behind fun cursor => ?_
  split
  next =>
    refine .behind fun held => .behind fun _ => ?_
    have few : (held.take count).length ≤ count := List.length_take_le count held
    split
    next => exact .behind fun _ => .pure few
    next => exact .pure few
  next => exact .pure (Nat.zero_le count)

theorem length_createAll (stage : Stage) (checkpoint : Checkpoint) (creations : List Creation) :
    Returns (fun created => created.length = creations.length)
      (run.createAll stage checkpoint creations) := by
  induction creations with
  | nil => exact .pure rfl
  | cons creation rest inductionHypothesis => exact .length_cons inductionHypothesis

theorem length_awaitAll (stage : Stage) (ids : List ResourceId) :
    Returns (fun resources => resources.length = ids.length) (run.awaitAll stage ids) := by
  induction ids with
  | nil => exact .pure rfl
  | cons id rest inductionHypothesis => exact .length_cons inductionHypothesis

/-- One resource is obtained for each request, be it taken up or created. -/
theorem length_obtainMany (stage : Stage) (checkpoint : Checkpoint) (creations : List Creation) :
    Returns (fun resources => resources.length = creations.length)
      (run.obtainMany stage checkpoint creations) := by
  refine .bind (length_takeUp_le checkpoint _) fun known few => ?_
  refine .bind (length_createAll stage checkpoint _) fun created rest => ?_
  have all : (known ++ created).length = creations.length := by
    rw [List.length_append, rest, List.length_drop]
    omega
  exact all ▸ length_awaitAll stage (known ++ created)

end RunContext

/-! ## One download -/

/-- The downloads of a trace that were granted, each with what it gave. -/
def downloads (trace : List Exchange) : List (ResourceId × String) :=
  trace.filterMap fun
    | ⟨.api (.download id), .ok values⟩ => some (id, values)
    | _ => none

theorem downloads_append (front back : List Exchange) :
    downloads (front ++ back) = downloads front ++ downloads back :=
  List.filterMap_append

namespace SessionLog

variable {log : SessionLog} {trace : List Exchange}

/-- Nothing is downloaded to keep a session log. -/
theorem downloads_of_keeps (keeps : ∀ exchange ∈ trace, log.Keeps exchange.asked) :
    downloads trace = [] := by
  refine List.filterMap_eq_nil_iff.mpr fun exchange member => ?_
  rcases exchange with ⟨asked, answer⟩
  have kept : log.Keeps asked := keeps _ member
  cases kept <;> rfl

/-- Only the file of the log is changed to keep it. -/
theorem textAfter_of_keeps (keeps : ∀ exchange ∈ trace, log.Keeps exchange.asked) {file : Path}
    (off : log.path.same file = false) (text : Option String) :
    textAfter file text trace = text := by
  refine textAfter_of_changesAt_nil file (changesAt_eq_nil file ?_ ?_) text
  · exact fun exchange member => (keeps exchange member).spares off
  · intro exchange member
    rcases exchange with ⟨asked, answer⟩
    have kept : log.Keeps asked := keeps _ member
    cases kept <;> exact id

end SessionLog

namespace RunContext

variable {run : RunContext}

/-- What a granted download of a resource into a file is made of. -/
theorem goes_saveTo {id : ResourceId} {path : Path} {before after : Progress}
    {trace : List Exchange} (goes : Goes (run.saveTo id path) before trace (.ok ()) after) :
    ∃ values saying, trace = ⟨.api (.download id), .ok values⟩ ::
        ⟨.file (.write path values), .ok ()⟩ :: saying ∧
      ∀ exchange ∈ saying, run.log.Keeps exchange.asked := by
  rcases goes_bind_ok goes with ⟨_, _, values, _, rfl, downloading, rest⟩
  rcases goes_bind_ok rest with ⟨_, saying, _, _, rfl, writing, said⟩
  rcases (goes_asking_iff (.api (.download id)) (fun answer => answer) _ _ _ _).mp downloading
    with ⟨_, rfl, given, _⟩
  rcases (goes_asking_iff (.file (.write path values)) (fun answer => answer) _ _ _ _).mp writing
    with ⟨_, rfl, written, _⟩
  cases given
  cases written
  exact ⟨values, saying, rfl, run.log.asks_step _ _ _ ((goes_act_iff _ _ _ _ _).mp said).1⟩

/-! ## All downloads -/

/-- The values of some resources were downloaded into the outputs from a number on.  Each of
these outputs that is not the session log holds the values of its resource, and no other file
changed but the log. -/
structure SavesFrom (run : RunContext) (path : Path) (index : Nat) (resources : List Resource)
    (values : List String) (trace : List Exchange) : Prop where
  downloaded : downloads trace = (resources.map Resource.id).zip values
  complete : values.length = resources.length
  holds : ∀ offset value, values[offset]? = some value →
    run.log.path.same (numberedOutput path (index + offset)) = false →
    ∀ text, textAfter (numberedOutput path (index + offset)) text trace = some value
  keeps : ∀ file, run.log.path.same file = false →
    (∀ offset < resources.length, (numberedOutput path (index + offset)).same file = false) →
    ∀ text, textAfter file text trace = text

theorem SavesFrom.nil (path : Path) (index : Nat) : run.SavesFrom path index [] [] [] where
  downloaded := rfl
  complete := rfl
  holds _ _ impossible := nomatch impossible
  keeps _ _ _ _ := rfl

/-- A download before the others. -/
theorem SavesFrom.cons {path : Path} {index : Nat} {resource : Resource}
    {resources : List Resource} {value : String} {values : List String}
    {saying trace : List Exchange} (logs : ∀ exchange ∈ saying, run.log.Keeps exchange.asked)
    (saves : run.SavesFrom path (index + 1) resources values trace) :
    run.SavesFrom path index (resource :: resources) (value :: values)
      (⟨.api (.download resource.id), .ok value⟩ ::
        ⟨.file (.write (numberedOutput path index) value), .ok ()⟩ :: saying ++ trace) where
  downloaded := by
    have rest : downloads (saying ++ trace) = (resources.map Resource.id).zip values := by
      rw [downloads_append, SessionLog.downloads_of_keeps logs, saves.downloaded]
      rfl
    exact congrArg ((resource.id, value) :: ·) rest
  complete := congrArg (· + 1) saves.complete
  holds := by
    intro offset found held off text
    rw [List.cons_append, List.cons_append, textAfter_cons, textAfter_cons, textAfter_append,
      SessionLog.textAfter_of_keeps logs off]
    cases offset with
    | zero =>
      cases held
      -- The later downloads go to outputs with other numbers.
      rw [saves.keeps _ off fun later _ => numberedOutput_not_same path (by omega)]
      exact if_pos (Path.same_self _)
    | succ offset =>
      have place : index + (offset + 1) = index + 1 + offset := by omega
      rw [place] at off ⊢
      exact saves.holds offset found held off _
  keeps := by
    intro file off apart text
    have behind : ∀ offset < resources.length,
        (numberedOutput path (index + 1 + offset)).same file = false := by
      intro offset few
      rw [Nat.add_assoc, Nat.add_comm 1 offset]
      exact apart (offset + 1) (Nat.succ_lt_succ few)
    rw [List.cons_append, List.cons_append, textAfter_cons, textAfter_cons, textAfter_append,
      SessionLog.textAfter_of_keeps logs off, saves.keeps file off behind]
    exact if_neg (Bool.eq_false_iff.mp (apart 0 (Nat.succ_pos _)))

theorem goes_saveNumbered {path : Path} {index : Nat} {resources : List Resource}
    {before after : Progress} {trace : List Exchange}
    (goes : Goes (run.saveNumbered path index resources) before trace (.ok ()) after) :
    ∃ values, run.SavesFrom path index resources values trace := by
  induction resources generalizing index before trace with
  | nil =>
    rcases (goes_pure_iff _ _ _ _ _).mp goes with ⟨rfl, _, _⟩
    exact ⟨[], .nil path index⟩
  | cons resource rest inductionHypothesis =>
    rcases goes_bind_ok goes with ⟨_, _, _, _, rfl, first, others⟩
    rcases goes_saveTo first with ⟨value, saying, rfl, logs⟩
    rcases inductionHypothesis others with ⟨values, saves⟩
    exact ⟨value :: values, .cons logs saves⟩

/-! ## Predictions and centroids -/

/-- The session log is none of the first outputs. -/
def LogsAside (run : RunContext) (count : Nat) : Prop :=
  ∀ index < count, run.log.path.same (numberedOutput run.paths.predictions index) = false

instance (run : RunContext) (count : Nat) : Decidable (run.LogsAside count) :=
  inferInstanceAs (Decidable (∀ index < count, _))

/-- A resource was obtained for each request, all of them were downloaded after that, and in the
end the output of each number holds the download of the resource with this number. -/
def SavesEach (run : RunContext) (checkpoint : Checkpoint) (creations : List Creation)
    (before : Progress) (trace : List Exchange) : Prop :=
  ∃ front back batches middle values, trace = front ++ back ∧
    Goes (run.obtainMany .action checkpoint creations) before front (.ok batches) middle ∧
    batches.length = creations.length ∧ values.length = creations.length ∧
    downloads back = (batches.map Resource.id).zip values ∧
    ∀ index value, values[index]? = some value →
      ∀ text, textAfter (numberedOutput run.paths.predictions index) text trace = some value

theorem savesEach {checkpoint : Checkpoint} {creations : List Creation}
    (aside : run.LogsAside creations.length) {before after : Progress} {trace : List Exchange}
    (goes : Goes (run.obtainMany .action checkpoint creations >>=
      run.saveNumbered run.paths.predictions 0) before trace (.ok ()) after) :
    run.SavesEach checkpoint creations before trace := by
  rcases goes_bind_ok goes with ⟨front, back, batches, middle, rfl, obtained, saved⟩
  rcases goes_saveNumbered saved with ⟨values, saves⟩
  have length := length_obtainMany .action checkpoint creations _ _ _ _ obtained
  have complete := saves.complete.trans length
  refine ⟨front, back, batches, middle, values, rfl, obtained, length, complete,
    saves.downloaded, fun index value held text => ?_⟩
  have few : index < creations.length :=
    complete ▸ (List.getElem?_eq_some_iff.mp held).1
  have holds := saves.holds index value held
  rw [Nat.zero_add] at holds
  rw [textAfter_append]
  exact holds (aside index few) _

/-- Outputs with different numbers are different files, and they lie in the directory of a path
that names a file.  So when predictions, or the centroids of test data, have been obtained for
any number of test datasets, there is a file of its own for each of them, and it holds what was
downloaded for it. -/
theorem numberedOutputs_hold_downloads :
    (∀ (path : Path) (index other : Nat), index ≠ other →
      (numberedOutput path index).same (numberedOutput path other) = false) ∧
    (∀ (path : Path) (name : String), path.fileName? = some name →
      ∃ directory, path.parent? = some directory ∧
        ∀ index, (numberedOutput path index).IsBelow directory) ∧
    ∀ (run : RunContext) (tests : List Resource), run.LogsAside tests.length →
      (∀ options predictor before trace after,
        Goes (run.predict options predictor tests) before trace (.ok ()) after →
        ∃ primary, predictor.primary? = some primary ∧
          run.SavesEach .batchPrediction
            (tests.map fun test => predictionCreation options primary.id test.id) before trace) ∧
      ∀ options cluster before trace after,
        Goes (run.batchCentroids options cluster tests) before trace (.ok ()) after →
        run.SavesEach .batchCentroid
          (tests.map fun test => batchCentroidCreation options cluster.id test.id) before
          trace := by
  refine ⟨fun path _ _ => numberedOutput_not_same path, fun _ _ => Path.isBelow_numberedOutput,
    fun run tests aside => ⟨?_, ?_⟩⟩
  · intro options predictor before trace after goes
    rcases goes_needed_ok goes with ⟨primary, predicts, saving⟩
    exact ⟨primary, predicts, savesEach (by rwa [List.length_map]) saving⟩
  · intro options cluster before trace after goes
    exact savesEach (by rwa [List.length_map]) goes

/-- A service that numbers what it creates, and has the identifier of a resource for its
values. -/
def labelled (earlier : List Exchange) : (asked : Request) → asked.Answer
  | .api (.download id) => .ok id.text
  | asked => Outside.numbered.reply centroidRun earlier asked

def twoTests : List Resource := [1, 2].map fun number => .finished ⟨.dataset, numberedKey number⟩

/-- A run that predicts for two test datasets with one model. -/
def predictedTwice : List Exchange × Except Failure Unit × Progress :=
  recorded labelled (centroidRun.predict listedOptions
    ⟨none, [.finished ⟨.model, numberedKey 3⟩]⟩ twoTests) (Progress.start false) []

/-- A run that finds the centroids of two test datasets. -/
def centredTwice : List Exchange × Except Failure Unit × Progress :=
  recorded labelled (centroidRun.batchCentroids
    ⟨centroidOptions, none, none, none, none, false, none⟩
    (.finished ⟨.cluster, numberedKey 3⟩) twoTests) (Progress.start false) []

theorem twice_facts :
    centroidRun.LogsAside twoTests.length ∧ predictedTwice.2.1 = .ok () ∧
      centredTwice.2.1 = .ok () := by
  decide +kernel

/-- The results for the second dataset are in the output with the number one. -/
theorem numberedOutputs_hold_downloads_twice :
    (∃ creations, centroidRun.SavesEach .batchPrediction creations (Progress.start false)
        predictedTwice.1 ∧ creations.length = 2) ∧
      (∃ creations, centroidRun.SavesEach .batchCentroid creations (Progress.start false)
        centredTwice.1 ∧ creations.length = 2) ∧
      textAfter ⟨"/work/centroids_1.csv"⟩ none predictedTwice.1 =
        some "batchprediction/000000000000000000000002" ∧
      textAfter ⟨"/work/centroids_1.csv"⟩ none centredTwice.1 =
        some "batchcentroid/000000000000000000000002" := by
  rcases twice_facts with ⟨aside, predicted, centred⟩
  have saves := numberedOutputs_hold_downloads.2.2 centroidRun twoTests aside
  rcases saves.1 _ _ _ _ _ (goes_recorded labelled _ _ _ predicted) with ⟨_, _, predictions⟩
  have centroids := saves.2 _ _ _ _ _ (goes_recorded labelled _ _ _ centred)
  exact ⟨⟨_, predictions, rfl⟩, ⟨_, centroids, rfl⟩, by decide +kernel⟩

end RunContext

end ModelRuns
