import ModelRuns.Proofs.Invocation.Replay
import ModelRuns.Proofs.Pipeline.Obtaining
import ModelRuns.Proofs.Run.Ledger

namespace ModelRuns

/-!
# Checkpoints beside the results of a run

Checkpoints lie where the results go, and the user names two of the results.  When a
run ends each checkpoint holds the identifiers of all that was created for it, unless
such a result went over it.  The last result that did is what comes before the later
identifiers, so it has to read like the earlier ones, and leave no line open.
-/

/-- The file is left alone, or there is a last exchange that goes over it. -/
theorem last_overwrites (path : Path) (trace : List Exchange) :
    (∀ exchange ∈ trace, ¬exchange.Overwrites path) ∨ ∃ front exchange back,
      trace = front ++ exchange :: back ∧ exchange.Overwrites path ∧
        ∀ later ∈ back, ¬later.Overwrites path := by
  induction trace with
  | nil => exact .inl (List.forall_mem_nil _)
  | cons exchange rest inductionHypothesis =>
    rcases inductionHypothesis with spared | ⟨front, last, back, rfl, covers, spared⟩
    · by_cases covers : exchange.Overwrites path
      · exact .inr ⟨[], exchange, rest, rfl, covers, spared⟩
      · exact .inl (List.forall_mem_cons.mpr ⟨covers, spared⟩)
    · exact .inr ⟨exchange :: front, last, back, rfl, covers, spared⟩

/-- A text that goes over a checkpoint is the text of the checkpoint. -/
theorem applyTo_write {path file : Path} (same : path.same file = true) (text : String)
    (before : Option String) :
    Exchange.applyTo file before ⟨.file (.write path text), .ok ()⟩ = some text :=
  if_pos same

namespace Ledger

variable {paths : RunPaths} {invocation : Invocation} {trace front back : List Exchange}
  {entries : List Entry} {checkpoint : Checkpoint} {path : Path} {text : String}

/-- Behind the last result that went over a checkpoint stand the identifiers of what was
created for it later. -/
theorem textAfter_of_covers (ledger : Ledger paths invocation trace entries)
    (point : trace = front ++ ⟨.file (.write path text), .ok ()⟩ :: back)
    (covers : path.same (Checkpoint.path paths.output checkpoint) = true)
    (spared : ∀ exchange ∈ back,
      ¬exchange.Overwrites (Checkpoint.path paths.output checkpoint))
    (before : Option String) :
    textAfter (Checkpoint.path paths.output checkpoint) before trace =
      Checkpoint.recorded (some text)
        (Entry.idsAt checkpoint (entries.drop (ModelRuns.created front).length)) := by
  rcases ledger.at_write point covers with ⟨earlier, later, rfl, early, late⟩
  have count : (ModelRuns.created front).length = earlier.length := by
    rw [early.created, List.length_map]
  rw [point, textAfter_append, textAfter_cons, applyTo_write covers, count, List.drop_left]
  exact late.textAfter_of_spared checkpoint spared (some text)

end Ledger

namespace NewRun

variable (run : NewRun)

/-- The text of a checkpoint when the run has ended. -/
def left (checkpoint : Checkpoint) : Option String :=
  textAfter (Checkpoint.path run.output checkpoint)
    (run.files (Checkpoint.path run.output checkpoint)) run.trace

/-- Whoever reads the checkpoint when the run has ended gets these identifiers. -/
def ReadsBack (checkpoint : Checkpoint) (ids : List ResourceId) : Prop :=
  ∀ reading result, (Checkpoint.read run.output checkpoint).Yields reading result →
    Throughout (Exchange.Reports run.files) run.trace reading → result = .ok ids

/-- Of the results that the user named, the last one that went over the checkpoint reads
like the identifiers that were there, and leaves no line open for those that came later. -/
def StandsIn (checkpoint : Checkpoint) (entries : List Entry) : Prop :=
  ∀ path ∈ run.paths.namedOutputs run.invocation,
    path.same (Checkpoint.path run.output checkpoint) = true → ∀ front text back,
    run.trace = front ++ ⟨.file (.write path text), .ok ()⟩ :: back →
    (∀ exchange ∈ back, ¬exchange.Overwrites (Checkpoint.path run.output checkpoint)) →
      Checkpoint.ofText (Checkpoint.path run.output checkpoint) text =
        .ok (Entry.idsAt checkpoint (entries.take (created front).length)) ∧
      (Entry.idsAt checkpoint (entries.drop (created front).length) = [] ∨
        Checkpoint.EndsBlank text)

variable {run}

theorem readsBack_iff {checkpoint : Checkpoint} {ids : List ResourceId} :
    run.ReadsBack checkpoint ids ↔ Checkpoint.ofText (Checkpoint.path run.output checkpoint)
      ((run.left checkpoint).getD "") = .ok ids := by
  constructor
  · intro readsBack
    rcases (Checkpoint.read run.output checkpoint).exists_yields run.files run.trace with
      ⟨reading, result, reads, reports⟩
    exact (Checkpoint.yields_read reads reports).symm.trans
      (readsBack reading result reads reports)
  · intro holds reading result reads reports
    exact (Checkpoint.yields_read reads reports).trans holds

/-- When a run ends, what it created for a checkpoint is read back from it, exactly if a
result that went over the checkpoint stands in for it. -/
theorem readsBack_created_iff (proper : run.Proper) (clean : run.BeginsClean)
    (valid : ∀ made ∈ created run.trace, made.2.Valid) :
    ∃ entries, created run.trace = entries.map Entry.made ∧
      (∀ entry ∈ entries, CreatedFor run.output entry.checkpoint entry.id run.trace) ∧
      ∀ checkpoint, run.ReadsBack checkpoint (Entry.idsAt checkpoint entries) ↔
        run.StandsIn checkpoint entries := by
  rcases proper.ledger clean with ⟨entries, ledger⟩
  refine ⟨entries, ledger.created, ledger.createdFor, fun checkpoint => ?_⟩
  have validAt : ∀ some : List Entry, some ⊆ entries →
      ∀ id ∈ Entry.idsAt checkpoint some, id.Valid := by
    intro some inside id member
    rcases Entry.mem_of_mem_idsAt member with ⟨entry, listed, _, rfl⟩
    refine valid entry.made ?_
    rw [ledger.created]
    exact List.mem_map_of_mem (inside listed)
  have parts : ∀ count, Entry.idsAt checkpoint entries =
      Entry.idsAt checkpoint (entries.take count) ++
        Entry.idsAt checkpoint (entries.drop count) := by
    intro count
    rw [← Entry.idsAt_append, List.take_append_drop]
  rw [readsBack_iff]
  constructor
  · intro holds path _ same front text back point spared
    have left : run.left checkpoint = Checkpoint.recorded (some text) _ :=
      ledger.textAfter_of_covers point same spared _
    rw [left, parts (created front).length,
      Checkpoint.ofText_recorded_iff (validAt _ (List.drop_subset _ _))] at holds
    exact holds
  · intro standsIn
    rcases last_overwrites (Checkpoint.path run.output checkpoint) run.trace with
      spared | ⟨front, exchange, back, point, covers, spared⟩
    · have left : run.left checkpoint = Checkpoint.recorded _ _ :=
        ledger.textAfter_of_spared checkpoint spared _
      rw [left, clean.absent]
      exact Checkpoint.ofText_recorded_none _ _ (validAt _ (List.Subset.refl _))
    · have member : exchange ∈ run.trace := point ▸ List.mem_append_right _ List.mem_cons_self
      rcases ledger.named_of_overwrites exchange member covers with
        ⟨path, text, answer, rfl, named, same⟩
      cases answer with
      | error failure => cases clean.granted _ member
      | ok done =>
        have left : run.left checkpoint = Checkpoint.recorded (some text) _ :=
          ledger.textAfter_of_covers point same spared _
        rw [left, parts (created front).length,
          Checkpoint.ofText_recorded_iff (validAt _ (List.drop_subset _ _))]
        exact standsIn path named same front text back point spared

end NewRun

/-! ## A run that finds centroids and writes them to a file of a given name -/

/-- A service that numbers what it creates, and a disk without files at the start. -/
def numberingAnswer (earlier : List Exchange) : (asked : Request) → asked.Answer
  | .api (.create creation) =>
    .ok (Resource.finished ⟨creation.kind, numberedKey (created earlier).length⟩)
  | asked => timedAnswer (fun _ => none) ⟨0⟩ earlier asked

section

variable {earlier : List Exchange} {exchange : Exchange}
  (answered : exchange.answer = numberingAnswer earlier exchange.asked)

include answered

theorem reports_of_numberingAnswer : exchange.Reports (fun _ => none) earlier := by
  rcases exchange with ⟨asked, answer⟩
  cases asked with
  | api request => trivial
  | _ => exact reports_of_timedAnswer (fun _ => none) ⟨0⟩ earlier _ answered

theorem granted_of_numberingAnswer : exchange.Granted := by
  rcases exchange with ⟨asked, answer⟩
  cases asked with
  | api request => trivial
  | _ => exact Exchange.granted_of_timedAnswer (fun _ => none) ⟨0⟩ earlier _ answered

end

section

variable (name : String)

def centroidArguments : List String :=
  ["bigmler", "cluster", "--cluster", "cluster/5143a51a37203f2cf7000972", "--test", "test.csv",
    "--predictions", name, "--output-dir", "out"]

def centroidLaunch : Launch :=
  ⟨(centroidArguments name).map encodeUtf8,
    [(encodeUtf8 usernameVariable, encodeUtf8 "alice"),
      (encodeUtf8 apiKeyVariable, encodeUtf8 "secret")], ⟨"/work"⟩⟩

def centroidCall : NewRun :=
  let run := (centroidLaunch name).invoke.run.record numberingAnswer []
  { launch := centroidLaunch name
    files := fun _ => none
    trace := run.1
    outcome := run.2
    arguments := centroidArguments name
    settings := {}
    invocation := Given.invocation [(.cluster, .text "cluster/5143a51a37203f2cf7000972"),
      (.test, .path ⟨"test.csv"⟩), (.predictions, .path ⟨name⟩),
      (.outputDir, .path ⟨"out"⟩)] .cluster
    time := ⟨0⟩ }

end

/-- The file of the run log that an exchange opens. -/
def Exchange.runLog? : Exchange → Option Path
  | ⟨.openRunLog file _, _⟩ => file
  | _ => none

theorem answered_centroidCall (name : String) :
    Throughout (fun earlier exchange => exchange.answer = numberingAnswer earlier exchange.asked) []
      (centroidCall name).trace :=
  Program.throughout_record numberingAnswer (centroidLaunch name).invoke.run []

theorem runs_centroidCall (name : String) :
    (centroidLaunch name).invoke.Yields (centroidCall name).trace (centroidCall name).outcome :=
  Program.runs_record numberingAnswer (centroidLaunch name).invoke.run []

theorem facts_centroidCall : firstClock (centroidCall "centroids.csv").trace = some ⟨0⟩ ∧
    (∀ exchange ∈ (centroidCall "centroids.csv").trace, exchange.runLog? = none) ∧
    ∀ made ∈ created (centroidCall "centroids.csv").trace, made.2.Valid := by
  decide +kernel

theorem proper_centroidCall : (centroidCall "centroids.csv").Proper where
  opened := by decide +kernel
  fresh := by decide
  read := rfl
  clock := facts_centroidCall.1
  runs := runs_centroidCall _
  reports := (answered_centroidCall _).mono fun _ _ => reports_of_numberingAnswer

theorem beginsClean_centroidCall : (centroidCall "centroids.csv").BeginsClean where
  builtIn := rfl
  granted := (answered_centroidCall _).forall_mem fun _ _ answered =>
    granted_of_numberingAnswer answered
  absent _ := rfl
  runLogOff file debug answer member := by cases facts_centroidCall.2.1 _ member

/-- The centroids lie beside the checkpoints. -/
theorem centroids_off : ∀ path ∈ (centroidCall "centroids.csv").paths.namedOutputs
    (centroidCall "centroids.csv").invocation, ∀ checkpoint,
      path.same (Checkpoint.path (centroidCall "centroids.csv").output checkpoint) = false := by
  have named : (centroidCall "centroids.csv").paths.namedOutputs
      (centroidCall "centroids.csv").invocation = [⟨"/work/out/centroids.csv"⟩] := by
    decide +kernel
  have called : (⟨"/work/out/centroids.csv"⟩ : Path).fileName? = some "centroids.csv" := by
    decide +kernel
  rw [named]
  refine List.forall_mem_singleton.mpr (Checkpoint.not_same_of_fileName called ?_ _)
  intro checkpoint
  cases checkpoint <;> decide

/-- Centroids with a name of their own leave every checkpoint as it is to be.  Those that are
called like the checkpoint of the test sources leave nothing of it. -/
theorem readsBack_centroids :
    (∃ entries, created (centroidCall "centroids.csv").trace = entries.map Entry.made ∧
      ∀ checkpoint, (centroidCall "centroids.csv").ReadsBack checkpoint
        (Entry.idsAt checkpoint entries)) ∧
    ⟨.source, numberedKey 0⟩ ∈ (created (centroidCall "test_source").trace).map Prod.snd ∧
      (centroidCall "test_source").ReadsBack .testSource [] := by
  constructor
  · rcases NewRun.readsBack_created_iff proper_centroidCall beginsClean_centroidCall
      facts_centroidCall.2.2 with ⟨entries, listed, _, readsBack⟩
    refine ⟨entries, listed, fun checkpoint => (readsBack checkpoint).mpr ?_⟩
    intro path named same
    rw [centroids_off path named checkpoint] at same
    cases same
  · rw [NewRun.readsBack_iff]
    decide +kernel

end ModelRuns
