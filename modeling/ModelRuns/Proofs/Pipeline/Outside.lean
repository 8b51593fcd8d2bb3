import ModelRuns.Memory.Service
import ModelRuns.Proofs.Path.Within
import ModelRuns.Proofs.Pipeline.Parts
import ModelRuns.Proofs.Resource.Alike
import ModelRuns.Run.Invoke

namespace ModelRuns

/-!
# The world outside the attempts at a run

Between two attempts at the same run the world goes on: the service keeps what
was created, and the disk keeps the checkpoints.  What does not change is kept in
an `Outside`: the service allocates identifiers in the order of creations and keeps
the same resource under an identifier for good, and input files hold the same
texts.

`Outside.Agrees` says that an answer fits the world after all earlier exchanges of
all attempts.  Calls may fail, and jobs may be pending or fail, wherever the
service likes; only the files of checkpoints are reliable.  `Outside.reply` gives
the answers that disturb a run nowhere.
-/

/-- The requests of the successful creations of a trace. -/
def requested (trace : List Exchange) : List Creation := (created trace).map Prod.fst

theorem requested_append (front back : List Exchange) :
    requested (front ++ back) = requested front ++ requested back := by
  rw [requested, created_append, List.map_append]
  rfl

/-- An exchange that creates nothing adds no request. -/
theorem requested_concat {earlier : List Exchange} {exchange : Exchange}
    (nothing : exchange.created? = none) :
    requested (earlier ++ [exchange]) = requested earlier := by
  have alone : created [exchange] = [] := List.filterMap_cons_none nothing
  rw [requested, created_append, alone, List.append_nil]
  rfl

/-- What the attempts at a run have in common. -/
structure Outside where
  /-- The identifier of the last of the creations so far. -/
  allocate : List Creation → ResourceId
  /-- The resource kept under an identifier, after the creations so far. -/
  kept : List Creation → ResourceId → Option Resource
  /-- What reading an input file gives. -/
  text : Path → Except Failure String
  valid : ∀ creations, (allocate creations).Valid
  lasting : ∀ creations later id resource, kept creations id = some resource →
    kept (creations ++ later) id = some resource

namespace Outside

variable (outside : Outside) (run : RunContext)

/-- An answer fits the world after the earlier exchanges. -/
def Agrees (earlier : List Exchange) : Exchange → Prop
  | ⟨.api (.create creation), answer⟩ =>
    ∀ resource, answer = .ok resource →
      resource.id = outside.allocate (requested earlier ++ [creation])
  | ⟨.api (.get id _), answer⟩ =>
    ∀ resource, answer = .ok resource → resource.status.isFinished = true →
      ∃ stored, outside.kept (requested earlier) id = some stored ∧ resource.Alike stored
  | ⟨.file (.append path _), answer⟩ =>
    ∀ checkpoint, path = Checkpoint.path run.paths.output checkpoint → answer = .ok ()
  | ⟨.file (.fileExists path), answer⟩ =>
    ∀ checkpoint, path = Checkpoint.path run.paths.output checkpoint →
      answer = (textAfter path none earlier).isSome
  | ⟨.file (.read path), answer⟩ =>
    (∀ checkpoint, path = Checkpoint.path run.paths.output checkpoint →
      ∀ text, textAfter path none earlier = some text → answer = .ok text) ∧
    (run.OffCheckpoints path → answer = outside.text path)
  | _ => True

end Outside

/-- Whether a path is that of a checkpoint. -/
def RunContext.isCheckpoint (run : RunContext) (path : Path) : Bool :=
  Checkpoint.all.any fun checkpoint => path.same (Checkpoint.path run.paths.output checkpoint)

theorem RunContext.isCheckpoint_path (run : RunContext) (checkpoint : Checkpoint) :
    run.isCheckpoint (Checkpoint.path run.paths.output checkpoint) = true :=
  List.any_eq_true.mpr ⟨checkpoint, checkpoint.mem_all, Path.same_self _⟩

theorem RunContext.OffCheckpoints.isCheckpoint {run : RunContext} {path : Path}
    (off : run.OffCheckpoints path) : run.isCheckpoint path = false :=
  List.any_eq_false.mpr fun checkpoint _ => by rw [off checkpoint]; decide

namespace Outside

variable (outside : Outside) (run : RunContext)

/-- The answers that disturb a run nowhere: every creation succeeds, every resource
that is kept is finished, and every file can be written. -/
def reply (earlier : List Exchange) : (asked : Request) → asked.Answer
  | .api (.create creation) =>
    .ok (Resource.finished (outside.allocate (requested earlier ++ [creation])))
  | .api (.get id _) =>
    match outside.kept (requested earlier) id with
    | some stored => .ok { stored with status := ⟨ResourceStatus.finishedCode, "", 1.0⟩ }
    | none => .error (.api "no such resource")
  | .file (.fileExists path) => (textAfter path none earlier).isSome
  | .file (.read path) =>
    if run.isCheckpoint path then
      match textAfter path none earlier with
      | some text => .ok text
      | none => .error (.io "no such file")
    else outside.text path
  | asked => asked.granted

/-- An exchange that disturbs the run nowhere. -/
def Undisturbed (earlier : List Exchange) (exchange : Exchange) : Prop :=
  exchange.answer = outside.reply run earlier exchange.asked

variable {outside run}

theorem Undisturbed.agrees {earlier : List Exchange} {exchange : Exchange}
    (undisturbed : outside.Undisturbed run earlier exchange) :
    outside.Agrees run earlier exchange := by
  rcases exchange with ⟨asked, answer⟩
  have replied : answer = outside.reply run earlier asked := undisturbed
  subst replied
  cases asked with
  | api request =>
    cases request with
    | create creation =>
      intro resource given
      cases given
      rfl
    | get id query =>
      intro resource given finished
      cases found : outside.kept (requested earlier) id with
      | none =>
        simp only [reply, found] at given
        cases given
      | some stored =>
        simp only [reply, found] at given
        cases given
        exact ⟨stored, rfl, rfl, fun _ _ => rfl⟩
    | _ => trivial
  | file request =>
    cases request with
    | append path line => exact fun _ _ => rfl
    | fileExists path => exact fun _ _ => rfl
    | read path =>
      constructor
      · rintro checkpoint rfl text held
        simp only [reply, run.isCheckpoint_path, if_true, held]
      · intro off
        simp only [reply, off.isCheckpoint, Bool.false_eq_true, if_false]
    | _ => trivial
  | _ => trivial

/-- What a run may ask besides is granted. -/
theorem reply_of_mayAsk {invocation : Invocation} {asked : Request} (earlier : List Exchange)
    (allowed : run.MayAsk invocation asked) : outside.reply run earlier asked = asked.granted := by
  cases asked with
  | file request =>
    cases request with
    | read path => exact absurd allowed id
    | fileExists path => exact absurd allowed id
    | _ => rfl
  | api request =>
    cases request with
    | create creation => exact absurd allowed id
    | get id query => exact absurd allowed fun impossible => impossible
    | _ => rfl
  | _ => rfl

/-! ## Traces that fit the world -/

theorem valid_of_agrees {earlier trace : List Exchange}
    (agrees : Throughout (outside.Agrees run) earlier trace) :
    ∀ made ∈ created trace, made.2.Valid := by
  induction trace generalizing earlier with
  | nil => exact List.forall_mem_nil _
  | cons exchange rest inductionHypothesis =>
    intro made member
    rcases List.mem_filterMap.mp member with ⟨other, listed, found⟩
    rcases List.mem_cons.mp listed with rfl | later
    · rcases other with ⟨asked, answer⟩
      cases asked with
      | api request =>
        cases request with
        | create creation =>
          cases answer with
          | ok resource =>
            cases found
            have allocated := agrees.1 resource rfl
            show resource.id.Valid
            rw [allocated]
            exact outside.valid _
          | error failure => cases found
        | _ => cases found
      | _ => cases found
    · exact inductionHypothesis agrees.2 made (List.mem_filterMap.mpr ⟨other, later, found⟩)

/-- Entries whose identifiers were allocated in their order, behind earlier
creations. -/
def Allocated (outside : Outside) : (earlier : List Creation) → List Entry → Prop
  | _, [] => True
  | earlier, entry :: rest =>
    entry.id = outside.allocate (earlier ++ [entry.creation]) ∧
      Allocated outside (earlier ++ [entry.creation]) rest

theorem Allocated.append_iff (earlier : List Creation) (front back : List Entry) :
    outside.Allocated earlier (front ++ back) ↔
      outside.Allocated earlier front ∧
        outside.Allocated (earlier ++ front.map Entry.creation) back := by
  induction front generalizing earlier with
  | nil => simp [Allocated]
  | cons entry rest inductionHypothesis =>
    simp only [List.cons_append, Allocated, inductionHypothesis, List.map_cons, List.append_assoc,
      List.nil_append, and_assoc]

/-- Entries of one checkpoint are determined by their requests and what was created
before them. -/
theorem Allocated.prefix_of {earlier : List Creation} {checkpoint : Checkpoint}
    {front whole : List Entry} (first : outside.Allocated earlier front)
    (second : outside.Allocated earlier whole)
    (placed : ∀ entry ∈ front, entry.checkpoint = checkpoint)
    (placedWhole : ∀ entry ∈ whole, entry.checkpoint = checkpoint)
    (inOrder : front.map Entry.creation <+: whole.map Entry.creation) : front <+: whole := by
  induction front generalizing earlier whole with
  | nil => exact List.nil_prefix
  | cons entry rest inductionHypothesis =>
    cases whole with
    | nil => exact absurd inOrder (by simp)
    | cons other others =>
      have sameCreation := (List.cons_prefix_cons.mp inOrder).1
      have same : entry = other := by
        rcases entry with ⟨entryPlace, entryCreation, entryId⟩
        rcases other with ⟨otherPlace, otherCreation, otherId⟩
        cases sameCreation
        have places := (placed _ List.mem_cons_self).trans (placedWhole _ List.mem_cons_self).symm
        have ids := first.1.trans second.1.symm
        cases places
        cases ids
        rfl
      subst same
      refine List.cons_prefix_cons.mpr ⟨rfl, inductionHypothesis first.2 second.2 ?_ ?_ ?_⟩
      · exact fun later member => placed later (List.mem_cons_of_mem _ member)
      · exact fun later member => placedWhole later (List.mem_cons_of_mem _ member)
      · exact (List.cons_prefix_cons.mp inOrder).2

end Outside

/-! ## Journals that fit the world -/

namespace RunContext

variable {outside : Outside} {run : RunContext} {invocation : Invocation}

theorem Journal.requested {trace : List Exchange} {entries : List Entry}
    (journal : run.Journal invocation trace entries) :
    ModelRuns.requested trace = entries.map Entry.creation := by
  rw [ModelRuns.requested, journal.created, List.map_map]
  rfl

/-- The entries of a trace were allocated in their order. -/
theorem Journal.allocated {earlier trace : List Exchange} {entries : List Entry}
    (journal : run.Journal invocation trace entries)
    (agrees : Throughout (outside.Agrees run) earlier trace) :
    outside.Allocated (ModelRuns.requested earlier) entries := by
  induction journal generalizing earlier with
  | nil => trivial
  | aside aside _ inductionHypothesis =>
    have later := inductionHypothesis agrees.2
    rw [requested_concat (created?_of_aside aside)] at later
    exact later
  | entry checkpoint creation resource sent _ inductionHypothesis =>
    refine ⟨agrees.1 resource rfl, ?_⟩
    have made : ModelRuns.requested [creating creation resource] = [creation] := rfl
    have recorded : ModelRuns.requested [run.recording checkpoint resource.id (.ok ())] = [] := rfl
    have later := inductionHypothesis agrees.2.2
    rw [requested_append, requested_append, made, recorded, List.append_nil] at later
    exact later

/-- Lines of identifiers are not refused from outside, so no trace is broken off. -/
theorem Accounts.journal_of_agrees {α : Type} {earlier trace : List Exchange}
    {outcome : Except Failure α} {entries : List Entry}
    (accounts : run.Accounts invocation trace outcome entries)
    (agrees : Throughout (outside.Agrees run) earlier trace) :
    run.Journal invocation trace entries := by
  cases accounts with
  | whole journal => exact journal
  | broken breaks =>
    rcases breaks with ⟨front, checkpoint, creation, resource, refusal, notes, rfl, _⟩
    have behind := ((Throughout.append_iff _ _ _).mp agrees).2
    have granted := behind.2.1 checkpoint rfl
    cases granted

theorem not_refused_of_undisturbed {before whole : List Exchange}
    (undisturbed : Throughout (outside.Undisturbed run) before whole) :
    ¬ ∃ exchange ∈ whole, exchange.Refused := by
  induction whole generalizing before with
  | nil => simp
  | cons exchange rest inductionHypothesis =>
    rintro ⟨other, member, refused⟩
    rcases List.mem_cons.mp member with rfl | later
    · rcases other with ⟨asked, answer⟩
      have replied : answer = outside.reply run before asked := undisturbed.1
      subst replied
      cases asked with
      | file request => cases request <;> exact refused
      | api request => cases request <;> exact refused
      | _ => exact refused
    · exact inductionHypothesis undisturbed.2 ⟨other, later, refused⟩

/-- No input or output of a run has the path of a checkpoint. -/
structure KeepsApart (run : RunContext) (invocation : Invocation) : Prop where
  log : run.OffCheckpoints run.log.path
  written : ∀ path, run.Writes invocation path → run.OffCheckpoints path
  inputs : ∀ path, run.Reads invocation path → run.OffCheckpoints path

theorem Journal.writesOff {trace : List Exchange} {entries : List Entry}
    (journal : run.Journal invocation trace entries) (apart : run.KeepsApart invocation) :
    run.WritesOff trace := by
  induction journal with
  | nil => exact fun _ _ _ member => nomatch member
  | aside aside _ inductionHypothesis =>
    intro path text answer member
    rcases List.mem_cons.mp member with rfl | later
    · exact apart.written path aside
    · exact inductionHypothesis path text answer later
  | entry checkpoint creation resource sent _ inductionHypothesis =>
    intro path text answer member
    rcases List.mem_cons.mp member with impossible | recorded
    · cases impossible
    rcases List.mem_cons.mp recorded with impossible | later
    · cases impossible
    · exact inductionHypothesis path text answer later

/-- The checkpoints of a fresh directory hold what the journal lists. -/
theorem Journal.held {earlier : List Exchange} {entries : List Entry}
    (journal : run.Journal invocation earlier entries) (apart : run.KeepsApart invocation)
    (checkpoint : Checkpoint) :
    ModelRuns.textAfter (Checkpoint.path run.paths.output checkpoint) none earlier =
      Checkpoint.recorded none (Entry.idsAt checkpoint entries) :=
  journal.textAfter apart.log (journal.writesOff apart) checkpoint none

end RunContext

/-! ## A world of numbered resources -/

theorem isHexDigit_of_mem_toDigits (number : Nat) :
    ∀ c ∈ Nat.toDigits 16 number, ResourceId.isHexDigit c = true := by
  induction number using Nat.strongRecOn with
  | ind number inductionHypothesis =>
    have digit : ∀ small < 16, ResourceId.isHexDigit (Nat.digitChar small) = true := by decide
    intro c member
    rw [Nat.toDigits_eq_if (by decide)] at member
    split at member
    next small =>
      rw [List.mem_singleton.mp member]
      exact digit number small
    next large =>
      rcases List.mem_append.mp member with front | last
      · exact inductionHypothesis (number / 16) (by omega) c front
      · rw [List.mem_singleton.mp last]
        exact digit (number % 16) (Nat.mod_lt number (by decide))

/-- The keys that a service in memory numbers its resources with are valid. -/
theorem ResourceId.valid_numberedKey (kind : ResourceKind) (number : Nat)
    (small : number < Nat.pow 16 ResourceId.keyLength) :
    (⟨kind, numberedKey number⟩ : ResourceId).Valid := by
  have length : (Nat.toDigits 16 number).length ≤ ResourceId.keyLength :=
    (Nat.length_toDigits_le_iff (by decide) (by decide)).mpr small
  constructor
  · simp only [numberedKey, String.toList_ofList, List.length_append, List.length_replicate]
    omega
  · simp only [numberedKey, String.toList_ofList, List.all_append, Bool.and_eq_true]
    constructor
    · rw [List.all_eq_true]
      intro c member
      rw [List.eq_of_mem_replicate member]
      decide
    · exact List.all_eq_true.mpr (isHexDigit_of_mem_toDigits number)

namespace Outside

/-- A service that numbers what it creates and knows every resource, and a disk
without input files. -/
def numbered : Outside where
  allocate creations :=
    ⟨(creations.getLast?.map Creation.kind).getD .source,
      numberedKey (creations.length % Nat.pow 16 ResourceId.keyLength)⟩
  kept _ id := some (Resource.finished id)
  text _ := .error (.io "no such file")
  valid _ := ResourceId.valid_numberedKey _ _ (Nat.mod_lt _ (by decide))
  lasting _ _ _ _ kept := kept

variable (outside : Outside) (run : RunContext)

/-- The answers of a service that breaks down after a number of creations. -/
def breaking (limit : Nat) (earlier : List Exchange) : (asked : Request) → asked.Answer
  | .api (.create creation) =>
    if (requested earlier).length < limit then outside.reply run earlier (.api (.create creation))
    else .error (.api "unavailable")
  | asked => outside.reply run earlier asked

variable {outside run}

theorem agrees_of_breaking {limit : Nat} {earlier : List Exchange} {exchange : Exchange}
    (answered : exchange.answer = outside.breaking run limit earlier exchange.asked) :
    outside.Agrees run earlier exchange := by
  rcases exchange with ⟨asked, answer⟩
  have replied : answer = outside.breaking run limit earlier asked := answered
  cases asked with
  | api request =>
    cases request with
    | create creation =>
      by_cases working : (requested earlier).length < limit
      · simp only [breaking, working, if_true] at replied
        exact Undisturbed.agrees replied
      · simp only [breaking, working, if_false] at replied
        subst replied
        exact fun _ impossible => nomatch impossible
    | _ => exact Undisturbed.agrees replied
  | file request => cases request <;> exact Undisturbed.agrees replied
  | _ => exact Undisturbed.agrees replied

/-! ## Attempts that can be carried out -/

/-- An attempt with a service that breaks down after a number of creations. -/
def attempt (outside : Outside) (run : RunContext) (invocation : Invocation) (resuming : Bool)
    (limit : Nat) (earlier : List Exchange) : List Exchange × Except Failure Unit × Progress :=
  ((run.runPipeline invocation).run.run (Progress.start resuming)).record
    (outside.breaking run limit) earlier

theorem goes_attempt (outside : Outside) (run : RunContext) (invocation : Invocation)
    (resuming : Bool) (limit : Nat) (earlier : List Exchange) :
    Stateful.Goes (run.runPipeline invocation) (Progress.start resuming)
      (outside.attempt run invocation resuming limit earlier).1
      (outside.attempt run invocation resuming limit earlier).2.1
      (outside.attempt run invocation resuming limit earlier).2.2 :=
  Program.runs_record (outside.breaking run limit) _ earlier

theorem agrees_attempt (outside : Outside) (run : RunContext) (invocation : Invocation)
    (resuming : Bool) (limit : Nat) (earlier : List Exchange) :
    Throughout (outside.Agrees run) earlier
      (outside.attempt run invocation resuming limit earlier).1 :=
  (Program.throughout_record (outside.breaking run limit) _ earlier).mono fun _ _ =>
    agrees_of_breaking

end Outside

/-! ## A run that finds centroids -/

/-- Options that take test data to an existing cluster. -/
def centroidOptions : CommonOptions where
  trainingSet := none
  source := none
  dataset := none
  datasets := none
  testSet := some ⟨"test.csv"⟩
  testSource := none
  testDataset := none
  testDatasets := none
  outputDirectory := some ⟨"out"⟩
  predictions := none
  resume := false
  clearLogs := false
  debug := false
  verbosity := 0
  logFile := none
  username := none
  apiKey := none
  name := "centroids"
  description := none
  tags := []
  objective := none
  publicDataset := false
  shared := false
  unshared := false
  testSplit := 0.0
  newFields := none
  multiDataset := false
  toCsv := none
  seed := none
  sampleRate := none
  remote := false
  reports := false
  upload := false

/-- Find the centroids of test data with an existing cluster.  A run of it creates a
source, a dataset and the batch of centroids. -/
def centroidInvocation : Invocation :=
  .cluster {
    common := centroidOptions
    cluster := some "cluster/5143a51a37203f2cf7000972"
    clusters := none
    clusterFile := none
    k := none
    publicCluster := false
    clusterDatasets := none }

/-- A run whose results lie beside its output directory. -/
def centroidRun : RunContext where
  log := ⟨⟨"/work/out/bigmler_sessions"⟩, false⟩
  settings := {
    baseUrl := "https://localhost"
    username := ""
    apiKey := ""
    pollIntervalMs := 0
    maxPolls := 1
    uploadUrl := none }
  paths := ⟨⟨"/work"⟩, ⟨"/work/out"⟩, ⟨"/work/centroids.csv"⟩⟩
  runId := none
  command := ""

/-- The numbered outputs of the run lie beside its output directory. -/
theorem components_centroidOutput (index : Nat) :
    ∃ name, (numberedOutput centroidRun.paths.predictions index).components =
      [.root, .name "work", .name name] := by
  have file : centroidRun.paths.predictions.fileName? = some "centroids.csv" := by decide +kernel
  have parent : centroidRun.paths.predictions.parent? = some ⟨"/work"⟩ := by decide +kernel
  have directory : (⟨"/work"⟩ : Path).components = [.root, .name "work"] := by decide +kernel
  rcases Path.components_numberedOutput file parent index with ⟨name, components⟩
  exact ⟨name, by rw [components, directory]; rfl⟩

/-- The checkpoints of the run are names in its output directory. -/
theorem centroidRun_offCheckpoints {path : Path} (components : List Component)
    (same : path.components = components)
    (apart : ∀ checkpoint : Checkpoint,
      components ≠ [.root, .name "work", .name "out", .name checkpoint.fileName]) :
    centroidRun.OffCheckpoints path := by
  intro checkpoint
  have directory : centroidRun.paths.output.components = [.root, .name "work", .name "out"] := by
    decide +kernel
  rw [Path.same, same, Checkpoint.path, Path.components_child _ checkpoint.fileName_isPlain,
    directory]
  exact beq_eq_false_iff_ne.mpr (apart checkpoint)

theorem centroidRun_keepsApart : centroidRun.KeepsApart centroidInvocation where
  log := by
    apply centroidRun_offCheckpoints [.root, .name "work", .name "out", .name "bigmler_sessions"]
    · decide +kernel
    · intro checkpoint
      cases checkpoint <;> decide
  inputs := by
    rintro path ⟨input, member, rfl⟩
    have only : input = ⟨"test.csv"⟩ := List.mem_singleton.mp member
    subst only
    apply centroidRun_offCheckpoints [.root, .name "work", .name "test.csv"]
    · decide +kernel
    · exact fun checkpoint => by simp
  written := by
    intro path written
    cases written with
    | exported _ name asked => cases asked
    | summary =>
      apply centroidRun_offCheckpoints
        [.root, .name "work", .name "out", .name "reports", .name "summary.json"]
      · decide +kernel
      · exact fun checkpoint => by simp
    | centroids options index =>
      rcases components_centroidOutput index with ⟨name, components⟩
      exact centroidRun_offCheckpoints _ components fun checkpoint => by simp

end ModelRuns
