import ModelRuns.Proofs.Invocation.Replay
import ModelRuns.Proofs.Pipeline.Obtaining
import ModelRuns.Proofs.Run.OutputDirectory

namespace ModelRuns

open Stateful

/-!
# Where the identifiers that are taken up come from

What a run and those that resume it create goes behind the text that the fresh run
kept of a checkpoint, and reading the checkpoint makes no difference between the two.
So a run that resumes takes up its own resources, except from a checkpoint that was
kept as an input: there it takes up the identifiers of the input first.
-/

/-! ## Taking up -/

/-- A run takes up identifiers from a checkpoint: as many as it obtains resources
together, or the first one for a single resource. -/
inductive TakesUp (output : Path) (checkpoint : Checkpoint) :
    List Exchange → List ResourceId → Prop
  | many {run : RunContext} {count : Nat} {before after : Progress} {trace : List Exchange}
      {ids : List ResourceId} (place : run.paths.output = output)
      (resuming : before.cursor.resuming = true)
      (goes : Goes (run.takeUp checkpoint count) before trace (.ok ids) after) :
      TakesUp output checkpoint trace ids
  | one {trace : List Exchange} {id : ResourceId}
      (yields : (Checkpoint.first? output checkpoint).Yields trace (.ok (some id))) :
      TakesUp output checkpoint trace [id]

/-- What is taken up comes first in the text of the checkpoint. -/
theorem TakesUp.of_text {output : Path} {checkpoint : Checkpoint} {files : Path → Option String}
    {earlier trace : List Exchange} {ids : List ResourceId}
    (takesUp : TakesUp output checkpoint trace ids)
    (reports : Throughout (Exchange.Reports files) earlier trace) :
    ∃ found count, Checkpoint.ofText (Checkpoint.path output checkpoint)
      ((textAfter (Checkpoint.path output checkpoint)
        (files (Checkpoint.path output checkpoint)) earlier).getD "") = .ok found ∧
      ids = found.take count := by
  cases takesUp with
  | @many run count before after _ _ place resuming goes =>
    subst place
    rcases goes_takeUp_reads centroidInvocation resuming goes with
      ⟨front, back, found, rfl, yields, rfl, _⟩
    exact ⟨found, count, (Checkpoint.yields_read yields
      ((Throughout.append_iff _ _ _).mp reports).1).symm, rfl⟩
  | one yields =>
    rcases (Action.yields_bind_iff _ _ _ _).mp yields with
      ⟨failure, _, impossible⟩ | ⟨front, back, found, rfl, reads, ends⟩
    · cases impossible
    have first := ((Action.yields_pure_iff _ _ _).mp ends).2
    refine ⟨found, 1, (Checkpoint.yields_read reads
      ((Throughout.append_iff _ _ _).mp reports).1).symm, ?_⟩
    cases found with
    | nil => cases first
    | cons id rest =>
      cases first
      rfl

/-! ## The identifiers that are taken up -/

/-- A run that resumes takes up only what was created for the checkpoint since the fresh
run began, exactly if it takes up nothing or the text that was kept there holds no
identifiers. -/
theorem takesUpOwn_iff {session : Session} {output : Path} {invocation : Invocation}
    {files : Path → Option String} {earlier trace : List Exchange} {checkpoint : Checkpoint}
    {ids : List ResourceId} (done : DoneIn session output invocation earlier)
    (takesUp : TakesUp output checkpoint trace ids)
    (reports : Throughout (Exchange.Reports files) [] (earlier ++ trace))
    (ends : Checkpoint.EndsBlank ((keptText session output invocation files checkpoint).getD ""))
    (foreign : ∀ given, Checkpoint.ofText (Checkpoint.path output checkpoint)
        ((keptText session output invocation files checkpoint).getD "") = .ok given →
      ∀ id ∈ given, ∀ made ∈ created earlier, made.2 ≠ id) :
    (∀ id ∈ ids, CreatedFor output checkpoint id earlier) ↔
      ids = [] ∨ Checkpoint.ofText (Checkpoint.path output checkpoint)
        ((keptText session output invocation files checkpoint).getD "") = .ok [] := by
  rcases (Throughout.append_iff _ _ _).mp reports with ⟨reportsEarlier, reportsTrace⟩
  rcases done.appended reportsEarlier with ⟨own, made, texts⟩
  rcases takesUp.of_text reportsTrace with ⟨found, count, read, rfl⟩
  have valid : ∀ id ∈ Entry.idsAt checkpoint own, id.Valid := by
    intro id member
    rcases Entry.mem_of_mem_idsAt member with ⟨entry, listed, _, rfl⟩
    exact (made entry listed).1
  rw [List.nil_append, texts] at read
  rcases Checkpoint.ofText_recorded read ends valid with ⟨given, kept, rfl⟩
  rw [kept]
  constructor
  · intro allOwn
    cases given with
    | nil => exact .inr rfl
    | cons id rest =>
      cases count with
      | zero => exact .inl rfl
      | succ count =>
        rcases (allOwn id List.mem_cons_self).mem_created with ⟨creation, listed⟩
        exact absurd rfl (foreign _ kept id List.mem_cons_self _ listed)
  · rintro (nothing | empty) id member
    · rw [nothing] at member
      cases member
    · cases empty
      rcases Entry.mem_of_mem_idsAt (List.mem_of_mem_take member) with ⟨entry, listed, rfl, rfl⟩
      exact (made entry listed).2

/-! ## Test data in the output directory -/

/-- Find the centroids of test data that lies in a given place. -/
def testInvocation (place : Path) : Invocation :=
  .cluster {
    common := { centroidOptions with testSet := some place }
    cluster := some "cluster/5143a51a37203f2cf7000972"
    clusters := none
    clusterFile := none
    k := none
    publicCluster := false
    clusterDatasets := none }

/-- An identifier stands where the sources of test data are recorded. -/
def testFiles (path : Path) : Option String :=
  if path = ⟨"/work/out/test_source"⟩ then some "source/00000000000000000000000a\n" else none

/-- A service that breaks down behind its first creation, and a disk with that file. -/
def testAnswer (earlier : List Exchange) : (asked : Request) → asked.Answer
  | .api request => Outside.numbered.breaking centroidRun 1 earlier (.api request)
  | asked => reportedAnswer testFiles earlier asked

theorem reports_of_testAnswer {earlier : List Exchange} {exchange : Exchange}
    (answered : exchange.answer = testAnswer earlier exchange.asked) :
    exchange.Reports testFiles earlier := by
  rcases exchange with ⟨asked, answer⟩
  cases asked with
  | api request => trivial
  | _ => exact reports_of_reportedAnswer testFiles earlier _ answered

def testSession : Session := Session.of {} ⟨"/work"⟩ .cluster

section

variable (place : Path)

/-- The output directory is made ready. -/
def testReady : List Exchange × Except Failure Unit :=
  (prepareOutput testSession (testInvocation place) false ⟨"/work/out"⟩).run.record testAnswer []

/-- The first attempt creates a source and breaks down. -/
def testAttempt : List Exchange × Except Failure Unit × Progress :=
  recorded testAnswer (centroidRun.runPipeline (testInvocation place)) (Progress.start false)
    (testReady place).1

def testEarlier : List Exchange := (testReady place).1 ++ (testAttempt place).1

/-- The next attempt takes up one source. -/
def testTaken : List Exchange × Except Failure (List ResourceId) × Progress :=
  recorded testAnswer (centroidRun.takeUp .testSource 1) (Progress.start true) (testEarlier place)

end

/-- An exchange that writes a result. -/
def Exchange.isResult : Exchange → Bool
  | ⟨.file (.write _ _), _⟩ => true
  | _ => false

theorem RunContext.writesOff_of_none {run : RunContext} {trace : List Exchange}
    (none : trace.any Exchange.isResult = false) : run.WritesOff trace :=
  fun _ _ _ member => absurd rfl (List.any_eq_false.mp none _ member)

section

variable (place : Path)

theorem doneIn_testEarlier (ready : (testReady place).2 = .ok ())
    (none : (testAttempt place).1.any Exchange.isResult = false)
    (valid : ∀ made ∈ created (testAttempt place).1, made.2.Valid) :
    DoneIn testSession ⟨"/work/out"⟩ (testInvocation place) (testEarlier place) := by
  have begun : DoneIn testSession ⟨"/work/out"⟩ (testInvocation place) ([] ++ (testReady place).1) :=
    .ready (List.forall_mem_nil _) (Action.yields_record _ _ _ ready)
  rw [List.nil_append] at begun
  exact begun.attempt ⟨centroidRun, testInvocation place, false, (testAttempt place).1, _, _, rfl,
    goes_recorded _ _ _ _ rfl, centroidRun_keepsApart.log, RunContext.writesOff_of_none none, valid⟩
    List.prefix_rfl

theorem takesUp_testTaken {ids : List ResourceId} (taken : (testTaken place).2.1 = .ok ids) :
    TakesUp ⟨"/work/out"⟩ .testSource (testTaken place).1 ids :=
  .many rfl rfl (goes_recorded _ _ _ _ taken)

theorem reports_testTaken :
    Throughout (Exchange.Reports testFiles) [] (testEarlier place ++ (testTaken place).1) := by
  rw [testEarlier, Throughout.append_iff, Throughout.append_iff]
  refine ⟨⟨?_, ?_⟩, ?_⟩
  · exact (Program.throughout_record testAnswer _ _).mono fun _ _ => reports_of_testAnswer
  · exact throughout_recorded (fun _ _ => reports_of_testAnswer) _ _ _
  · exact throughout_recorded (fun _ _ => reports_of_testAnswer) _ _ _

end

/-- With test data elsewhere the identifier that stood in the checkpoint is removed, and the
next attempt takes up the source of the first.  With test data in that place it takes up the
identifier. -/
theorem takesUpOwn_testData :
    (∀ id ∈ [⟨.source, "000000000000000000000001"⟩],
        CreatedFor ⟨"/work/out"⟩ .testSource id (testEarlier ⟨"test.csv"⟩)) ∧
      ¬∀ id ∈ [⟨.source, "00000000000000000000000a"⟩],
        CreatedFor ⟨"/work/out"⟩ .testSource id (testEarlier ⟨"out/test_source"⟩) := by
  constructor
  · have removed : keptText testSession ⟨"/work/out"⟩ (testInvocation ⟨"test.csv"⟩) testFiles
        .testSource = none := by decide +kernel
    have facts : (testReady ⟨"test.csv"⟩).2 = .ok () ∧
        (testAttempt ⟨"test.csv"⟩).1.any Exchange.isResult = false ∧
        (∀ made ∈ created (testAttempt ⟨"test.csv"⟩).1, made.2.Valid) ∧
        (testTaken ⟨"test.csv"⟩).2.1 = .ok [⟨.source, "000000000000000000000001"⟩] := by
      decide +kernel
    rcases facts with ⟨ready, none, valid, taken⟩
    refine (takesUpOwn_iff (doneIn_testEarlier _ ready none valid) (takesUp_testTaken _ taken)
      (reports_testTaken _) ?_ ?_).mpr (.inr ?_)
    · rw [removed]
      decide
    · rw [removed]
      intro given read
      cases read
      exact List.forall_mem_nil _
    · rw [removed]
      rfl
  · have kept : keptText testSession ⟨"/work/out"⟩ (testInvocation ⟨"out/test_source"⟩) testFiles
        .testSource = some "source/00000000000000000000000a\n" := by decide +kernel
    have listed : Checkpoint.ofText (Checkpoint.path ⟨"/work/out"⟩ .testSource)
        "source/00000000000000000000000a\n" = .ok [⟨.source, "00000000000000000000000a"⟩] := by
      decide +kernel
    have facts : (testReady ⟨"out/test_source"⟩).2 = .ok () ∧
        (testAttempt ⟨"out/test_source"⟩).1.any Exchange.isResult = false ∧
        (∀ made ∈ created (testAttempt ⟨"out/test_source"⟩).1, made.2.Valid) ∧
        (testTaken ⟨"out/test_source"⟩).2.1 = .ok [⟨.source, "00000000000000000000000a"⟩] ∧
        ∀ made ∈ created (testEarlier ⟨"out/test_source"⟩),
          made.2 ≠ ⟨.source, "00000000000000000000000a"⟩ := by
      decide +kernel
    rcases facts with ⟨ready, none, valid, taken, foreign⟩
    refine fun own => absurd ((takesUpOwn_iff (doneIn_testEarlier _ ready none valid)
      (takesUp_testTaken _ taken) (reports_testTaken _) ?_ ?_).mp own) ?_
    · rw [kept]
      decide +kernel
    · rw [kept]
      intro given read id member made listedMade
      cases listed.symm.trans read
      rw [List.mem_singleton.mp member]
      exact foreign made listedMade
    · rw [kept]
      rintro (impossible | nothing)
      · cases impossible
      · cases listed.symm.trans nothing

end ModelRuns
