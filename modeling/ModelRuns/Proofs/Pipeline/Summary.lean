import ModelRuns.Proofs.Pipeline.Account
import ModelRuns.Proofs.Pipeline.Samples
import ModelRuns.Proofs.Run.Report

namespace ModelRuns

open Stateful

/-!
# The summary accounts for every resource

A run that is asked for a report sums up the resources that its stages have met, and these
account for its trace.  An attempt that takes up a broken one sees only a part of the creations
and looks at the rest, but it has met the same resources in the end: it is abreast of the
undisturbed run.
-/

/-! ## The last stage -/

theorem Exchange.IsNote.ordinary {exchange : Exchange} (isNote : exchange.IsNote) :
    exchange.asked.Ordinary := by
  rcases exchange with ⟨asked, answer⟩
  cases asked with
  | note event => trivial
  | _ => exact isNote.elim

namespace RunContext

variable {run : RunContext} {invocation : Invocation} {α β : Type}

/-- The file of the summary. -/
def summaryPath (run : RunContext) : Path :=
  (run.paths.output.child reportsDirectory).child summaryFile

/-- A run writes a summary with these resources, overwrites no file behind that, and uploads the
same summary if it is asked to. -/
def Reports (run : RunContext) (common : CommonOptions) (trace : List Exchange)
    (resources : List (String × List String)) : Prop :=
  ∃ summary : RunSummary, ∃ front back, summary.resources = resources ∧
    trace = front ++
      ⟨.file (.write run.summaryPath (prettyRecord summary.parts)), .ok ()⟩ :: back ∧
    (∀ exchange ∈ back, exchange.asked.Ordinary) ∧
    (common.upload = true → ∃ url location,
      (⟨.api (.uploadReport url summary.toJson), .ok location⟩ : Exchange) ∈ back)

theorem Reports.inside {common : CommonOptions} {trace : List Exchange}
    {resources : List (String × List String)} (reports : run.Reports common trace resources)
    (front : List Exchange) {back : List Exchange}
    (ordinary : ∀ exchange ∈ back, exchange.asked.Ordinary) :
    run.Reports common (front ++ (trace ++ back)) resources := by
  rcases reports with ⟨summary, before, behind, same, rfl, ordinaryBehind, uploads⟩
  refine ⟨summary, front ++ before, behind ++ back, same, ?_,
    List.forall_mem_append.mpr ⟨ordinaryBehind, ordinary⟩, fun asked => ?_⟩
  · simp only [List.append_assoc, List.cons_append]
  · rcases uploads asked with ⟨url, location, member⟩
    exact ⟨url, location, List.mem_append_left _ member⟩

/-- A reader of the report finds these resources, under their stages in some order: in the file,
which is not overwritten, and in the document that is uploaded. -/
def TellsReaders (run : RunContext) (common : CommonOptions) (trace : List Exchange)
    (resources : List (String × List String)) : Prop :=
  ∃ text document summary front back,
    trace = front ++ ⟨.file (.write run.summaryPath text), .ok ()⟩ :: back ∧
    (∀ exchange ∈ back, exchange.asked.Ordinary) ∧
    (common.upload = true → ∃ url location,
      (⟨.api (.uploadReport url document), .ok location⟩ : Exchange) ∈ back) ∧
    Json.read text = .ok document ∧ RunSummary.ofJson? document = some summary ∧
    summary.resources.Perm resources

theorem Reports.tellsReaders {common : CommonOptions} {trace : List Exchange}
    {resources : List (String × List String)} (distinct : (resources.map Prod.fst).Nodup)
    (reports : run.Reports common trace resources) : run.TellsReaders common trace resources := by
  rcases reports with ⟨summary, front, back, rfl, whole, ordinary, uploads⟩
  rcases summary.ofJson?_toJson distinct with ⟨found, arranged, read⟩
  exact ⟨_, _, _, front, back, whole, ordinary, uploads, summary.read_written, read, arranged⟩

/-- A step that succeeds ends with another one. -/
def EndsWith (last step : Step α) : Prop :=
  ∀ before trace value after, Goes step before trace (.ok value) after →
    ∃ front back middle, trace = front ++ back ∧ Goes last middle back (.ok value) after

theorem EndsWith.refl (step : Step α) : EndsWith step step :=
  fun before trace _ _ goes => ⟨[], trace, before, rfl, goes⟩

theorem EndsWith.bind {last : Step α} {step : Step β} {next : β → Step α}
    (ends : ∀ value, EndsWith last (next value)) : EndsWith last (step >>= next) := by
  intro before trace value after goes
  rcases goes_bind_ok goes with ⟨first, _, found, _, rfl, _, rest⟩
  rcases ends found _ _ _ _ rest with ⟨front, back, middle, rfl, reached⟩
  exact ⟨first ++ front, back, middle, (List.append_assoc _ _ _).symm, reached⟩

/-- A run ends with its report. -/
theorem endsWith_reportStage :
    EndsWith (Stateful.inStage .report (run.reportStage invocation.common))
      (run.runPipeline invocation) := by
  cases invocation with
  | main options =>
    exact .bind fun _ => .bind fun _ => .bind fun _ => .bind fun _ => .bind fun _ => .refl _
  | cluster options =>
    exact .bind fun _ => .bind fun _ => .bind fun _ => .bind fun _ => .bind fun _ => .refl _

theorem goes_say {message : String} {before after : Progress} {trace : List Exchange}
    {outcome : Except Failure Unit} (goes : Goes (run.say message) before trace outcome after) :
    after = before ∧ ∀ exchange ∈ trace, exchange.asked.Ordinary :=
  ⟨((goes_act_iff _ _ _ _ _).mp goes).2, Asks.say (fun _ => id) message _ _ _ _ goes⟩

theorem goes_writeSummary {summary : RunSummary} {before after : Progress} {trace : List Exchange}
    {path : Path}
    (goes : Goes (Stateful.act (writeSummary run.paths.output summary)) before trace (.ok path)
      after) :
    after = before ∧ ∃ making, trace =
      making ++ [⟨.file (.write run.summaryPath (prettyRecord summary.parts)), .ok ()⟩] := by
  rcases (goes_act_iff _ _ _ _ _).mp goes with ⟨yields, rfl⟩
  rcases Action.yields_bind_ok yields with ⟨making, _, _, rfl, _, rest⟩
  rcases Action.yields_bind_ok rest with ⟨writing, _, _, rfl, writes, ended⟩
  rcases (Action.yields_asking_iff _ _ _ _).mp writes with ⟨answer, rfl, answered⟩
  rcases (Action.yields_pure_iff _ _ _).mp ended with ⟨rfl, _⟩
  cases answered
  exact ⟨rfl, making, rfl⟩

theorem goes_uploadSummary {summary : RunSummary} {before after : Progress}
    {trace : List Exchange} {location : String}
    (goes : Goes (Stateful.act (uploadSummary run.settings.uploadUrl summary)) before trace
      (.ok location) after) :
    after = before ∧ (∀ exchange ∈ trace, exchange.asked.Ordinary) ∧ ∃ url,
      (⟨.api (.uploadReport url summary.toJson), .ok location⟩ : Exchange) ∈ trace := by
  rcases (goes_act_iff _ _ _ _ _).mp goes with ⟨yields, rfl⟩
  cases given : run.settings.uploadUrl with
  | none =>
    rw [given] at yields
    rcases (Action.yields_throw_iff _ _ _).mp yields with ⟨_, impossible⟩
    cases impossible
  | some url =>
    rw [given] at yields
    rcases Action.yields_bind_ok yields with ⟨uploading, _, found, rfl, uploads, rest⟩
    rcases Action.yields_bind_ok rest with ⟨noting, _, _, rfl, notes, ended⟩
    rcases (Action.yields_asking_iff _ _ _ _).mp uploads with ⟨answer, rfl, answered⟩
    rcases (Action.yields_asking_iff _ _ _ _).mp notes with ⟨_, rfl, _⟩
    rcases (Action.yields_pure_iff _ _ _).mp ended with ⟨rfl, same⟩
    cases same
    cases answered
    refine ⟨rfl, ?_, url, List.mem_cons_self⟩
    exact List.forall_mem_cons.mpr ⟨trivial, List.forall_mem_singleton.mpr trivial⟩

/-- The end of the last stage, where the summary is uploaded if it is to be. -/
theorem goes_uploadIf {upload : Bool} {summary : RunSummary} {before after : Progress}
    {trace : List Exchange}
    (goes : Goes (if upload = true then
        Stateful.act (uploadSummary run.settings.uploadUrl summary) >>= fun location =>
          run.say ("Report uploaded to " ++ location ++ ".")
      else pure ()) before trace (.ok ()) after) :
    after = before ∧ (∀ exchange ∈ trace, exchange.asked.Ordinary) ∧
      (upload = true → ∃ url location,
        (⟨.api (.uploadReport url summary.toJson), .ok location⟩ : Exchange) ∈ trace) := by
  cases upload with
  | false =>
    rcases (goes_pure_iff _ _ _ _ _).mp goes with ⟨rfl, _, rfl⟩
    exact ⟨rfl, List.forall_mem_nil _, nofun⟩
  | true =>
    rcases goes_bind_ok goes with ⟨_, _, location, _, rfl, uploads, tells⟩
    rcases goes_uploadSummary uploads with ⟨rfl, ordinary, url, member⟩
    rcases goes_say tells with ⟨rfl, ordinaryLast⟩
    exact ⟨rfl, List.forall_mem_append.mpr ⟨ordinary, ordinaryLast⟩,
      fun _ => ⟨url, location, List.mem_append_left _ member⟩⟩

/-- The last stage changes nothing, and reports what was met. -/
theorem reports_of_reportStage {common : CommonOptions}
    (asked : common.reports = true ∨ common.upload = true) {before after : Progress}
    {trace : List Exchange}
    (goes : Goes (run.reportStage common) before trace (.ok ()) after) :
    after = before ∧ run.Reports common trace before.resources := by
  have due : (common.reports || common.upload) = true := by simpa using asked
  rcases goes_bind_ok goes with ⟨listing, _, files, _, rfl, lists, reporting⟩
  rcases (goes_act_iff _ _ _ _ _).mp lists with ⟨_, rfl⟩
  rw [if_pos due] at reporting
  rcases goes_bind_ok reporting with ⟨_, _, found, _, rfl, gets, writing⟩
  rcases (goes_get_iff _ _ _ _).mp gets with ⟨rfl, same, rfl⟩
  cases same
  rcases goes_bind_ok writing with ⟨_, _, path, _, rfl, writes, telling⟩
  rcases goes_writeSummary writes with ⟨rfl, making, rfl⟩
  rcases goes_bind_ok telling with ⟨saying, back, _, here, rfl, tells, rest⟩
  rcases goes_say tells with ⟨rfl, ordinary⟩
  rcases goes_uploadIf rest with ⟨rfl, ordinaryLast, uploads⟩
  refine ⟨rfl, run.summary after files, listing ++ making, saying ++ back, rfl, ?_,
    List.forall_mem_append.mpr ⟨ordinary, ordinaryLast⟩, fun upload => ?_⟩
  · simp only [List.append_assoc, List.cons_append, List.nil_append]
  · rcases uploads upload with ⟨url, location, member⟩
    exact ⟨url, location, List.mem_append_right _ member⟩

/-- A run that is asked for a report and succeeds reports what it has met. -/
theorem reports_of_goes
    (asked : invocation.common.reports = true ∨ invocation.common.upload = true)
    {resuming : Bool} {trace : List Exchange} {after : Progress}
    (goes : Goes (run.runPipeline invocation) (Progress.start resuming) trace (.ok ()) after) :
    run.Reports invocation.common trace after.resources := by
  rcases endsWith_reportStage _ _ _ _ goes with ⟨front, _, middle, rfl, reporting⟩
  rcases goes_inStage_ok reporting with
    ⟨entry, inside, exit, entered, left, rfl, _, going, leaving⟩
  rcases reports_of_reportStage asked going with ⟨rfl, reports⟩
  rw [Progress.resources_of_met (met_of_leaveStage leaving), ← List.append_assoc]
  exact reports.inside _ fun exchange member =>
    ((goes_leaveStage_ok leaving).1 exchange member).ordinary

/-- The report of a run tells its readers what the run has met. -/
theorem tellsReaders_of_goes
    (asked : invocation.common.reports = true ∨ invocation.common.upload = true)
    {resuming : Bool} {trace : List Exchange} {after : Progress}
    (goes : Goes (run.runPipeline invocation) (Progress.start resuming) trace (.ok ()) after) :
    run.TellsReaders invocation.common trace after.resources :=
  (reports_of_goes asked goes).tellsReaders after.nodup_stages

end RunContext

/-! ## Runs that are taken up -/

/-- An attempt that succeeds: the first one, or one that takes up what earlier attempts left. -/
inductive Outside.Completes (outside : Outside) (run : RunContext) (invocation : Invocation)
    (trace : List Exchange) (after : Progress) : Prop
  | first (goes : Goes (run.runPipeline invocation) (Progress.start false) trace (.ok ()) after)
      (agrees : Throughout (outside.Agrees run) [] trace)
  | again {succeeded : Bool} {earlier : List Exchange}
      (attempts : outside.Attempts run invocation succeeded earlier)
      (goes : Goes (run.runPipeline invocation) (Progress.start true) trace (.ok ()) after)
      (agrees : Throughout (outside.Agrees run) earlier trace)

namespace Outside.Completes

variable {outside : Outside} {run : RunContext} {invocation : Invocation} {trace : List Exchange}
  {after : Progress}

theorem goes (completes : outside.Completes run invocation trace after) :
    ∃ resuming,
      Goes (run.runPipeline invocation) (Progress.start resuming) trace (.ok ()) after := by
  cases completes with
  | first goes _ => exact ⟨false, goes⟩
  | again _ goes _ => exact ⟨true, goes⟩

/-- An attempt that succeeds ends abreast of the undisturbed run, which succeeds as well. -/
theorem abreast {done : List Entry} {last : Progress} {result : Except Failure Unit}
    (keepsUp : run.KeepsUp invocation outside Eq (run.runPipeline invocation) [] done
      (Progress.start false) last result)
    (completes : outside.Completes run invocation trace after) :
    result = .ok () ∧ Abreast after last := by
  cases completes with
  | first goes agrees =>
    rcases keepsUp.first goes agrees with ⟨_, _, follows⟩
    cases follows with
    | done same _ abreast _ _ => exact ⟨same, abreast⟩
  | again attempts goes agrees =>
    rcases attempts.reached keepsUp with ⟨held, journal, agreed, reached⟩
    rcases keepsUp.again journal agreed reached.inside goes agrees with ⟨_, _, follows⟩
    cases follows with
    | done same _ abreast _ _ => exact ⟨same, abreast⟩

end Outside.Completes

/-- The summary accounts for every resource.  A run that is asked for a report and succeeds
reports, for each stage, exactly what was found finished while that was in progress, and
whatever it created is there once.  However often it was broken off and taken up before, it
reports the same as the run that was never disturbed. -/
theorem summary_accountsFor (run : RunContext) (invocation : Invocation)
    (asked : invocation.common.reports = true ∨ invocation.common.upload = true) :
    (∀ resuming trace after,
      Goes (run.runPipeline invocation) (Progress.start resuming) trace (.ok ()) after →
      (∀ exchange ∈ trace, exchange.Faithful) →
        run.Reports invocation.common trace after.resources ∧
          run.AccountsFor invocation trace after.resources) ∧
    ∀ outside : Outside, run.KeepsApart invocation →
      ∃ whole result last,
        Goes (run.runPipeline invocation) (Progress.start false) whole result last ∧
        Throughout (outside.Undisturbed run) [] whole ∧
        ∀ trace after, outside.Completes run invocation trace after →
          result = .ok () ∧ after.resources = last.resources ∧
            run.Reports invocation.common trace after.resources ∧
            run.Reports invocation.common whole last.resources := by
  constructor
  · intro resuming trace after goes faithful
    exact ⟨RunContext.reports_of_goes asked goes, RunContext.accountsFor_of_goes goes faithful⟩
  · intro outside apart
    rcases outside.exists_keepsUp run invocation apart with
      ⟨whole, result, last, _, goesWhole, undisturbed, _, keepsUp⟩
    refine ⟨whole, result, last, goesWhole, undisturbed, fun trace after completes => ?_⟩
    rcases completes.abreast keepsUp with ⟨rfl, abreast⟩
    rcases completes.goes with ⟨resuming, goes⟩
    exact ⟨rfl, Progress.resources_of_met abreast.met, RunContext.reports_of_goes asked goes,
      RunContext.reports_of_goes asked goesWhole⟩

/-- Find the centroids of test data, and report what was worked with. -/
def reportedCentroids : Invocation :=
  .cluster {
    common := { centroidOptions with reports := true }
    cluster := some "cluster/5143a51a37203f2cf7000972"
    clusters := none
    clusterFile := none
    k := none
    publicCluster := false
    clusterDatasets := none }

theorem reportedCentroids_keepsApart : centroidRun.KeepsApart reportedCentroids where
  log := centroidRun_keepsApart.log
  inputs := centroidRun_keepsApart.inputs
  written := by
    intro path written
    cases written with
    | exported _ name asked => cases asked
    | summary => exact centroidRun_keepsApart.written _ (.summary _)
    | centroids options index => exact centroidRun_keepsApart.written _ (.centroids _ index)

/-- An attempt that breaks down behind the source. -/
def brokenCentroids : List Exchange × Except Failure Unit × Progress :=
  Outside.numbered.attempt centroidRun reportedCentroids false 1 []

/-- An attempt that takes this up. -/
def takenUpCentroids : List Exchange × Except Failure Unit × Progress :=
  Outside.numbered.attempt centroidRun reportedCentroids true 3 brokenCentroids.1

theorem takenUpCentroids_facts :
    takenUpCentroids.2.1 = .ok () ∧ (created takenUpCentroids.1).length = 2 ∧
      takenUpCentroids.2.2.resources =
        [("model", ["cluster/5143a51a37203f2cf7000972"]),
          ("test_data", ["source/000000000000000000000001", "dataset/000000000000000000000002"]),
          ("action", ["batchcentroid/000000000000000000000003"])] := by
  decide +kernel

theorem completes_takenUpCentroids :
    Outside.numbered.Completes centroidRun reportedCentroids takenUpCentroids.1
      takenUpCentroids.2.2 := by
  have broken : Outside.numbered.Attempts centroidRun reportedCentroids false brokenCentroids.1 :=
    Outside.attempts_first 1 (by decide +kernel)
  have goes := Outside.goes_attempt Outside.numbered centroidRun reportedCentroids true 3
    brokenCentroids.1
  exact .again broken (takenUpCentroids_facts.1 ▸ goes) (Outside.agrees_attempt _ _ _ _ _ _)

/-- The attempt creates two resources and looks at the third, which is from the broken one.  It
reports all of them, as the undisturbed run does. -/
theorem summary_accountsFor_centroids :
    (created takenUpCentroids.1).length = 2 ∧
      takenUpCentroids.2.2.resources =
        [("model", ["cluster/5143a51a37203f2cf7000972"]),
          ("test_data", ["source/000000000000000000000001", "dataset/000000000000000000000002"]),
          ("action", ["batchcentroid/000000000000000000000003"])] ∧
      centroidRun.AccountsFor reportedCentroids takenUpCentroids.1
        takenUpCentroids.2.2.resources ∧
      centroidRun.Reports reportedCentroids.common takenUpCentroids.1
        takenUpCentroids.2.2.resources ∧
      ∃ whole last,
        Goes (centroidRun.runPipeline reportedCentroids) (Progress.start false) whole (.ok ())
          last ∧
        Throughout (Outside.numbered.Undisturbed centroidRun) [] whole ∧
        centroidRun.Reports reportedCentroids.common whole takenUpCentroids.2.2.resources := by
  rcases summary_accountsFor centroidRun reportedCentroids (.inl rfl) with ⟨each, completed⟩
  rcases completed Outside.numbered reportedCentroids_keepsApart with
    ⟨whole, result, last, goesWhole, undisturbed, completed⟩
  rcases completed _ _ completes_takenUpCentroids with ⟨rfl, same, reports, reportsWhole⟩
  have identified : Outside.numbered.Identified := by
    rintro creations id stored ⟨⟩
    rfl
  rcases completes_takenUpCentroids.goes with ⟨resuming, goes⟩
  have faithful : ∀ exchange ∈ takenUpCentroids.1, exchange.Faithful :=
    (Outside.agrees_attempt _ _ _ _ _ _).forall_mem identified.faithful
  have accounts := (each resuming _ _ goes faithful).2
  rw [← same] at reportsWhole
  exact ⟨takenUpCentroids_facts.2.1, takenUpCentroids_facts.2.2, accounts, reports, whole, last,
    goesWhole, undisturbed, reportsWhole⟩

end ModelRuns
