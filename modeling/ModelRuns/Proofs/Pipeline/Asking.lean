import ModelRuns.Proofs.Pipeline.Parts
import ModelRuns.Proofs.Trace.Changes

namespace ModelRuns

open Stateful

/-!
# What a step may ask

A condition on every request of a step holds whatever it is answered, and it is carried
from the parts of a run to the stages.  Saying, looking and reading ask plain requests, which
overwrite no file and create nothing.  Most parts ask only ordinary requests: they overwrite
no file and create no result.  So for any condition that ordinary requests meet, only the ways
to obtain resources and to write results need a closer look.
-/

/-- Everything asked of the step in the course of it is allowed. -/
def Stateful.Asks {σ α : Type} (allowed : Request → Prop) (step : Stateful σ α) : Prop :=
  ∀ before trace outcome after, Goes step before trace outcome after →
    ∀ exchange ∈ trace, allowed exchange.asked

namespace Stateful.Asks

variable {α β : Type} {allowed : Request → Prop}

theorem pure (value : α) : Asks allowed (Pure.pure value : Step α) := by
  intro before trace outcome after goes
  rcases (goes_pure_iff _ _ _ _ _).mp goes with ⟨rfl, _, _⟩
  exact List.forall_mem_nil _

theorem state : Asks allowed (get : Step Progress) := by
  intro before trace outcome after goes
  rcases (goes_get_iff _ _ _ _).mp goes with ⟨rfl, _, _⟩
  exact List.forall_mem_nil _

theorem changing (change : Progress → Progress) : Asks allowed (modify change : Step Unit) := by
  intro before trace outcome after goes
  rcases (goes_modify_iff _ _ _ _ _).mp goes with ⟨rfl, _, _⟩
  exact List.forall_mem_nil _

theorem bind {step : Step β} {next : β → Step α} (first : Asks allowed step)
    (second : ∀ value, Asks allowed (next value)) : Asks allowed (step >>= next) := by
  intro before trace outcome after goes
  rcases (goes_bind_iff _ _ _ _ _ _).mp goes with
    ⟨failure, failed, _⟩ | ⟨front, back, value, middle, rfl, done, rest⟩
  · exact first _ _ _ _ failed
  · intro exchange member
    exact (List.mem_append.mp member).elim (first _ _ _ _ done exchange)
      (second value _ _ _ _ rest exchange)

theorem act {action : Action α} (asks : action.Asks allowed) :
    Asks allowed (Stateful.act action : Step α) := by
  intro before trace outcome after goes
  exact asks _ _ ((goes_act_iff _ _ _ _ _).mp goes).1

theorem ofExcept (result : Except Failure α) :
    Asks allowed (Stateful.act (Action.ofExcept result) : Step α) := act (.ofExcept result)

theorem mono {permitted : Request → Prop} {step : Step α} (asks : Asks allowed step)
    (weaker : ∀ asked, allowed asked → permitted asked) : Asks permitted step :=
  fun before trace outcome after goes exchange member =>
    weaker _ (asks before trace outcome after goes exchange member)

theorem inStage {stage : Stage} {body : Step α} (noted : ∀ event, allowed (.note event))
    (inside : Asks allowed body) : Asks allowed (inStage stage body) := by
  have notes : ∀ trace : List Exchange, (∀ exchange ∈ trace, exchange.IsNote) →
      ∀ exchange ∈ trace, allowed exchange.asked := by
    intro trace isNote exchange member
    rcases exchange with ⟨asked, answer⟩
    have recorded := isNote _ member
    cases asked with
    | note event => exact noted event
    | _ => exact absurd recorded id
  intro before trace outcome after goes
  rcases goes_inStage goes with ⟨failure, failed, _⟩ |
    ⟨entry, middle, exit, result, entered, left, rfl, entering, going, leaving⟩
  · exact notes _ (notes_enterStage failed)
  have exiting : ∀ exchange ∈ exit, exchange.IsNote := by
    cases result with
    | error failure => exact (goes_leaveStage_error leaving).1
    | ok value => exact (goes_leaveStage_ok leaving).1
  exact List.forall_mem_append.mpr ⟨notes _ (notes_enterStage entering),
    List.forall_mem_append.mpr ⟨inside _ _ _ _ going, notes _ exiting⟩⟩

theorem stageIf {due : Bool} {stage : Stage} {default : α} {body : Step α}
    (noted : ∀ event, allowed (.note event)) (inside : Asks allowed body) :
    Asks allowed (RunContext.stageIf due stage default body) := by
  cases due with
  | false => exact pure default
  | true => exact inStage noted inside

end Stateful.Asks

/-! ## Plain requests -/

/-- A request that overwrites no file and creates nothing. -/
def Request.Plain : Request → Prop
  | .file (.write _ _) => False
  | .file (.truncate _) => False
  | .file (.remove _) => False
  | .openRunLog _ _ => False
  | .api (.create _) => False
  | _ => True

/-- A plain request, or one that writes a result. -/
def Request.Saving : Request → Prop
  | .file (.write _ _) => True
  | asked => asked.Plain

theorem Request.Plain.saving {asked : Request} (plain : asked.Plain) : asked.Saving := by
  cases asked with
  | file request =>
    cases request with
    | write path text => trivial
    | _ => exact plain
  | _ => exact plain

/-- Waiting for a resource asks only for looks at it, the clock and events to record. -/
inductive Request.Polls : Request → Prop
  | get (id : ResourceId) (query : Option String) : Polls (.api (.get id query))
  | note (event : RunEvent) : Polls (.note event)
  | now : Polls .now
  | sleep (deadline : Instant) : Polls (.sleepUntil deadline)

theorem Request.Polls.plain {asked : Request} (polls : asked.Polls) : asked.Plain := by
  cases polls <;> trivial

theorem asks_poll (intervalMs : Nat) (id : ResourceId) (query : Option String)
    (looked left : Nat) : (pollResource intervalMs id query looked left).Asks Request.Polls := by
  have noting (level type : String) (payload : Fields) :
      (Action.note level type payload).Asks Request.Polls := .asking (.note _) .ok (.note _)
  induction left generalizing looked with
  | zero => exact .throw _
  | succ left inductionHypothesis =>
    refine .bind (.asking (.api (.get _ _)) (fun answer => answer) (.get _ _))
      fun resource => .ite (.bind (noting _ _ _) fun _ => .pure _)
        (.ite (.bind (noting _ _ _) fun _ => .throw _) ?_)
    refine .bind (.asking .now .ok .now) fun time => ?_
    exact .bind (.asking (.sleepUntil _) .ok (.sleep _)) fun _ => inductionHypothesis _

/-- All that is asked is plain. -/
def Stateful.Plain {α : Type} (step : Step α) : Prop := Stateful.Asks Request.Plain step

namespace Stateful.Plain

variable {α : Type} {run : RunContext} {stage : Stage}

theorem note (level type : String) (payload : Fields) :
    Plain (Stateful.act (Action.note level type payload) : Step Unit) :=
  .act (.asking (.note _) .ok trivial)

theorem say (message : String) : Plain (run.say message) := by
  refine .act (.bind (.asking .now .ok trivial) fun time => ?_)
  refine .bind (.asking (.file (.append _ _)) (fun answer => answer) trivial)
    fun _ => .ite ?_ (.pure ())
  exact .asking (.printLine _) (fun answer => answer) trivial

theorem sayAll {messages : List α} (message : α → String) :
    Plain (messages.forM fun item => run.say (message item)) := by
  induction messages with
  | nil => exact .pure ()
  | cons item rest inductionHypothesis => exact .bind (say _) fun _ => inductionHypothesis

theorem poll (intervalMs : Nat) (id : ResourceId) (query : Option String) (looked left : Nat) :
    (pollResource intervalMs id query looked left).Asks Request.Plain :=
  (asks_poll intervalMs id query looked left).mono fun _ => Request.Polls.plain

theorem await (id : ResourceId) : Plain (run.await stage id) :=
  .bind (.act (poll _ id none 0 _)) fun _ => .bind (.changing _) fun _ => .pure _

theorem awaitAll (ids : List ResourceId) : Plain (run.awaitAll stage ids) := by
  induction ids with
  | nil => exact .pure []
  | cons id rest inductionHypothesis =>
    exact .bind (await id) fun _ => .bind inductionHypothesis fun _ => .pure _

theorem resolve (reference : ResourceReference) :
    (run.policy.resolve reference none).Asks Request.Plain := by
  cases reference with
  | unresolved id => exact poll _ id none 0 _
  | resolved resource => exact .ite (.pure resource) (poll _ resource.id none 0 _)

theorem fetch (reference : ResourceReference) : Plain (run.fetch stage reference) := by
  have looks : Plain (Stateful.act (run.policy.resolve reference none) >>= fun resource =>
      RunContext.meet stage resource.id >>= fun _ => Pure.pure resource) :=
    .bind (.act (resolve reference)) fun _ => .bind (.changing _) fun _ => .pure _
  cases reference with
  | unresolved id => exact .bind (say _) fun _ => looks
  | resolved resource => exact looks

theorem fetchAll (references : List ResourceReference) :
    Plain (run.fetchAll stage references) := by
  induction references with
  | nil => exact .pure []
  | cons reference rest inductionHypothesis =>
    exact .bind (fetch reference) fun _ => .bind inductionHypothesis fun _ => .pure _

theorem readText (path : Path) : (Action.readText path).Asks Request.Plain :=
  .asking (.file (.read _)) (fun answer => answer) trivial

theorem readIds (path : Path) (kind : ResourceKind) : Plain (run.readIds path kind) :=
  .act (.bind (readText _) fun _ => .ofExcept _)

theorem readJson (path : Path) : Plain (run.readJson path) := by
  refine .act (.bind (readText _) fun text => ?_)
  cases Json.read text with
  | ok document => exact .pure document
  | error error => exact .throw _

theorem fetchNamed (kind : ResourceKind) (text : Option String) :
    Plain (run.fetchNamed stage kind text) := by
  cases text with
  | none => exact .pure []
  | some text => exact .bind (.ofExcept _) fun id => .bind (fetch _) fun _ => .pure _

theorem fetchListed (kind : ResourceKind) (path : Option Path) :
    Plain (run.fetchListed stage kind path) := by
  cases path with
  | none => exact .pure []
  | some path => exact .bind (readIds path kind) fun ids => fetchAll _

theorem fetchGiven (kind : ResourceKind) (text : Option String) (path : Option Path) :
    Plain (run.fetchGiven stage kind text path) :=
  .bind (fetchNamed kind text) fun _ => .bind (fetchListed kind path) fun _ => .pure _

theorem publish (changes : Option Json) (resources : List Resource) (message : String) :
    Plain (run.publish changes resources message) := by
  have updated (changes : Json) :
      Plain (resources.forM fun resource => RunContext.update resource changes) := by
    induction resources with
    | nil => exact .pure ()
    | cons resource rest inductionHypothesis =>
      refine .bind (.bind (note _ _ _) fun _ => .bind ?_ fun _ => .pure _)
        fun _ => inductionHypothesis
      exact .act (.asking (.api (.update _ _)) (fun answer => answer) trivial)
  cases changes with
  | none => exact .pure ()
  | some changes => exact .bind (updated changes) fun _ => say message

theorem readCheckpoint (output : Path) (checkpoint : Checkpoint) :
    (Checkpoint.read output checkpoint).Asks Request.Plain := by
  refine .bind (.asking (.file (.fileExists _)) .ok trivial) fun found => ?_
  exact .ite (.bind (readText _) fun text => .ofExcept _) (.pure [])

theorem takeUp (checkpoint : Checkpoint) (count : Nat) : Plain (run.takeUp checkpoint count) := by
  have looking : Plain (Stateful.cursor : Step Cursor) := .bind .state fun _ => .pure _
  have missing : Plain (Stateful.checkpointMissing : Step Unit) := by
    refine .bind looking fun found => ?_
    cases found.resuming with
    | false => exact .changing _
    | true => exact .bind (note _ _ _) fun _ => .changing _
  refine .bind looking fun found => ?_
  cases found.resuming with
  | false => exact .pure []
  | true =>
    refine .bind (.act (readCheckpoint _ checkpoint)) fun held => ?_
    refine .bind (sayAll fun id : ResourceId => "Reusing " ++ id.text ++ ".") fun _ => ?_
    split
    next => exact .bind missing fun _ => .pure _
    next => exact .pure _

end Stateful.Plain

namespace Stateful.Asks

variable {run : RunContext}

theorem saving {α : Type} {step : Step α} (plain : Plain step) : Asks Request.Saving step :=
  plain.mono fun _ => Request.Plain.saving

/-- Saving a resource asks for its values and writes them. -/
theorem saving_saveTo (id : ResourceId) (path : Path) :
    Asks Request.Saving (run.saveTo id path) := by
  refine bind (act (.asking (.api (.download _)) (fun answer => answer) trivial)) fun values => ?_
  exact bind (act (.asking (.file (.write _ _)) (fun answer => answer) trivial))
    fun _ => saving (Plain.say _)

theorem saving_saveNumbered (path : Path) (index : Nat) (resources : List Resource) :
    Asks Request.Saving (run.saveNumbered path index resources) := by
  induction resources generalizing index with
  | nil => exact pure ()
  | cons resource rest inductionHypothesis =>
    exact bind (saving_saveTo _ _) fun _ => inductionHypothesis _

end Stateful.Asks

/-! ## Ordinary requests -/

/-- What only the action of a run creates. -/
def ResourceKind.isResult : ResourceKind → Bool
  | .batchPrediction => true
  | .batchCentroid => true
  | .evaluation => true
  | _ => false

/-- A request that overwrites no file and creates no result. -/
def Request.Ordinary : Request → Prop
  | .file (.write _ _) => False
  | .file (.truncate _) => False
  | .file (.remove _) => False
  | .openRunLog _ _ => False
  | .api (.create creation) => creation.kind.isResult = false
  | _ => True

theorem Request.Plain.ordinary {asked : Request} (plain : asked.Plain) : asked.Ordinary := by
  cases asked with
  | api request =>
    cases request with
    | create creation => exact plain.elim
    | _ => trivial
  | file request => cases request <;> exact plain
  | _ => exact plain

/-- A request that creates nothing of a kind, or what is wanted. -/
def Request.CreatesOnly (kind : ResourceKind) (wanted : Creation → Prop) (asked : Request) :
    Prop :=
  ∀ creation, asked = .api (.create creation) → creation.kind = kind → wanted creation

theorem Request.Ordinary.createsOnly {kind : ResourceKind} (result : kind.isResult = true)
    {wanted : Creation → Prop} {asked : Request} (ordinary : asked.Ordinary) :
    asked.CreatesOnly kind wanted := by
  rintro creation rfl rfl
  rw [Ordinary, result] at ordinary
  cases ordinary

theorem MainOptions.kind_of_mem_modelCreations {options : MainOptions} {training : TrainingData}
    {creation : Creation} (member : creation ∈ options.modelCreations training) :
    creation.kind = .model := by
  unfold modelCreations at member
  split at member
  all_goals
    rcases List.mem_map.mp member with ⟨_, _, rfl⟩
    rfl

namespace Stateful.Asks

variable {run : RunContext} {allowed : Request → Prop} {stage : Stage}
  (ordinary : ∀ asked : Request, asked.Ordinary → allowed asked)

include ordinary

/-- A plain step asks only ordinary requests. -/
theorem of_plain {step : Step α} (plain : Plain step) : Asks allowed step :=
  plain.mono fun asked isPlain => ordinary asked isPlain.ordinary

theorem note (level type : String) (payload : Fields) :
    Asks allowed (Stateful.act (Action.note level type payload) : Step Unit) :=
  of_plain ordinary (.note level type payload)

theorem say (message : String) : Asks allowed (run.say message) := of_plain ordinary (.say message)

theorem sayAll {α : Type} {messages : List α} (message : α → String) :
    Asks allowed (messages.forM fun item => run.say (message item)) :=
  of_plain ordinary (.sayAll message)

theorem saySaved (what : String) (files : List Path) : Asks allowed (run.saySaved what files) :=
  sayAll ordinary fun file : Path => what ++ " saved to " ++ file.text ++ "."

/-! ## Looking -/

theorem awaitAll (ids : List ResourceId) : Asks allowed (run.awaitAll stage ids) :=
  of_plain ordinary (.awaitAll ids)

theorem fetch (reference : ResourceReference) : Asks allowed (run.fetch stage reference) :=
  of_plain ordinary (.fetch reference)

theorem fetchAll (references : List ResourceReference) :
    Asks allowed (run.fetchAll stage references) := of_plain ordinary (.fetchAll references)

/-! ## Reading -/

omit ordinary in
theorem namedId (text : String) (kind : ResourceKind) :
    Asks allowed (RunContext.namedId text kind) := ofExcept _

theorem readText (path : Path) : (Action.readText path).Asks allowed :=
  (Plain.readText path).mono fun asked plain => ordinary asked plain.ordinary

theorem readIds (path : Path) (kind : ResourceKind) : Asks allowed (run.readIds path kind) :=
  of_plain ordinary (.readIds path kind)

theorem readJson (path : Path) : Asks allowed (run.readJson path) :=
  of_plain ordinary (.readJson path)

theorem fetchGiven (kind : ResourceKind) (text : Option String) (path : Option Path) :
    Asks allowed (run.fetchGiven stage kind text path) :=
  of_plain ordinary (.fetchGiven kind text path)

/-! ## Obtaining -/

theorem takeUp (checkpoint : Checkpoint) (count : Nat) :
    Asks allowed (run.takeUp checkpoint count) := of_plain ordinary (.takeUp checkpoint count)

theorem createAll (checkpoint : Checkpoint) {creations : List Creation}
    (wanted : ∀ creation ∈ creations, allowed (.api (.create creation))) :
    Asks allowed (run.createAll stage checkpoint creations) := by
  induction creations with
  | nil => exact pure []
  | cons creation rest inductionHypothesis =>
    have created : Asks allowed (run.create stage checkpoint creation) := by
      refine bind (say ordinary _) fun _ => ?_
      refine bind (act (.asking (.api (.create _)) (fun answer => answer)
        (wanted creation List.mem_cons_self))) fun resource => ?_
      refine bind (act (.asking (.file (.append _ _)) (fun answer => answer)
        (ordinary _ trivial))) fun _ => ?_
      exact bind (note ordinary _ _ _) fun _ => bind (say ordinary _) fun _ => pure _
    have others := inductionHypothesis fun other member =>
      wanted other (List.mem_cons_of_mem _ member)
    exact bind created fun _ => bind others fun _ => pure _

theorem obtainMany (checkpoint : Checkpoint) {creations : List Creation}
    (wanted : ∀ creation ∈ creations, allowed (.api (.create creation))) :
    Asks allowed (run.obtainMany stage checkpoint creations) :=
  bind (takeUp ordinary checkpoint _) fun _ =>
    bind (createAll ordinary checkpoint fun creation member =>
      wanted creation (List.mem_of_mem_drop member)) fun _ => awaitAll ordinary _

theorem obtainOne (checkpoint : Checkpoint) {creation : Creation}
    (wanted : allowed (.api (.create creation))) :
    Asks allowed (run.obtainOne stage checkpoint creation) := by
  intro before trace outcome after goes
  exact obtainMany ordinary checkpoint (List.forall_mem_singleton.mpr wanted) _ _ _ _
    (RunContext.goes_obtainMany_of_single goes)

/-! ## Stages -/

theorem publish (changes : Option Json) (resources : List Resource) (message : String) :
    Asks allowed (run.publish changes resources message) :=
  of_plain ordinary (.publish changes resources message)

variable {common : CommonOptions}

theorem sourceStage : Asks allowed (run.sourceStage common) := by
  unfold RunContext.sourceStage
  split
  next =>
    exact bind (namedId _ _) fun id => bind (fetch ordinary _) fun _ => pure _
  next => exact pure _
  next => exact bind (obtainOne ordinary .source (ordinary _ rfl)) fun _ => pure _

theorem firstDatasets (source : Option Resource) :
    Asks allowed (run.firstDatasets common source) := by
  refine bind (fetchGiven ordinary _ _ _) fun given => ?_
  split
  next => exact bind (obtainOne ordinary .dataset (ordinary _ rfl)) fun _ => pure _
  next => exact pure _

theorem withNewFields (first : Resource) (datasets : List Resource) :
    Asks allowed (run.withNewFields common first datasets) := by
  unfold RunContext.withNewFields
  split
  next => exact pure _
  next =>
    exact bind (readJson ordinary _) fun fields =>
      bind (obtainOne ordinary .datasetGenerated (ordinary _ rfl)) fun _ => pure _

theorem merged (datasets : List Resource) : Asks allowed (run.merged common datasets) := by
  unfold RunContext.merged
  split
  next => exact bind (obtainOne ordinary .datasetMerged (ordinary _ rfl)) fun _ => pure _
  next => exact pure _

theorem split (dataset : Resource) (datasets : List Resource) :
    Asks allowed (run.split common dataset datasets) := by
  unfold RunContext.split
  split
  next =>
    exact bind (obtainOne ordinary .datasetTrain (ordinary _ rfl)) fun _ =>
      bind (obtainOne ordinary .datasetTest (ordinary _ rfl)) fun _ => pure _
  next => exact pure _

theorem divided (limit : Option CategoryLimit) (training : TrainingData) :
    Asks allowed (run.divided common limit training) := by
  unfold RunContext.divided
  split
  next =>
    refine bind (ofExcept _) fun found =>
      bind (obtainMany ordinary .categoryDatasets fun creation member => ?_) fun _ => pure _
    rcases List.mem_map.mp member with ⟨filter, _, rfl⟩
    exact ordinary _ rfl
  next => exact pure _

omit ordinary in
theorem writeResult (written : ∀ path text, allowed (.file (.write path text))) (base : Path)
    (result : Json) : (ModelRuns.writeResult base result).Asks allowed :=
  .bind (.asking (.file (.write _ _)) (fun answer => answer) (written _ _)) fun _ =>
    .bind (.asking (.file (.write _ _)) (fun answer => answer) (written _ _)) fun _ => .pure _

theorem of_saving (written : ∀ path text, allowed (.file (.write path text))) {step : Step α}
    (saves : Asks Request.Saving step) : Asks allowed step := by
  refine saves.mono fun asked saving => ?_
  cases asked with
  | file request =>
    cases request with
    | write path text => exact written path text
    | _ => exact ordinary _ (Request.Plain.ordinary saving)
  | _ => exact ordinary _ (Request.Plain.ordinary saving)

theorem saveTo (written : ∀ path text, allowed (.file (.write path text))) (id : ResourceId)
    (path : Path) : Asks allowed (run.saveTo id path) :=
  of_saving ordinary written (saving_saveTo id path)

theorem saveNumbered (written : ∀ path text, allowed (.file (.write path text))) (path : Path)
    (index : Nat) (resources : List Resource) :
    Asks allowed (run.saveNumbered path index resources) :=
  of_saving ordinary written (saving_saveNumbered path index resources)

theorem datasetStage (written : ∀ path text, allowed (.file (.write path text)))
    (source : Option Resource) (limit : Option CategoryLimit) :
    Asks allowed (run.datasetStage common source limit) := by
  have exported (dataset : Resource) : Asks allowed (run.exportDataset common dataset) := by
    unfold RunContext.exportDataset
    split
    next => exact pure ()
    next => exact saveTo ordinary written _ _
  refine bind (firstDatasets ordinary source) fun given => ?_
  split
  next => exact pure _
  next =>
    refine bind (withNewFields ordinary _ _) fun extended =>
      bind (merged ordinary _) fun datasets =>
      bind (publish ordinary _ _ _) fun _ => ?_
    split
    next => exact pure _
    next =>
      exact bind (exported _) fun _ => bind (split ordinary _ _) fun _ => divided ordinary _ _

theorem reportStage (written : ∀ path text, allowed (.file (.write path text))) :
    Asks allowed (run.reportStage common) := by
  have raw (text : String) : (run.log.raw text).Asks allowed :=
    .asking (.file (.append _ _)) (fun answer => answer) (ordinary _ trivial)
  have named (names : List String) : (logNames run.log names).Asks allowed := by
    induction names with
    | nil => exact .pure ()
    | cons name names inductionHypothesis => exact .bind (raw _) fun _ => inductionHypothesis
  have listing : (listGenerated run.log run.paths.output).Asks allowed := by
    refine .bind (.asking (.file (.list _)) (fun answer => answer) (ordinary _ trivial))
      fun files => ?_
    exact .bind (raw _) fun _ => .bind (raw _) fun _ => .bind (named _) fun _ => .pure _
  have summarizing (summary : RunSummary) :
      (writeSummary run.paths.output summary).Asks allowed := by
    refine .bind (.asking (.file (.makeDirectory _)) (fun answer => answer) (ordinary _ trivial))
      fun _ => ?_
    exact .bind (.asking (.file (.write _ _)) (fun answer => answer) (written _ _)) fun _ => .pure _
  have uploading (summary : RunSummary) :
      (uploadSummary run.settings.uploadUrl summary).Asks allowed := by
    unfold uploadSummary
    split
    next => exact .throw _
    next =>
      refine .bind (.asking (.api (.uploadReport _ _)) (fun answer => answer) (ordinary _ trivial))
        fun location => ?_
      exact .bind (.asking (.note _) .ok (ordinary _ trivial)) fun _ => .pure _
  refine bind (act listing) fun files => ?_
  split
  next =>
    refine bind state fun progress => bind (act (summarizing _)) fun path =>
      bind (say ordinary _) fun _ => ?_
    split
    next => exact bind (act (uploading _)) fun location => say ordinary _
    next => exact pure ()
  next => exact pure ()

theorem testSource : Asks allowed (run.testSource common) := by
  unfold RunContext.testSource
  split
  next =>
    exact bind (namedId _ _) fun id => bind (fetch ordinary _) fun _ => pure _
  next => exact pure _
  next => exact bind (obtainOne ordinary .testSource (ordinary _ rfl)) fun _ => pure _

theorem testDataStage (training : TrainingData) :
    Asks allowed (run.testDataStage common training) := by
  unfold RunContext.testDataStage
  split
  next => exact pure _
  next =>
    refine bind (fetchGiven ordinary _ _ _) fun given => ?_
    split
    next =>
      refine bind (testSource ordinary) fun source => ?_
      split
      next => exact pure _
      next => exact bind (obtainOne ordinary .testDataset (ordinary _ rfl)) fun _ => pure _
    next => exact pure _

variable {options : MainOptions}

theorem modelStage (training : TrainingData) : Asks allowed (run.modelStage options training) := by
  have built : Asks allowed (run.buildPredictor options training) := by
    unfold RunContext.buildPredictor
    split
    next => exact bind (obtainOne ordinary .ensembles (ordinary _ rfl)) fun _ => pure _
    next =>
      refine bind (obtainMany ordinary .models fun creation member => ordinary _ ?_) fun _ => pure _
      rw [Request.Ordinary, MainOptions.kind_of_mem_modelCreations member]
      rfl
  unfold RunContext.modelStage
  split
  next =>
    exact bind (namedId _ _) fun id => bind (fetch ordinary _) fun _ => pure _
  next =>
    refine bind (fetchGiven ordinary _ _ _) fun given => ?_
    split
    next =>
      split
      next => exact pure _
      next =>
        refine bind built fun predictor => bind (publish ordinary _ _ _) fun _ => ?_
        split
        next => exact bind (say ordinary _) fun _ => pure _
        next => exact pure _
    next => exact pure _

theorem clusterStage {options : ClusterOptions} (training : TrainingData) :
    Asks allowed (run.clusterStage options training) := by
  have fromFile : Asks allowed (run.readCluster options.clusterFile) := by
    unfold RunContext.readCluster
    split
    next => exact pure _
    next =>
      refine act (.bind (readText ordinary _) fun text => ?_)
      split
      next => exact .throw _
      next => exact .bind (.ofExcept _) fun _ => .pure _
  have named : Asks allowed (RunContext.namedCluster options.cluster) := by
    unfold RunContext.namedCluster
    split
    next => exact pure _
    next => exact bind (namedId _ _) fun _ => pure _
  have listed : Asks allowed (run.listedClusters options.clusters) := by
    unfold RunContext.listedClusters
    split
    next => exact pure _
    next => exact bind (readIds ordinary _ _) fun _ => pure _
  refine bind fromFile fun _ => bind named fun _ => bind listed fun _ => ?_
  split
  next =>
    split
    next => exact pure _
    next =>
      exact bind (obtainOne ordinary .clusters (ordinary _ rfl)) fun _ =>
        bind (publish ordinary _ _ _) fun _ => pure _
  next => exact fetchAll ordinary _

theorem centroidDatasets (cluster : Resource) (names : List String) :
    Asks allowed (run.centroidDatasets cluster names) := by
  unfold RunContext.centroidDatasets
  split
  next => exact say ordinary _
  next =>
    refine bind (fetchAll ordinary _) fun _ => ?_
    split
    next => exact pure ()
    next =>
      refine bind (obtainMany ordinary .clusterDatasets fun creation member => ?_) fun _ => pure ()
      rcases List.mem_map.mp member with ⟨centroid, _, rfl⟩
      exact ordinary _ rfl

end Stateful.Asks

end ModelRuns
