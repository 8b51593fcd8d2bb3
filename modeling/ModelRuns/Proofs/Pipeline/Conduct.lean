import ModelRuns.Proofs.Pipeline.Uncalled
import ModelRuns.Proofs.Resource.Looks

namespace ModelRuns

open Stateful

/-!
# How the body of a stage goes

The body of a stage asks one request after the other.  It stops at the first that is
refused and hands on that failure, or at the first check that fails, and it works with
resources only once they are ready.  None of this depends on what the service and the disk
answer.

`RunContext.Ensures` says so of a step behind given exchanges, with what is known of its
value.  What is known only grows with the exchanges, so the steps of a body are put
together by `Ensures.bind`, and the facts about earlier values are carried along.

A check that fails is described with its moment: what was asked last, or in which stage the
run is and that it called nothing there, or which step was just taken.
-/

/-! ## Failures -/

/-- The failure that an answer brings.  A look at a failed job brings one, too. -/
def Exchange.failure? : Exchange → Option Failure
  | ⟨.file (.read _), .error failure⟩ => some failure
  | ⟨.file (.write _ _), .error failure⟩ => some failure
  | ⟨.file (.append _ _), .error failure⟩ => some failure
  | ⟨.file (.truncate _), .error failure⟩ => some failure
  | ⟨.file (.makeDirectory _), .error failure⟩ => some failure
  | ⟨.file (.remove _), .error failure⟩ => some failure
  | ⟨.file (.list _), .error failure⟩ => some failure
  | ⟨.api (.create _), .error failure⟩ => some failure
  | ⟨.api (.get _ _), .error failure⟩ => some failure
  | ⟨.api (.get id _), .ok resource⟩ =>
    if resource.status.isFailed then some (.remote id.text resource.status.failureText) else none
  | ⟨.api (.update _ _), .error failure⟩ => some failure
  | ⟨.api (.download _), .error failure⟩ => some failure
  | ⟨.api (.uploadReport _ _), .error failure⟩ => some failure
  | ⟨.connect _, .error failure⟩ => some failure
  | ⟨.printLine _, .error failure⟩ => some failure
  | ⟨.printErrorLine _, .error failure⟩ => some failure
  | ⟨.openRunLog _ _, .error failure⟩ => some failure
  | _ => none

/-- A call may be refused with any failure. -/
theorem Request.IsCall.refused {asked : Request} (called : asked.IsCall) (failure : Failure) :
    ∃ answer, Exchange.failure? ⟨asked, answer⟩ = some failure := by
  cases asked with
  | api request => cases request <;> exact ⟨.error failure, rfl⟩
  | _ => cases called

/-- There are other failures than a given one. -/
theorem Failure.exists_ne (failure : Failure) : ∃ other, other ≠ failure := by
  by_cases first : failure = .timeout ""
  · exact ⟨.api "", by rw [first]; nofun⟩
  · exact ⟨.timeout "", Ne.symm first⟩

/-- The failure of an outcome. -/
def failureOf {α : Type} : Except Failure α → Option Failure
  | .ok _ => none
  | .error failure => some failure

theorem ResourceStatus.not_isFailed_of_isFinished {status : ResourceStatus}
    (finished : status.isFinished = true) : status.isFailed = false := by
  have code : status.code = finishedCode := by simpa [isFinished] using finished
  rw [isFailed, code]
  decide

/-- A look at a job that has not failed brings no failure. -/
theorem Exchange.failure?_look {id : ResourceId} {query : Option String} {resource : Resource}
    (unfailed : resource.status.isFailed = false) :
    failure? ⟨.api (.get id query), .ok resource⟩ = none := if_neg (by rw [unfailed]; decide)

/-! ## Moves of stages -/

/-- The move that an exchange records. -/
def Exchange.move? : Exchange → Option Move
  | ⟨.note event, _⟩ =>
    if event.type = moveType then do
      let stage ← ((event.payload.field? "stage").bind Json.text?).bind Stage.ofText?
      let current ← ((event.payload.field? "from").bind Json.text?).bind StageState.ofText?
      let next ← ((event.payload.field? "to").bind Json.text?).bind StageState.ofText?
      return ⟨stage, current, next⟩
    else none
  | _ => none

theorem Stage.ofText?_text (stage : Stage) : ofText? stage.text = some stage := by
  cases stage <;> rfl

theorem StageState.ofText?_text (state : StageState) : ofText? state.text = some state := by
  cases state <;> rfl

theorem Move.payload_event (move : Move) : move.event.payload =
    .object [("from", .text move.current.text), ("stage", .text move.stage.text),
      ("to", .text move.next.text)] := by
  simp only [Move.event, Json.ofFields, orderFields, mergeFields, List.foldl_cons, List.foldl_nil,
    setField, String.reduceEq, String.reduceLT, if_false, if_true]

@[simp] theorem Move.move?_recording (move : Move) : move.recording.move? = some move := by
  have type : move.event.type = moveType := rfl
  simp [recording, Exchange.move?, type, payload_event, Json.field?, getField?, Json.text?,
    Stage.ofText?_text, StageState.ofText?_text]

theorem Exchange.move?_of_type_ne {type : String} (other : type ≠ moveType) (level : String)
    (payload : Json) : Exchange.move? ⟨.note ⟨level, type, payload⟩, ()⟩ = none := if_neg other

/-! ## Resources that are ready -/

def Origin.ids : Origin → List ResourceId
  | .localFile _ => []
  | .resource id => [id]
  | .resources ids => ids
  | .pair first second => [first, second]

/-- The resources that a request builds on, changes or downloads. -/
def Request.uses : Request → List ResourceId
  | .api (.create creation) => creation.origin.ids
  | .api (.update id _) => [id]
  | .api (.download id) => [id]
  | _ => []

/-- What is known of a value is known of it later. -/
def Lasting {α : Type} (good : List Exchange → α → Prop) : Prop :=
  ∀ ⦃earlier later value⦄, earlier <+: later → good earlier value → good later value

/-- A look found the resource, and its job finished. -/
def Got (earlier : List Exchange) (resource : Resource) : Prop :=
  resource.status.isFinished = true ∧ ∃ id query,
    (⟨.api (.get id query), .ok resource⟩ : Exchange) ∈ earlier

theorem Got.mono {earlier later : List Exchange} {resource : Resource} (grown : earlier <+: later)
    (got : Got earlier resource) : Got later resource :=
  ⟨got.1, got.2.imp fun _ => Exists.imp fun _ => fun member => grown.subset member⟩

theorem Got.lasting : Lasting Got := fun _ _ _ => Got.mono

/-- A flag of the invocation names a resource of this kind for a stage. -/
inductive Invocation.Names (invocation : Invocation) : Stage → ResourceKind → String → Prop
  | source {text : String} (named : invocation.common.source = some text) :
      Names invocation .source .source text
  | dataset {text : String} (named : invocation.common.dataset = some text) :
      Names invocation .dataset .dataset text
  | model {text : String} (options : MainOptions) (main : invocation = .main options)
      (named : options.model = some text) : Names invocation .model .model text
  | ensemble {text : String} (options : MainOptions) (main : invocation = .main options)
      (named : options.ensemble = some text) : Names invocation .model .ensemble text
  | cluster {text : String} (options : ClusterOptions) (cluster : invocation = .cluster options)
      (named : options.cluster = some text) : Names invocation .model .cluster text
  | testDataset {text : String} (named : invocation.common.testDataset = some text) :
      Names invocation .testData .dataset text
  | testSource {text : String} (named : invocation.common.testSource = some text) :
      Names invocation .testData .source text

namespace RunContext

variable (run : RunContext) (invocation : Invocation) (earlier : List Exchange)

/-! ## Steps before a check -/

/-- Training data, before it is divided by categories. -/
def undivided (options : CommonOptions) (source : Option Resource) : Step TrainingData := do
  match ← run.firstDatasets options source with
  | [] => return TrainingData.none
  | first :: more =>
    let datasets ← run.withNewFields options first (first :: more)
    let datasets ← run.merged options datasets
    run.publish (options.publishChanges options.publicDataset false) datasets
      "Dataset sharing settings updated."
    match datasets with
    | [] => return TrainingData.none
    | primary :: _ =>
      run.exportDataset options primary
      let (datasets, heldOut) ← run.split options primary datasets
      return ⟨datasets, heldOut, .none⟩

theorem divided_none (options : CommonOptions) (limit : Option CategoryLimit) :
    run.divided options limit TrainingData.none = pure TrainingData.none := by
  cases limit <;> rfl

theorem datasetStage_eq (options : CommonOptions) (source : Option Resource)
    (limit : Option CategoryLimit) :
    run.datasetStage options source limit =
      run.undivided options source >>= run.divided options limit := by
  unfold datasetStage undivided
  rw [bind_assoc]
  refine bind_congr fun given => ?_
  cases given with
  | nil => simp only [pure_bind, divided_none]
  | cons first more =>
    simp only [bind_assoc]
    refine bind_congr fun extended => bind_congr fun datasets => bind_congr fun _ => ?_
    cases datasets with
    | nil => simp only [pure_bind, divided_none]
    | cons primary others => simp only [bind_assoc, pure_bind]

/-! ## Failed checks -/

/-- The resource was read from the cluster file. -/
def Supplied (resource : Resource) : Prop :=
  ∃ options path text body, invocation = .cluster options ∧ options.clusterFile = some path ∧
    (⟨.file (.read (run.resolvePath path)), .ok text⟩ : Exchange) ∈ earlier ∧
    Json.read text = .ok body ∧ Resource.parse body = .ok resource

/-- The resource is finished, and a look found it so or it was read from the cluster file. -/
inductive Ready (resource : Resource) : Prop
  | got (got : Got earlier resource)
  | supplied (supplied : run.Supplied invocation earlier resource)
      (finished : resource.status.isFinished = true)

/-- An identifier of a resource that is ready. -/
def ReadyId (id : ResourceId) : Prop :=
  ∃ resource, run.Ready invocation earlier resource ∧ resource.id = id

/-- A wait for a resource begins: it was just announced, or the resource is the first of
those that were just obtained, or it is the one from the cluster file and no other was asked
for. -/
inductive Awaits (id : ResourceId) : Prop
  | retrieved (front : List Exchange)
      (announced : (run.say ("Retrieving " ++ id.text ++ ".")).Leads front earlier ())
  | obtained (front : List Exchange) (stage : Stage) (checkpoint : Checkpoint)
      (creations : List Creation) (others : List ResourceId)
      (obtained : (run.obtainIds stage checkpoint creations).Leads front earlier (id :: others))
  | supplied (resource : Resource) (supplied : run.Supplied invocation earlier resource)
      (same : resource.id = id) (entered : UncalledSince Stage.model.entry earlier)

/-- There are no more looks at a resource: the last one found its job neither finished nor
failed and nothing was called since, or none is allowed and the wait just began. -/
inductive Unsettled (id : ResourceId) : Prop
  | pending (query : Option String) (resource : Resource)
      (unfinished : resource.status.isFinished = false)
      (unfailed : resource.status.isFailed = false)
      (looked : UncalledSince ⟨.api (.get id query), .ok resource⟩ earlier)
  | unallowed (none : run.settings.maxPolls = 0) (awaits : run.Awaits invocation earlier id)

/-- A failed check: what was just read or what was found does not fit, something is missing,
or there are no more looks. -/
inductive Faults : Failure → Prop
  /-- What a flag names is no identifier of its kind.  Nothing was called in its stage. -/
  | identifier (stage : Stage) (kind : ResourceKind) (text : String) {failure : Failure}
      (named : invocation.Names stage kind text) (entered : UncalledSince stage.entry earlier)
      (malformed : ResourceId.parseKind text kind = .error failure) : Faults failure
  | identifiers (path : Path) (kind : ResourceKind) (text : String) {failure : Failure}
      (read : earlier.getLast? = some ⟨.file (.read (run.resolvePath path)), .ok text⟩)
      (malformed : idsOfText kind text = .error failure) : Faults failure
  | checkpoint (checkpoint : Checkpoint) (text : String) {failure : Failure}
      (read : earlier.getLast? =
        some ⟨.file (.read (Checkpoint.path run.paths.output checkpoint)), .ok text⟩)
      (malformed : Checkpoint.ofText (Checkpoint.path run.paths.output checkpoint) text =
        .error failure) : Faults failure
  /-- The new fields are no document.  A dataset is there by then. -/
  | newFields (path : Path) (text : String) (error : JsonError) (dataset : Resource)
      (named : invocation.common.newFields = some path) (got : Got earlier dataset)
      (read : earlier.getLast? = some ⟨.file (.read (run.resolvePath path)), .ok text⟩)
      (malformed : Json.read text = .error error) :
      Faults (.objection (.invalidValue
        ((run.resolvePath path).text ++ " is not valid JSON: " ++ error.message)))
  /-- The objective is no categorical field of the first training dataset, and it just
remained to divide that. -/
  | objective (options : MainOptions) (limit : CategoryLimit) (dataset : Resource)
      {failure : Failure} (front : List Exchange) (source : Option Resource)
      (training : TrainingData) (main : invocation = .main options)
      (limited : options.categoryLimit = some limit) (got : Got earlier dataset)
      (first : training.datasets.head? = some dataset)
      (trained : (run.undivided invocation.common source).Leads
        (front ++ [Stage.dataset.entry]) earlier training)
      (unfit : objectiveCategories dataset limit.objective = .error failure) : Faults failure
  | clusterFile (path : Path) (text : String) (error : JsonError)
      (read : earlier.getLast? = some ⟨.file (.read (run.resolvePath path)), .ok text⟩)
      (malformed : Json.read text = .error error) :
      Faults (.invalidConfig
        ((run.resolvePath path).text ++ " is not a cluster: " ++ error.message))
  | cluster (path : Path) (text : String) (body : Json) {failure : Failure}
      (read : earlier.getLast? = some ⟨.file (.read (run.resolvePath path)), .ok text⟩)
      (document : Json.read text = .ok body)
      (malformed : Resource.parse body = .error failure) : Faults failure
  /-- The action lacks what it needs.  It called nothing. -/
  | missing (text : String) (entered : UncalledSince Stage.action.entry earlier) :
      Faults (.invalidConfig text)
  /-- There is nowhere to upload the summary, which was written. -/
  | uploadUrl (text : String) (unset : run.settings.uploadUrl = none)
      (written : UncalledSince ⟨.file (.write
        ((run.paths.output.child reportsDirectory).child summaryFile) text), .ok ()⟩ earlier) :
      Faults (.invalidConfig "--upload needs [reports] upload_url in .bigmler_defaults")
  | timeout (id : ResourceId) (unsettled : run.Unsettled invocation earlier id) :
      Faults (.timeout id.text)

/-- A trace stops with a failure: a request brings it, or a check that fails behind granted
requests.  Only events are recorded behind that. -/
inductive Stops : List Exchange → Failure → Prop
  | answered {front notes : List Exchange} {exchange : Exchange} {failure : Failure}
      (granted : ∀ other ∈ front, other.failure? = none)
      (brings : exchange.failure? = some failure)
      (noted : ∀ other ∈ notes, other.IsNote) : Stops (front ++ exchange :: notes) failure
  | checked {front notes : List Exchange} {failure : Failure}
      (granted : ∀ other ∈ front, other.failure? = none)
      (fault : run.Faults invocation (earlier ++ front) failure)
      (noted : ∀ other ∈ notes, other.IsNote) : Stops (front ++ notes) failure

/-- A request inside a stage: it uses nothing but ready resources, and it is no move. -/
structure Permits (exchange : Exchange) : Prop where
  inside : exchange.move? = none
  ready : ∀ id ∈ exchange.asked.uses, run.ReadyId invocation earlier id

variable {α : Type}

/-- How a step went behind earlier exchanges. -/
structure Conduct (good : List Exchange → α → Prop) (before : Progress) (trace : List Exchange)
    (outcome : Except Failure α) (after : Progress) : Prop where
  states : after.cursor.state = before.cursor.state
  permitted : Throughout (run.Permits invocation) earlier trace
  granted : ∀ value, outcome = .ok value →
    (∀ exchange ∈ trace, exchange.failure? = none) ∧ good (earlier ++ trace) value
  stops : ∀ failure, outcome = .error failure → run.Stops invocation earlier trace failure

/-- Behind earlier exchanges a step conducts itself, and its value is good. -/
def Ensures (step : Step α) (good : List Exchange → α → Prop) : Prop :=
  ∀ before trace outcome after, Goes step before trace outcome after →
    run.Conduct invocation earlier good before trace outcome after

variable {run invocation earlier}

/-! ## What is known stays known -/

section

variable {later : List Exchange} {resource : Resource} (grown : earlier <+: later)

include grown

theorem Supplied.mono (supplied : run.Supplied invocation earlier resource) :
    run.Supplied invocation later resource := by
  rcases supplied with ⟨options, path, text, body, cluster, named, read, document, parsed⟩
  exact ⟨options, path, text, body, cluster, named, grown.subset read, document, parsed⟩

theorem Ready.mono (ready : run.Ready invocation earlier resource) :
    run.Ready invocation later resource := by
  cases ready with
  | got found => exact .got (found.mono grown)
  | supplied found finished => exact .supplied (found.mono grown) finished

theorem ReadyId.mono {id : ResourceId} (ready : run.ReadyId invocation earlier id) :
    run.ReadyId invocation later id := by
  rcases ready with ⟨resource, ready, same⟩
  exact ⟨resource, ready.mono grown, same⟩

end

theorem Ready.lasting : Lasting (run.Ready invocation) := fun _ _ _ => Ready.mono

theorem Ready.id {resource : Resource} (ready : run.Ready invocation earlier resource) :
    run.ReadyId invocation earlier resource.id := ⟨resource, ready, rfl⟩

theorem ReadyId.ofGot {resource : Resource} (got : Got earlier resource) :
    run.ReadyId invocation earlier resource.id := (Ready.got got).id

/-! ## Steps in a row -/

theorem Stops.behind {front back : List Exchange} {failure : Failure}
    (granted : ∀ exchange ∈ front, exchange.failure? = none)
    (stops : run.Stops invocation (earlier ++ front) back failure) :
    run.Stops invocation earlier (front ++ back) failure := by
  cases stops with
  | answered grantedLater brings noted =>
    rw [← List.append_assoc]
    exact .answered (List.forall_mem_append.mpr ⟨granted, grantedLater⟩) brings noted
  | checked grantedLater fault noted =>
    rw [← List.append_assoc]
    rw [List.append_assoc] at fault
    exact .checked (List.forall_mem_append.mpr ⟨granted, grantedLater⟩) fault noted

theorem Conduct.behind {good : List Exchange → α → Prop} {before middle after : Progress}
    {front back : List Exchange} {outcome : Except Failure α}
    (states : middle.cursor.state = before.cursor.state)
    (permitted : Throughout (run.Permits invocation) earlier front)
    (granted : ∀ exchange ∈ front, exchange.failure? = none)
    (conduct : run.Conduct invocation (earlier ++ front) good middle back outcome after) :
    run.Conduct invocation earlier good before (front ++ back) outcome after where
  states := conduct.states.trans states
  permitted := (Throughout.append_iff _ _ _).mpr ⟨permitted, conduct.permitted⟩
  granted value succeeded := by
    rcases conduct.granted value succeeded with ⟨grantedLater, good⟩
    rw [List.append_assoc] at good
    exact ⟨List.forall_mem_append.mpr ⟨granted, grantedLater⟩, good⟩
  stops failure failed := (conduct.stops failure failed).behind granted

/-- The only failure that a call of the trace brings is the one that it stops with. -/
theorem Stops.brought {trace : List Exchange} {failure other : Failure} {exchange : Exchange}
    (stops : run.Stops invocation earlier trace failure) (member : exchange ∈ trace)
    (called : exchange.asked.IsCall) (brings : exchange.failure? = some other) :
    failure = other := by
  have unnoted : ¬exchange.IsNote := by
    rcases exchange with ⟨asked, answer⟩
    cases asked with
    | api request => exact id
    | _ => cases called
  cases stops with
  | answered granted stopped noted =>
    rcases List.mem_append.mp member with before | behind
    · cases (granted exchange before).symm.trans brings
    · rcases List.mem_cons.mp behind with rfl | note
      · exact Option.some.inj (stopped.symm.trans brings)
      · exact absurd (noted exchange note) unnoted
  | checked granted fault noted =>
    rcases List.mem_append.mp member with before | note
    · cases (granted exchange before).symm.trans brings
    · exact absurd (noted exchange note) unnoted

namespace Ensures

variable {β : Type} {good : List Exchange → α → Prop}

theorem pure {value : α} (holds : good earlier value) :
    run.Ensures invocation earlier (Pure.pure value : Step α) good := by
  intro before trace outcome after goes
  rcases (goes_pure_iff _ _ _ _ _).mp goes with ⟨rfl, rfl, rfl⟩
  refine ⟨rfl, trivial, ?_, nofun⟩
  rintro _ ⟨⟩
  exact ⟨List.forall_mem_nil _, by rwa [List.append_nil]⟩

theorem fail {failure : Failure} (fault : run.Faults invocation earlier failure) :
    run.Ensures invocation earlier (throw failure : Step α) good := by
  intro before trace outcome after goes
  rcases (goes_throw_iff _ _ _ _ _).mp goes with ⟨rfl, rfl, rfl⟩
  refine ⟨rfl, trivial, nofun, ?_⟩
  rintro _ ⟨⟩
  exact .checked (List.forall_mem_nil _) (by rwa [List.append_nil]) (List.forall_mem_nil _)

theorem mono {weaker : List Exchange → α → Prop} {step : Step α}
    (ensures : run.Ensures invocation earlier step good)
    (weakens : ∀ later value, earlier <+: later → good later value → weaker later value) :
    run.Ensures invocation earlier step weaker := by
  intro before trace outcome after goes
  rcases ensures before trace outcome after goes with ⟨states, permitted, granted, stops⟩
  refine ⟨states, permitted, fun value succeeded => ?_, stops⟩
  rcases granted value succeeded with ⟨all, good⟩
  exact ⟨all, weakens _ _ (List.prefix_append _ _) good⟩

/-- The second step goes on with what is known of the first value. -/
theorem bind {between : List Exchange → β → Prop} {step : Step β} {next : β → Step α}
    (first : run.Ensures invocation earlier step between)
    (second : ∀ later value, earlier <+: later → between later value →
      run.Ensures invocation later (next value) good) :
    run.Ensures invocation earlier (step >>= next) good := by
  intro before trace outcome after goes
  rcases (goes_bind_iff _ _ _ _ _ _).mp goes with
    ⟨failure, failed, rfl⟩ | ⟨front, back, value, middle, rfl, done, rest⟩
  · rcases first before trace _ after failed with ⟨states, permitted, _, stops⟩
    refine ⟨states, permitted, nofun, ?_⟩
    rintro _ ⟨⟩
    exact stops failure rfl
  · rcases first before front _ middle done with ⟨states, permitted, granted, _⟩
    rcases granted value rfl with ⟨all, known⟩
    exact .behind states permitted all
      (second _ value (List.prefix_append _ _) known middle back outcome after rest)

/-- A step whose value is of no account. -/
theorem andThen {between : List Exchange → β → Prop} {step : Step β} {next : β → Step α}
    (first : run.Ensures invocation earlier step between)
    (second : ∀ later value, earlier <+: later → run.Ensures invocation later (next value) good) :
    run.Ensures invocation earlier (step >>= next) good :=
  .bind first fun later value grown _ => second later value grown

/-- One request, whose failure is handed on. -/
theorem ask (asked : Request) (finish : asked.Answer → Except Failure α)
    (permitted : ∀ answer, run.Permits invocation earlier ⟨asked, answer⟩)
    (handsOn : ∀ answer, Exchange.failure? ⟨asked, answer⟩ = failureOf (finish answer))
    (holds : ∀ answer value, finish answer = .ok value →
      good (earlier ++ [⟨asked, answer⟩]) value) :
    run.Ensures invocation earlier (Stateful.act (Action.asking asked finish)) good := by
  intro before trace outcome after goes
  rcases (goes_asking_iff _ _ _ _ _ _).mp goes with ⟨answer, rfl, rfl, rfl⟩
  refine ⟨rfl, ⟨permitted answer, trivial⟩, fun value succeeded => ⟨?_, holds _ _ succeeded⟩,
    fun failure failed => ?_⟩
  · refine List.forall_mem_singleton.mpr ?_
    rw [handsOn, succeeded]
    rfl
  · have brings : Exchange.failure? ⟨asked, answer⟩ = some failure := by
      rw [handsOn, failed]
      rfl
    exact .answered (List.forall_mem_nil _) brings (List.forall_mem_nil _)

/-- One request, whose value is of no account. -/
theorem askAny (asked : Request) (finish : asked.Answer → Except Failure α)
    (permitted : ∀ answer, run.Permits invocation earlier ⟨asked, answer⟩)
    (handsOn : ∀ answer, Exchange.failure? ⟨asked, answer⟩ = failureOf (finish answer)) :
    run.Ensures invocation earlier (Stateful.act (Action.asking asked finish))
      fun _ _ => True :=
  .ask asked finish permitted handsOn fun _ _ _ => trivial

theorem modifying {change : Progress → Progress}
    (keeps : ∀ progress, (change progress).cursor.state = progress.cursor.state) :
    run.Ensures invocation earlier (modify change : Step Unit) fun _ _ => True := by
  intro before trace outcome after goes
  rcases (goes_modify_iff _ _ _ _ _).mp goes with ⟨rfl, rfl, rfl⟩
  exact ⟨keeps before, trivial, fun _ _ => ⟨List.forall_mem_nil _, trivial⟩, nofun⟩

theorem progress :
    run.Ensures invocation earlier (get : Step Progress) fun _ _ => True := by
  intro before trace outcome after goes
  rcases (goes_get_iff _ _ _ _).mp goes with ⟨rfl, rfl, rfl⟩
  exact ⟨rfl, trivial, fun _ _ => ⟨List.forall_mem_nil _, trivial⟩, nofun⟩

theorem check {result : Except Failure α}
    (holds : ∀ value, result = .ok value → good earlier value)
    (faults : ∀ failure, result = .error failure → run.Faults invocation earlier failure) :
    run.Ensures invocation earlier (Stateful.act (Action.ofExcept result)) good := by
  cases result with
  | ok value => exact .pure (holds value rfl)
  | error failure => exact .fail (faults failure rfl)

/-- A check whose value is of no account. -/
theorem checkAny {result : Except Failure α}
    (faults : ∀ failure, result = .error failure → run.Faults invocation earlier failure) :
    run.Ensures invocation earlier (Stateful.act (Action.ofExcept result)) fun _ _ => True :=
  .check (fun _ _ => trivial) faults

/-- What is known of a value is also how the step came to it. -/
theorem leading {step : Step α} (ensures : run.Ensures invocation earlier step good) :
    run.Ensures invocation earlier step fun later value =>
      good later value ∧ step.Leads earlier later value := by
  intro before trace outcome after goes
  rcases ensures before trace outcome after goes with ⟨states, permitted, granted, stops⟩
  refine ⟨states, permitted, ?_, stops⟩
  rintro value rfl
  exact ⟨(granted value rfl).1, (granted value rfl).2, before, trace, after, rfl, goes⟩

/-- Behind a step that calls nothing, still nothing was called since. -/
theorem uncalled {step : Step α} {marker : Exchange} (since : UncalledSince marker earlier)
    (quiet : Uncalled step) (ensures : run.Ensures invocation earlier step good) :
    run.Ensures invocation earlier step fun later value =>
      good later value ∧ UncalledSince marker later :=
  ensures.leading.mono fun _ _ _ known => ⟨known.1, since.led quiet known.2⟩

/-! ## Small parts -/

/-- A request that uses no resource and records nothing. -/
theorem permits_of_plain {exchange : Exchange} (inside : exchange.move? = none)
    (unused : exchange.asked.uses = []) : run.Permits invocation earlier exchange := by
  refine ⟨inside, ?_⟩
  rw [unused]
  exact List.forall_mem_nil _

theorem note {level type : String} {payload : Fields} (other : type ≠ moveType) :
    run.Ensures invocation earlier (Stateful.act (Action.note level type payload))
      fun _ _ => True :=
  .askAny (.note _) .ok (fun _ => permits_of_plain (Exchange.move?_of_type_ne other _ _) rfl)
    fun _ => rfl

theorem raw (text : String) :
    run.Ensures invocation earlier (Stateful.act (run.log.raw text)) fun _ _ => True :=
  .askAny (.file (.append _ _)) (fun answer => answer) (fun _ => permits_of_plain rfl rfl)
    fun answer => by cases answer <;> rfl

theorem say (message : String) :
    run.Ensures invocation earlier (run.say message) fun _ _ => True := by
  unfold RunContext.say SessionLog.step
  simp only [act_bind]
  refine .andThen (.askAny .now .ok (fun _ => permits_of_plain rfl rfl) fun _ => rfl)
    fun later time _ => ?_
  refine .andThen (raw _) fun later _ _ => ?_
  cases run.log.echo with
  | false => exact .pure trivial
  | true =>
    exact .askAny (.printLine _) (fun answer => answer) (fun _ => permits_of_plain rfl rfl)
      fun answer => by cases answer <;> rfl

theorem readText (path : Path) :
    run.Ensures invocation earlier (Stateful.act (Action.readText path)) fun later text =>
      later.getLast? = some ⟨.file (.read path), .ok text⟩ := by
  refine .ask (.file (.read path)) (fun answer => answer) (fun _ => permits_of_plain rfl rfl)
    (fun answer => by cases answer <;> rfl) ?_
  rintro answer text ⟨⟩
  exact List.getLast?_concat

theorem writeFile (path : Path) (text : String) :
    run.Ensures invocation earlier (Stateful.act (Action.writeFile path text)) fun later _ =>
      later.getLast? = some ⟨.file (.write path text), .ok ()⟩ := by
  refine .ask (.file (.write path text)) (fun answer => answer)
    (fun _ => permits_of_plain rfl rfl) (fun answer => by cases answer <;> rfl) ?_
  rintro answer ⟨⟩ ⟨⟩
  exact List.getLast?_concat

/-! ## Resources that are looked at -/

/-- A look that finds the job finished is the last one, and so is one that finds it failed. -/
theorem poll (intervalMs : Nat) (id : ResourceId) (query : Option String) (looked left : Nat)
    (exhausted : left = 0 → run.Unsettled invocation earlier id) :
    run.Ensures invocation earlier
      (Stateful.act (pollResource intervalMs id query looked left)) Got := by
  induction left generalizing looked earlier with
  | zero => exact .fail (.timeout id (exhausted rfl))
  | succ left inductionHypothesis =>
    have plain : ∀ answer : Except Failure Resource,
        run.Permits invocation earlier ⟨.api (.get id query), answer⟩ :=
      fun _ => permits_of_plain rfl rfl
    intro before trace outcome after goes
    rcases (goes_act_iff _ _ _ _ _).mp goes with ⟨yields, rfl⟩
    cases look_of_yields _ _ _ _ _ _ _ yields with
    | refused failure =>
      refine ⟨rfl, ⟨plain _, trivial⟩, nofun, ?_⟩
      rintro _ ⟨⟩
      exact .answered (List.forall_mem_nil _) rfl (List.forall_mem_nil _)
    | finished resource ended =>
      have noted : ∀ earlier, run.Permits invocation earlier ⟨.note ⟨debugLevel, "resource.ready",
          .ofFields [("resource", .text id.text), ("polls", .ofNat (looked + 1))]⟩, ()⟩ :=
        fun _ => permits_of_plain (Exchange.move?_of_type_ne (by decide) _ _) rfl
      have well : Exchange.failure? ⟨.api (.get id query), .ok resource⟩ = none :=
        Exchange.failure?_look (ResourceStatus.not_isFailed_of_isFinished ended)
      refine ⟨rfl, ⟨plain _, noted _, trivial⟩, ?_, nofun⟩
      rintro _ ⟨⟩
      refine ⟨List.forall_mem_cons.mpr ⟨well, List.forall_mem_singleton.mpr rfl⟩, ended, id, query,
        List.mem_append_right _ List.mem_cons_self⟩
    | failed resource unfinished ended =>
      have noted : ∀ earlier, run.Permits invocation earlier ⟨.note ⟨"error", "resource.failed",
          .ofFields [("resource", .text id.text), ("status", resource.status.toJson)]⟩, ()⟩ :=
        fun _ => permits_of_plain (Exchange.move?_of_type_ne (by decide) _ _) rfl
      have badly : Exchange.failure? ⟨.api (.get id query), .ok resource⟩ =
          some (.remote id.text resource.status.failureText) := if_pos ended
      refine ⟨rfl, ⟨plain _, noted _, trivial⟩, nofun, ?_⟩
      rintro _ ⟨⟩
      exact .answered (List.forall_mem_nil _) badly (List.forall_mem_singleton.mpr trivial)
    | pending resource unfinished unfailed time again =>
      have well : Exchange.failure? ⟨.api (.get id query), .ok resource⟩ = none :=
        Exchange.failure?_look unfailed
      have goesOn := (goes_act_iff _ after after _ outcome).mpr ⟨again, rfl⟩
      have granted : ∀ exchange ∈ [(⟨.api (.get id query), .ok resource⟩ : Exchange), ⟨.now, time⟩,
          ⟨.sleepUntil (time.after intervalMs), ()⟩], exchange.failure? = none :=
        List.forall_mem_cons.mpr ⟨well, List.forall_mem_cons.mpr
          ⟨rfl, List.forall_mem_singleton.mpr rfl⟩⟩
      have permitted : Throughout (run.Permits invocation) earlier
          [⟨.api (.get id query), .ok resource⟩, ⟨.now, time⟩,
            ⟨.sleepUntil (time.after intervalMs), ()⟩] :=
        ⟨plain _, permits_of_plain rfl rfl, permits_of_plain rfl rfl, trivial⟩
      have since : UncalledSince ⟨.api (.get id query), .ok resource⟩
          (earlier ++ [⟨.api (.get id query), .ok resource⟩, ⟨.now, time⟩,
            ⟨.sleepUntil (time.after intervalMs), ()⟩]) :=
        ⟨earlier, _, rfl, List.forall_mem_cons.mpr ⟨nofun, List.forall_mem_singleton.mpr nofun⟩⟩
      exact .behind rfl permitted granted (inductionHypothesis (looked + 1)
        (fun _ => .pending query resource unfinished unfailed since) after _ outcome after goesOn)

theorem meet {good : List Exchange → Resource → Prop} {stage : Stage} {resource : Resource}
    (holds : good earlier resource) (lasting : Lasting good) :
    run.Ensures invocation earlier
      (RunContext.meet stage resource.id >>= fun _ => Pure.pure resource) good := by
  have kept : ∀ progress : Progress,
      (progress.meet stage resource.id).cursor.state = progress.cursor.state := by
    intro progress
    unfold Progress.meet
    split <;> rfl
  exact .andThen (.modifying kept) fun later _ grown => .pure (lasting grown holds)

/-- Looks at a resource when a wait for it begins.  If it is found, looks are allowed. -/
theorem looks {id : ResourceId}
    (awaits : run.settings.maxPolls = 0 → run.Awaits invocation earlier id) :
    run.Ensures invocation earlier (Stateful.act (run.policy.await id none))
      fun later resource => Got later resource ∧ run.settings.maxPolls ≠ 0 := by
  by_cases disallowed : run.settings.maxPolls = 0
  · unfold WaitPolicy.await RunContext.policy
    rw [disallowed]
    exact .fail (.timeout id (.unallowed disallowed (awaits disallowed)))
  · exact (poll _ id none 0 _ fun none => absurd none disallowed).mono
      fun _ _ _ got => ⟨got, disallowed⟩

theorem await {stage : Stage} {id : ResourceId}
    (awaits : run.settings.maxPolls = 0 → run.Awaits invocation earlier id) :
    run.Ensures invocation earlier (run.await stage id)
      fun later resource => Got later resource ∧ run.settings.maxPolls ≠ 0 :=
  .bind (looks awaits) fun _ _ _ known =>
    meet known fun _ _ _ grown held => ⟨held.1.mono grown, held.2⟩

/-- Only the first wait can begin if no look is allowed, since it fails then. -/
theorem awaitAll {stage : Stage} {ids : List ResourceId}
    (awaits : run.settings.maxPolls = 0 →
      ∀ id, ids.head? = some id → run.Awaits invocation earlier id) :
    run.Ensures invocation earlier (run.awaitAll stage ids)
      fun later resources => ∀ resource ∈ resources, Got later resource := by
  induction ids generalizing earlier with
  | nil => exact .pure (List.forall_mem_nil _)
  | cons id rest inductionHypothesis =>
    refine .bind (await fun disallowed => awaits disallowed id rfl)
      fun _ resource _ ⟨got, allowed⟩ => ?_
    refine .bind (inductionHypothesis fun disallowed => absurd disallowed allowed)
      fun _ others grown gotOthers => ?_
    exact .pure (List.forall_mem_cons.mpr ⟨got.mono grown, gotOthers⟩)

end Ensures

end RunContext

end ModelRuns
