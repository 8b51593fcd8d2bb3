import ModelRuns.Proofs.Pipeline.Conduct
import ModelRuns.Proofs.Pipeline.Structure

namespace ModelRuns

open Stateful

/-!
# The bodies of the stages

Every stage works with what a look found finished: the resources that the user names are
waited for, and those that the run creates as well, before anything is built on them.  The
one resource that need not be looked at is a finished one from a cluster file.

There is one lemma for each function of the pipelines.  It says what is known of its value
when that is a resource, given what is known of the resources that it works with.
-/

/-- All of these resources were found finished. -/
def AllGot (earlier : List Exchange) (resources : List Resource) : Prop :=
  ∀ resource ∈ resources, Got earlier resource

theorem AllGot.mono {earlier later : List Exchange} {resources : List Resource}
    (grown : earlier <+: later) (got : AllGot earlier resources) : AllGot later resources :=
  fun resource member => (got resource member).mono grown

theorem AllGot.lasting : Lasting AllGot := fun _ _ _ => AllGot.mono

theorem AllGot.nil {earlier : List Exchange} : AllGot earlier [] := List.forall_mem_nil _

theorem AllGot.single {earlier : List Exchange} {resource : Resource}
    (got : Got earlier resource) : AllGot earlier [resource] := List.forall_mem_singleton.mpr got

/-- The resource was found finished, if there is one. -/
def MaybeGot (earlier : List Exchange) (found : Option Resource) : Prop :=
  ∀ resource, found = some resource → Got earlier resource

theorem MaybeGot.mono {earlier later : List Exchange} {found : Option Resource}
    (grown : earlier <+: later) (got : MaybeGot earlier found) : MaybeGot later found :=
  fun resource given => (got resource given).mono grown

theorem MaybeGot.lasting : Lasting MaybeGot := fun _ _ _ => MaybeGot.mono

theorem MaybeGot.none {earlier : List Exchange} : MaybeGot earlier none := nofun

theorem MaybeGot.some {earlier : List Exchange} {resource : Resource}
    (got : Got earlier resource) : MaybeGot earlier (some resource) := by
  rintro _ ⟨⟩
  exact got

/-- The datasets to train on and the part held out were found finished. -/
structure TrainingData.AllGot (earlier : List Exchange) (training : TrainingData) : Prop where
  datasets : ModelRuns.AllGot earlier training.datasets
  heldOut : MaybeGot earlier training.heldOut

theorem TrainingData.AllGot.mono {earlier later : List Exchange} {training : TrainingData}
    (grown : earlier <+: later) (got : training.AllGot earlier) : training.AllGot later :=
  ⟨got.datasets.mono grown, got.heldOut.mono grown⟩

theorem TrainingData.AllGot.lasting :
    Lasting fun earlier (training : TrainingData) => training.AllGot earlier :=
  fun _ _ _ => TrainingData.AllGot.mono

namespace RunContext

variable {run : RunContext} {invocation : Invocation} {earlier : List Exchange}

theorem readyIds_of_allGot {resources : List Resource} (got : AllGot earlier resources) :
    ∀ id ∈ resources.map Resource.id, run.ReadyId invocation earlier id := by
  intro id member
  rcases List.mem_map.mp member with ⟨resource, listed, rfl⟩
  exact .ofGot (got resource listed)

theorem readyIds_datasetOrigin {ids : List ResourceId}
    (ready : ∀ id ∈ ids, run.ReadyId invocation earlier id) :
    ∀ id ∈ (datasetOrigin ids).ids, run.ReadyId invocation earlier id := by
  match ids with
  | [] => exact ready
  | [single] => exact ready
  | first :: second :: rest => exact ready

theorem readyIds_pair {first second : ResourceId} (ready : run.ReadyId invocation earlier first)
    (other : run.ReadyId invocation earlier second) :
    ∀ id ∈ (Origin.pair first second).ids, run.ReadyId invocation earlier id :=
  List.forall_mem_cons.mpr ⟨ready, List.forall_mem_singleton.mpr other⟩

/-- Resources given by the user were found finished.  If there are none, nothing was called in
the stage. -/
structure GivenIn (stage : Stage) (earlier : List Exchange) (resources : List Resource) : Prop where
  got : AllGot earlier resources
  uncalled : resources = [] → UncalledSince stage.entry earlier

/-- What there is of a cluster file: nothing, or the one cluster that was read from it. -/
inductive Filed (run : RunContext) (invocation : Invocation) (earlier : List Exchange) :
    List ResourceReference → Prop
  | nothing : Filed run invocation earlier []
  | cluster {resource : Resource} (supplied : run.Supplied invocation earlier resource) :
      Filed run invocation earlier [.resolved resource]

theorem Filed.mono {later : List Exchange} {references : List ResourceReference}
    (grown : earlier <+: later) (filed : run.Filed invocation earlier references) :
    run.Filed invocation later references := by
  cases filed with
  | nothing => exact .nothing
  | cluster supplied => exact .cluster (supplied.mono grown)

namespace Ensures

/-! ## Fetching -/

/-- A reference is resolved, and what it stands for is met. -/
theorem resolve {stage : Stage} {reference : ResourceReference}
    {good : List Exchange → Resource → Prop} (lasting : Lasting good)
    (resolves : run.Ensures invocation earlier
      (Stateful.act (run.policy.resolve reference none)) good) :
    run.Ensures invocation earlier
      (Stateful.act (run.policy.resolve reference none) >>= fun resource =>
        RunContext.meet stage resource.id >>= fun _ => Pure.pure resource) good :=
  .bind resolves fun _ _ _ holds => meet holds lasting

/-- What is known by its identifier alone is announced and looked at. -/
theorem fetchUnresolved (stage : Stage) (id : ResourceId) :
    run.Ensures invocation earlier (run.fetch stage (.unresolved id)) Got :=
  .bind (say _).leading fun _ _ _ announced => resolve Got.lasting
    ((looks fun _ => .retrieved earlier announced.2).mono fun _ _ _ => And.left)

/-- The cluster of a file is looked at if it is not finished. -/
theorem fetchSupplied {resource : Resource} (supplied : run.Supplied invocation earlier resource)
    (entered : UncalledSince Stage.model.entry earlier) :
    run.Ensures invocation earlier (run.fetch .model (.resolved resource))
      (run.Ready invocation) := by
  refine resolve Ready.lasting ?_
  unfold WaitPolicy.resolve
  dsimp only
  split
  next finished => exact .pure (.supplied supplied finished)
  next =>
    exact (looks fun _ => .supplied resource supplied rfl entered).mono
      fun _ _ _ found => .got found.1

theorem fetchAll {stage : Stage} {references : List ResourceReference}
    {good : List Exchange → Resource → Prop} (lasting : Lasting good)
    (each : ∀ later, earlier <+: later → ∀ reference ∈ references,
      run.Ensures invocation later (run.fetch stage reference) good) :
    run.Ensures invocation earlier (run.fetchAll stage references)
      fun later resources => ∀ resource ∈ resources, good later resource := by
  induction references generalizing earlier with
  | nil => exact .pure (List.forall_mem_nil _)
  | cons reference rest inductionHypothesis =>
    refine .bind (each earlier (List.prefix_refl _) reference List.mem_cons_self)
      fun later resource grown holds => ?_
    refine .bind (inductionHypothesis fun last more other member =>
      each last (grown.trans more) other (List.mem_cons_of_mem _ member))
      fun last others more holdsOthers => ?_
    exact .pure (List.forall_mem_cons.mpr ⟨lasting more holds, holdsOthers⟩)

theorem fetchUnresolvedAll (stage : Stage) (ids : List ResourceId) :
    run.Ensures invocation earlier (run.fetchAll stage (ids.map .unresolved)) AllGot := by
  refine fetchAll Got.lasting fun later _ reference member => ?_
  rcases List.mem_map.mp member with ⟨id, _, rfl⟩
  exact fetchUnresolved stage id

/-! ## Obtaining -/

theorem cursor :
    run.Ensures invocation earlier (Stateful.cursor : Step Cursor) fun _ _ => True :=
  .andThen .progress fun _ _ _ => .pure trivial

theorem checkpointMissing :
    run.Ensures invocation earlier (Stateful.checkpointMissing : Step Unit) fun _ _ => True := by
  have ends : ∀ later, run.Ensures invocation later
      (Stateful.changeCursor fun cursor => { cursor with resuming := false } : Step Unit)
      fun _ _ => True := fun _ => .modifying fun _ => rfl
  refine .andThen cursor fun later found _ => ?_
  cases found.resuming with
  | false => exact ends later
  | true => exact .andThen (note (by decide)) fun last _ _ => ends last

theorem readCheckpoint (checkpoint : Checkpoint) :
    run.Ensures invocation earlier (Stateful.act (Checkpoint.read run.paths.output checkpoint))
      fun _ _ => True := by
  unfold Checkpoint.read
  rw [act_bind]
  refine .andThen (.askAny (.file (.fileExists _)) .ok (fun _ => permits_of_plain rfl rfl)
    fun _ => rfl) fun later found _ => ?_
  cases found with
  | false => exact .pure trivial
  | true =>
    simp only [if_true, act_bind]
    refine .bind (readText _) fun last text _ read => ?_
    exact checkAny fun failure malformed =>
      .checkpoint checkpoint text read malformed

theorem sayReusing (ids : List ResourceId) :
    run.Ensures invocation earlier (ids.forM run.sayReusing) fun _ _ => True := by
  induction ids generalizing earlier with
  | nil => exact .pure trivial
  | cons id rest inductionHypothesis => exact .andThen (say _) fun _ _ _ => inductionHypothesis

theorem takeUp (checkpoint : Checkpoint) (count : Nat) :
    run.Ensures invocation earlier (run.takeUp checkpoint count) fun _ _ => True := by
  refine .andThen cursor fun later found _ => ?_
  cases found.resuming with
  | false => exact .pure trivial
  | true =>
    refine .andThen (readCheckpoint checkpoint) fun next held _ => ?_
    refine .andThen (sayReusing _) fun _ _ _ => ?_
    split
    next => exact .andThen checkpointMissing fun _ _ _ => .pure trivial
    next => exact .pure trivial

theorem create {stage : Stage} {checkpoint : Checkpoint} {creation : Creation}
    (ready : ∀ id ∈ creation.origin.ids, run.ReadyId invocation earlier id) :
    run.Ensures invocation earlier (run.create stage checkpoint creation) fun _ _ => True := by
  refine .andThen (say _) fun later _ grown => ?_
  refine .andThen (.askAny (.api (.create creation)) (fun answer => answer)
    (fun _ => ⟨rfl, fun id member => (ready id member).mono grown⟩)
    fun answer => by cases answer <;> rfl) fun _ created _ => ?_
  refine .andThen (.askAny (.file (.append _ _)) (fun answer => answer)
    (fun _ => permits_of_plain rfl rfl) fun answer => by cases answer <;> rfl) fun _ _ _ => ?_
  refine .andThen (note (by decide)) fun _ _ _ => ?_
  exact .andThen (say _) fun _ _ _ => .pure trivial

theorem createAll {stage : Stage} {checkpoint : Checkpoint} {creations : List Creation}
    (ready : ∀ creation ∈ creations, ∀ id ∈ creation.origin.ids,
      run.ReadyId invocation earlier id) :
    run.Ensures invocation earlier (run.createAll stage checkpoint creations)
      fun _ _ => True := by
  induction creations generalizing earlier with
  | nil => exact .pure trivial
  | cons creation rest inductionHypothesis =>
    refine .andThen (create (ready creation List.mem_cons_self)) fun later _ grown => ?_
    refine .andThen (inductionHypothesis fun other member id used => ?_) fun _ _ _ => .pure trivial
    exact (ready other (List.mem_cons_of_mem _ member) id used).mono grown

theorem obtainIds {stage : Stage} {checkpoint : Checkpoint} {creations : List Creation}
    (ready : ∀ creation ∈ creations, ∀ id ∈ creation.origin.ids,
      run.ReadyId invocation earlier id) :
    run.Ensures invocation earlier (run.obtainIds stage checkpoint creations) fun _ _ => True := by
  refine .andThen (takeUp checkpoint _) fun later known grown => ?_
  refine .andThen (createAll fun creation member id used => ?_) fun _ _ _ => .pure trivial
  exact (ready creation (List.mem_of_mem_drop member) id used).mono grown

/-- What is obtained is waited for, also when it is taken up. -/
theorem obtainMany {stage : Stage} {checkpoint : Checkpoint} {creations : List Creation}
    (ready : ∀ creation ∈ creations, ∀ id ∈ creation.origin.ids,
      run.ReadyId invocation earlier id) :
    run.Ensures invocation earlier (run.obtainMany stage checkpoint creations) AllGot := by
  rw [obtainMany_eq]
  refine .bind (obtainIds ready).leading fun later ids _ known => awaitAll fun _ first head => ?_
  rcases List.head?_eq_some_iff.mp head with ⟨others, rfl⟩
  exact .obtained earlier stage checkpoint creations others known.2

theorem obtainOne {stage : Stage} {checkpoint : Checkpoint} {creation : Creation}
    (ready : ∀ id ∈ creation.origin.ids, run.ReadyId invocation earlier id) :
    run.Ensures invocation earlier (run.obtainOne stage checkpoint creation) Got := by
  intro before trace outcome after goes
  rcases obtainMany (List.forall_mem_singleton.mpr ready) before trace _ after
    (goes_obtainMany_of_single goes) with ⟨states, permitted, granted, stops⟩
  refine ⟨states, permitted, ?_, ?_⟩
  · rintro resource rfl
    rcases granted [resource] rfl with ⟨all, got⟩
    exact ⟨all, got resource (List.mem_singleton_self _)⟩
  · rintro failure rfl
    exact stops failure rfl

/-! ## Input and output files -/

theorem readIds (path : Path) (kind : ResourceKind) :
    run.Ensures invocation earlier (run.readIds path kind) fun _ _ => True := by
  unfold RunContext.readIds
  rw [act_bind]
  refine .bind (readText _) fun later text _ read => ?_
  exact checkAny fun failure malformed =>
    .identifiers path kind text read malformed

theorem update {resource : Resource} {changes : Json} (got : Got earlier resource) :
    run.Ensures invocation earlier (RunContext.update resource changes) fun _ _ => True := by
  refine .andThen (note (by decide)) fun later _ grown => ?_
  refine .andThen (.askAny (.api (.update resource.id changes)) (fun answer => answer)
    (fun _ => ⟨rfl, List.forall_mem_singleton.mpr (.ofGot (got.mono grown))⟩)
    fun answer => by cases answer <;> rfl) fun _ _ _ => .pure trivial

theorem publish {changes : Option Json} {resources : List Resource} {message : String}
    (got : AllGot earlier resources) :
    run.Ensures invocation earlier (run.publish changes resources message)
      fun _ _ => True := by
  cases changes with
  | none => exact .pure trivial
  | some changes =>
    have updates : run.Ensures invocation earlier
        (resources.forM fun resource => RunContext.update resource changes) fun _ _ => True := by
      induction resources generalizing earlier with
      | nil => exact .pure trivial
      | cons resource rest inductionHypothesis =>
        refine .andThen (update (got resource List.mem_cons_self)) fun later _ grown => ?_
        exact inductionHypothesis fun other member =>
          (got other (List.mem_cons_of_mem _ member)).mono grown
    exact .andThen updates fun _ _ _ => say _

theorem saveTo {id : ResourceId} {path : Path} (ready : run.ReadyId invocation earlier id) :
    run.Ensures invocation earlier (run.saveTo id path) fun _ _ => True := by
  refine .andThen (.askAny (.api (.download id)) (fun answer => answer)
    (fun _ => ⟨rfl, List.forall_mem_singleton.mpr ready⟩)
    fun answer => by cases answer <;> rfl) fun _ _ _ => ?_
  exact .andThen (writeFile _ _) fun _ _ _ => say _

theorem saveNumbered {path : Path} {index : Nat} {resources : List Resource}
    (got : AllGot earlier resources) :
    run.Ensures invocation earlier (run.saveNumbered path index resources)
      fun _ _ => True := by
  induction resources generalizing earlier index with
  | nil => exact .pure trivial
  | cons resource rest inductionHypothesis =>
    refine .andThen (saveTo (.ofGot (got resource List.mem_cons_self))) fun later _ grown => ?_
    exact inductionHypothesis fun other member =>
      (got other (List.mem_cons_of_mem _ member)).mono grown

theorem saySaved (what : String) (files : List Path) :
    run.Ensures invocation earlier (run.saySaved what files) fun _ _ => True := by
  unfold RunContext.saySaved
  induction files generalizing earlier with
  | nil => exact .pure trivial
  | cons file rest inductionHypothesis => exact .andThen (say _) fun _ _ _ => inductionHypothesis

theorem writeResult (base : Path) (result : Json) :
    run.Ensures invocation earlier (Stateful.act (ModelRuns.writeResult base result))
      fun _ _ => True := by
  unfold ModelRuns.writeResult
  simp only [act_bind]
  refine .andThen (writeFile _ _) fun _ _ _ => ?_
  exact .andThen (writeFile _ _) fun _ _ _ => .pure trivial

/-! ## Training data -/

theorem namedId {stage : Stage} {kind : ResourceKind} {text : String}
    (named : invocation.Names stage kind text) (entered : UncalledSince stage.entry earlier) :
    run.Ensures invocation earlier (RunContext.namedId text kind) fun _ _ => True :=
  checkAny fun _ malformed => .identifier stage kind text named entered malformed

theorem fetchNamed {stage : Stage} {kind : ResourceKind} {text : Option String}
    (named : ∀ given, text = some given → invocation.Names stage kind given)
    (entered : UncalledSince stage.entry earlier) :
    run.Ensures invocation earlier (run.fetchNamed stage kind text) (GivenIn stage) := by
  cases text with
  | none => exact .pure ⟨.nil, fun _ => entered⟩
  | some text =>
    refine .andThen (namedId (named text rfl) entered) fun _ id _ => ?_
    exact .bind (fetchUnresolved stage id) fun _ _ _ got => .pure ⟨.single got, nofun⟩

/-- A file without identifiers is read, and nothing is called. -/
theorem fetchListed {stage : Stage} {kind : ResourceKind} {path : Option Path} :
    run.Ensures invocation earlier (run.fetchListed stage kind path) fun later resources =>
      AllGot later resources ∧ (resources = [] → ∀ marker, UncalledSince marker earlier →
        UncalledSince marker later) := by
  cases path with
  | none => exact .pure ⟨.nil, fun _ _ => id⟩
  | some path =>
    refine .bind (readIds path kind).leading fun later ids _ ⟨_, leads⟩ => ?_
    cases ids with
    | nil => exact .pure ⟨.nil, fun _ _ since => since.led (.readIds path kind) leads⟩
    | cons first others =>
      refine .bind (fetchUnresolved stage first) fun _ resource _ got => ?_
      refine .bind (fetchUnresolvedAll stage others) fun _ rest grown gotRest => ?_
      exact .pure ⟨List.forall_mem_cons.mpr ⟨got.mono grown, gotRest⟩, nofun⟩

theorem fetchGiven {stage : Stage} {kind : ResourceKind} {text : Option String}
    {path : Option Path} (named : ∀ given, text = some given → invocation.Names stage kind given)
    (entered : UncalledSince stage.entry earlier) :
    run.Ensures invocation earlier (run.fetchGiven stage kind text path) (GivenIn stage) := by
  refine .bind (fetchNamed named entered) fun _ first _ given => ?_
  refine .bind fetchListed fun _ listed grown ⟨gotListed, unlisted⟩ => ?_
  refine .pure ⟨List.forall_mem_append.mpr ⟨given.got.mono grown, gotListed⟩, fun none => ?_⟩
  rcases List.append_eq_nil_iff.mp none with ⟨unnamed, empty⟩
  exact unlisted empty _ (given.uncalled unnamed)

/-- A single resource that was obtained or fetched. -/
theorem present {step : Step Resource} (got : run.Ensures invocation earlier step Got) :
    run.Ensures invocation earlier (step >>= fun resource => Pure.pure (some resource)) MaybeGot :=
  .bind got fun _ _ _ found => .pure (.some found)

/-- A list of one resource that was obtained or fetched. -/
theorem single {step : Step Resource} (got : run.Ensures invocation earlier step Got) :
    run.Ensures invocation earlier (step >>= fun resource => Pure.pure [resource]) AllGot :=
  .bind got fun _ _ _ found => .pure (.single found)

theorem sourceStage (entered : UncalledSince Stage.source.entry earlier) :
    run.Ensures invocation earlier (run.sourceStage invocation.common) MaybeGot := by
  unfold RunContext.sourceStage
  split
  next text named =>
    exact .andThen (namedId (.source named) entered) fun _ id _ => present (fetchUnresolved _ id)
  next => exact .pure .none
  next path _ _ => exact present (obtainOne (List.forall_mem_nil _))

theorem firstDatasets {source : Option Resource} (got : MaybeGot earlier source)
    (entered : UncalledSince Stage.dataset.entry earlier) :
    run.Ensures invocation earlier (run.firstDatasets invocation.common source) AllGot := by
  refine .bind (fetchGiven (fun _ => .dataset) entered) fun later given grown known => ?_
  split
  next source =>
    exact single (obtainOne (List.forall_mem_singleton.mpr (.ofGot ((got source rfl).mono grown))))
  next => exact .pure known.got

/-- New fields are read behind a look at the dataset that they extend. -/
theorem readNewFields {path : Path} {dataset : Resource} (got : Got earlier dataset)
    (named : invocation.common.newFields = some path) :
    run.Ensures invocation earlier (run.readJson path) fun _ _ => True := by
  unfold RunContext.readJson
  simp only [act_bind]
  refine .bind (readText _) fun later text grown read => ?_
  split
  next => exact .pure trivial
  next error malformed =>
    exact .fail (.newFields path text error dataset named (got.mono grown) read malformed)

theorem withNewFields {first : Resource} {datasets : List Resource} (got : Got earlier first)
    (gotAll : AllGot earlier datasets) :
    run.Ensures invocation earlier (run.withNewFields invocation.common first datasets) AllGot := by
  unfold RunContext.withNewFields
  split
  next => exact .pure gotAll
  next path named =>
    refine .andThen (readNewFields got named) fun later fields grown => ?_
    exact single (obtainOne (List.forall_mem_singleton.mpr (.ofGot (got.mono grown))))

theorem merged {datasets : List Resource} (got : AllGot earlier datasets) :
    run.Ensures invocation earlier (run.merged invocation.common datasets) AllGot := by
  unfold RunContext.merged
  split
  next => exact single (obtainOne (readyIds_of_allGot got))
  next => exact .pure got

theorem exportDataset {dataset : Resource} (got : Got earlier dataset) :
    run.Ensures invocation earlier (run.exportDataset invocation.common dataset)
      fun _ _ => True := by
  unfold RunContext.exportDataset
  split
  next => exact .pure trivial
  next => exact saveTo (.ofGot got)

theorem split {dataset : Resource} {datasets : List Resource} (got : Got earlier dataset)
    (gotAll : AllGot earlier datasets) :
    run.Ensures invocation earlier (run.split invocation.common dataset datasets)
      fun later parts => AllGot later parts.1 ∧ MaybeGot later parts.2 := by
  have part : ∀ later, earlier <+: later → ∀ checkpoint outOfBag, run.Ensures invocation later
      (run.obtainOne .dataset checkpoint (splitCreation invocation.common dataset outOfBag)) Got :=
    fun later grown _ _ => obtainOne (List.forall_mem_singleton.mpr (.ofGot (got.mono grown)))
  unfold RunContext.split
  split
  next =>
    refine .bind (part earlier (List.prefix_refl _) _ _) fun later train grown gotTrain => ?_
    refine .bind (part later grown _ _) fun last test more gotTest => ?_
    exact .pure ⟨.single (gotTrain.mono more), .some gotTest⟩
  next => exact .pure ⟨gotAll, .none⟩

theorem divided {limit : Option CategoryLimit} (fits : Parallel.LimitFits invocation limit)
    {source : Option Resource} {training : TrainingData} {front : List Exchange}
    (got : training.AllGot earlier)
    (trained : (run.undivided invocation.common source).Leads
      (front ++ [Stage.dataset.entry]) earlier training) :
    run.Ensures invocation earlier (run.divided invocation.common limit training)
      fun later training => training.AllGot later := by
  unfold RunContext.divided
  split
  next limit dataset rest datasets =>
    have gotFirst : Got earlier dataset :=
      got.datasets dataset (datasets ▸ List.mem_cons_self)
    rcases fits limit rfl with ⟨options, main, limited⟩
    have first : training.datasets.head? = some dataset := datasets ▸ rfl
    refine .andThen (checkAny fun _ unfit =>
      .objective options limit dataset front source training main limited gotFirst first trained
        unfit) fun later found grown => ?_
    refine .bind (obtainMany fun creation member => ?_) fun last made more gotMade => ?_
    · rcases List.mem_map.mp member with ⟨filter, _, rfl⟩
      exact List.forall_mem_singleton.mpr (.ofGot (gotFirst.mono grown))
    · exact .pure ⟨gotMade, (got.heldOut.mono grown).mono more⟩
  next => exact .pure got

theorem undivided {source : Option Resource} (got : MaybeGot earlier source)
    (entered : UncalledSince Stage.dataset.entry earlier) :
    run.Ensures invocation earlier (run.undivided invocation.common source)
      fun later training => training.AllGot later := by
  have nothing : ∀ later, TrainingData.none.AllGot later := fun _ => ⟨.nil, .none⟩
  refine .bind (firstDatasets got entered) fun given first grown gotFirst => ?_
  split
  next => exact .pure (nothing given)
  next first more =>
    refine .bind (withNewFields (gotFirst first List.mem_cons_self) gotFirst)
      fun extended datasets _ gotExtended => ?_
    refine .bind (merged gotExtended) fun joined datasets _ gotMerged => ?_
    refine .andThen (publish gotMerged) fun shared _ grownShared => ?_
    have gotShared := gotMerged.mono grownShared
    split
    next => exact .pure (nothing shared)
    next primary others =>
      refine .andThen (exportDataset (gotShared primary List.mem_cons_self))
        fun exported _ grownExported => ?_
      have gotExported := gotShared.mono grownExported
      refine .bind (split (gotExported primary List.mem_cons_self) gotExported)
        fun parted parts _ gotParts => ?_
      exact .pure ⟨gotParts.1, gotParts.2⟩

theorem datasetStage {source : Option Resource} (got : MaybeGot earlier source)
    (entered : Stage.dataset.Entered earlier) {limit : Option CategoryLimit}
    (fits : Parallel.LimitFits invocation limit) :
    run.Ensures invocation earlier (run.datasetStage invocation.common source limit)
      fun later training => training.AllGot later := by
  rcases entered with ⟨front, rfl⟩
  rw [datasetStage_eq]
  exact .bind (undivided got (.last front _)).leading
    fun _ _ _ ⟨gotTraining, trained⟩ => divided fits gotTraining trained

/-! ## Test data -/

theorem testSource (entered : UncalledSince Stage.testData.entry earlier) :
    run.Ensures invocation earlier (run.testSource invocation.common) MaybeGot := by
  unfold RunContext.testSource
  split
  next text named =>
    exact .andThen (namedId (.testSource named) entered) fun _ id _ =>
      present (fetchUnresolved _ id)
  next => exact .pure .none
  next path _ _ => exact present (obtainOne (List.forall_mem_nil _))

theorem testDataStage {training : TrainingData} (got : training.AllGot earlier)
    (entered : UncalledSince Stage.testData.entry earlier) :
    run.Ensures invocation earlier (run.testDataStage invocation.common training) AllGot := by
  unfold RunContext.testDataStage
  split
  next test heldOut => exact .pure (.single (got.heldOut test heldOut))
  next =>
    refine .bind (fetchGiven (fun _ => .testDataset) entered) fun _ given _ ⟨gotGiven, uncalled⟩ => ?_
    split
    next =>
      refine .bind (testSource (uncalled rfl)) fun _ found _ gotSource => ?_
      split
      next => exact .pure .nil
      next source =>
        exact single (obtainOne (List.forall_mem_singleton.mpr (.ofGot (gotSource source rfl))))
    next => exact .pure gotGiven

/-! ## Reports -/

theorem logNames (names : List String) :
    run.Ensures invocation earlier (Stateful.act (ModelRuns.logNames run.log names))
      fun _ _ => True := by
  induction names generalizing earlier with
  | nil => exact .pure trivial
  | cons name rest inductionHypothesis =>
    unfold ModelRuns.logNames
    rw [act_bind]
    exact .andThen (raw _) fun _ _ _ => inductionHypothesis

theorem listGenerated :
    run.Ensures invocation earlier (Stateful.act (ModelRuns.listGenerated run.log run.paths.output))
      fun _ _ => True := by
  unfold ModelRuns.listGenerated
  simp only [act_bind]
  refine .andThen (.askAny (.file (.list _)) (fun answer => answer)
    (fun _ => permits_of_plain rfl rfl) fun answer => by cases answer <;> rfl) fun _ files _ => ?_
  refine .andThen (raw _) fun _ _ _ => ?_
  refine .andThen (raw _) fun _ _ _ => ?_
  exact .andThen (logNames _) fun _ _ _ => .pure trivial

theorem writeSummary (summary : RunSummary) :
    run.Ensures invocation earlier
      (Stateful.act (ModelRuns.writeSummary run.paths.output summary)) fun later _ =>
        later.getLast? = some ⟨.file (.write
          ((run.paths.output.child reportsDirectory).child summaryFile)
            (prettyRecord summary.parts)), .ok ()⟩ := by
  unfold ModelRuns.writeSummary
  simp only [act_bind]
  refine .andThen (.askAny (.file (.makeDirectory _)) (fun answer => answer)
    (fun _ => permits_of_plain rfl rfl) fun answer => by cases answer <;> rfl) fun _ _ _ => ?_
  exact .bind (writeFile _ _) fun _ _ _ written => .pure written

theorem uploadSummary {summary : RunSummary} {text : String}
    (written : UncalledSince ⟨.file (.write
      ((run.paths.output.child reportsDirectory).child summaryFile) text), .ok ()⟩ earlier) :
    run.Ensures invocation earlier
      (Stateful.act (ModelRuns.uploadSummary run.settings.uploadUrl summary)) fun _ _ => True := by
  unfold ModelRuns.uploadSummary
  split
  next unset => exact .fail (.uploadUrl text unset written)
  next url _ =>
    simp only [act_bind]
    refine .andThen (.askAny (.api (.uploadReport _ _)) (fun answer => answer)
      (fun _ => permits_of_plain rfl rfl) fun answer => by cases answer <;> rfl) fun _ _ _ => ?_
    exact .andThen (note (by decide)) fun _ _ _ => .pure trivial

theorem reportStage :
    run.Ensures invocation earlier (run.reportStage invocation.common) fun _ _ => True := by
  unfold RunContext.reportStage
  refine .andThen listGenerated fun _ files _ => ?_
  split
  next =>
    refine .andThen .progress fun _ progress _ => ?_
    refine .bind (writeSummary _) fun _ path _ written => ?_
    refine .bind (uncalled (.of_getLast? written) (.say _) (say _)) fun _ _ _ ⟨_, since⟩ => ?_
    split
    next => exact .andThen (uploadSummary since) fun _ _ _ => say _
    next => exact .pure trivial
  next => exact .pure trivial

/-- What is needed is there, or the step fails.  Nothing was called before it. -/
theorem needed {found : Option Resource} {missing : String} {good : List Exchange → Resource → Prop}
    (entered : UncalledSince Stage.action.entry earlier)
    (holds : ∀ resource, found = some resource → good earlier resource) :
    run.Ensures invocation earlier (RunContext.needed found missing) fun later resource =>
      good later resource ∧ UncalledSince Stage.action.entry later := by
  cases found with
  | none => exact .fail (.missing missing entered)
  | some resource => exact .pure ⟨holds resource rfl, entered⟩

/-! ## The main pipeline -/

section

variable {options : MainOptions}

theorem buildPredictor {training : TrainingData} (got : training.AllGot earlier) :
    run.Ensures invocation earlier (run.buildPredictor options training)
      fun later predictor => AllGot later predictor.resources := by
  have origins : ∀ id ∈ training.datasets.map Resource.id, run.ReadyId invocation earlier id :=
    readyIds_of_allGot got.datasets
  unfold RunContext.buildPredictor
  split
  next =>
    refine .bind (obtainOne (readyIds_datasetOrigin origins)) fun _ ensemble _ gotEnsemble => ?_
    exact .pure (.single gotEnsemble)
  next =>
    refine .bind (obtainMany fun creation member => ?_) fun _ models _ gotModels => .pure gotModels
    unfold MainOptions.modelCreations at member
    split at member
    next =>
      rcases List.mem_map.mp member with ⟨dataset, listed, rfl⟩
      exact List.forall_mem_singleton.mpr (origins dataset listed)
    next =>
      rcases List.mem_map.mp member with ⟨index, _, rfl⟩
      exact readyIds_datasetOrigin origins

theorem modelStage {training : TrainingData} (main : invocation = .main options)
    (got : training.AllGot earlier) (entered : UncalledSince Stage.model.entry earlier) :
    run.Ensures invocation earlier (run.modelStage options training)
      fun later predictor => AllGot later predictor.resources := by
  unfold RunContext.modelStage
  split
  next text named =>
    refine .andThen (namedId (.ensemble options main named) entered) fun _ id _ => ?_
    exact .bind (fetchUnresolved .model id) fun _ _ _ gotEnsemble => .pure (.single gotEnsemble)
  next =>
    refine .bind (fetchGiven (fun _ => .model options main) entered)
      fun _ given grown ⟨gotGiven, _⟩ => ?_
    split
    next =>
      split
      next => exact .pure .nil
      next =>
        refine .bind (buildPredictor (got.mono grown)) fun _ predictor _ gotPredictor => ?_
        refine .andThen (publish gotPredictor) fun _ _ grownShared => ?_
        have gotShared := gotPredictor.mono grownShared
        split
        next => exact .andThen (say _) fun _ _ grownSaid => .pure (gotShared.mono grownSaid)
        next => exact .pure gotShared
    next => exact .pure gotGiven

theorem primary_got {predictor : Predictor} (got : AllGot earlier predictor.resources) :
    MaybeGot earlier predictor.primary? := by
  rcases predictor with ⟨ensemble | ensemble, models⟩
  · intro primary given
    exact got primary (List.mem_of_head? given)
  · exact .some (got ensemble List.mem_cons_self)

theorem predict {predictor : Predictor} {tests : List Resource}
    (got : AllGot earlier predictor.resources) (gotTests : AllGot earlier tests)
    (entered : UncalledSince Stage.action.entry earlier) :
    run.Ensures invocation earlier (run.predict options predictor tests) fun _ _ => True := by
  refine .bind (needed entered (primary_got got)) fun later primary grown ⟨gotPrimary, _⟩ => ?_
  refine .bind (obtainMany fun creation member => ?_) fun _ _ _ gotBatches =>
    saveNumbered gotBatches
  rcases List.mem_map.mp member with ⟨test, listed, rfl⟩
  exact readyIds_pair (.ofGot gotPrimary) (.ofGot ((gotTests test listed).mono grown))

theorem evaluate {predictor : Predictor} {training : TrainingData} {tests : List Resource}
    (got : AllGot earlier predictor.resources) (gotTraining : training.AllGot earlier)
    (gotTests : AllGot earlier tests) (entered : UncalledSince Stage.action.entry earlier) :
    run.Ensures invocation earlier (run.evaluate options predictor training tests)
      fun _ _ => True := by
  have gotDataset : MaybeGot earlier (tests.head? <|> training.datasets.head?) := by
    intro dataset given
    cases tests with
    | nil => exact gotTraining.datasets dataset (List.mem_of_head? given)
    | cons first rest =>
      cases given
      exact gotTests _ List.mem_cons_self
  refine .bind (needed entered (primary_got got)) fun later primary grown ⟨gotPrimary, uncalled⟩ => ?_
  refine .bind (needed uncalled (gotDataset.mono grown)) fun last dataset more ⟨gotFound, _⟩ => ?_
  refine .andThen (obtainOne (readyIds_pair (.ofGot (gotPrimary.mono more)) (.ofGot gotFound)))
    fun _ evaluation _ => ?_
  exact .andThen (writeResult _ _) fun _ files _ => saySaved _ files

theorem crossValidate {training : TrainingData} (got : training.AllGot earlier)
    (entered : UncalledSince Stage.action.entry earlier) :
    run.Ensures invocation earlier (run.crossValidate options training) fun _ _ => True := by
  have gotFirst : MaybeGot earlier training.datasets.head? :=
    fun dataset given => got.datasets dataset (List.mem_of_head? given)
  refine .bind (needed entered gotFirst) fun later dataset _ ⟨gotDataset, _⟩ => ?_
  refine .bind (obtainMany fun creation member => ?_) fun last models grown gotModels => ?_
  · rcases List.mem_map.mp member with ⟨index, _, rfl⟩
    exact List.forall_mem_singleton.mpr (.ofGot gotDataset)
  refine .andThen (obtainMany fun creation member => ?_) fun _ evaluations _ => ?_
  · rcases List.mem_map.mp member with ⟨⟨model, index⟩, numbered, rfl⟩
    have gotModel := gotModels model (List.fst_mem_of_mem_zipIdx numbered)
    exact readyIds_pair (.ofGot gotModel) (.ofGot (gotDataset.mono grown))
  exact .andThen (writeResult _ _) fun _ files _ => saySaved _ files

theorem act {action : ModelAction} {predictor : Predictor} {training : TrainingData}
    {tests : List Resource} (got : AllGot earlier predictor.resources)
    (gotTraining : training.AllGot earlier) (gotTests : AllGot earlier tests)
    (entered : UncalledSince Stage.action.entry earlier) :
    run.Ensures invocation earlier (run.act options action predictor training tests)
      fun _ _ => True := by
  cases action with
  | none => exact .pure trivial
  | predict => exact predict got gotTests entered
  | evaluate => exact evaluate got gotTraining gotTests entered
  | crossValidate => exact crossValidate gotTraining entered

end

/-! ## The cluster pipeline -/

section

variable {options : ClusterOptions}

theorem readCluster {path : Option Path} (named : ∀ file, path = some file →
      invocation = .cluster options ∧ options.clusterFile = some file) :
    run.Ensures invocation earlier (run.readCluster path) (run.Filed invocation) := by
  cases path with
  | none => exact .pure .nothing
  | some file =>
    rcases named file rfl with ⟨cluster, given⟩
    unfold RunContext.readCluster
    simp only [act_bind]
    refine .bind (readText _) fun later text _ read => ?_
    split
    next error malformed => exact .fail (.clusterFile file text error read malformed)
    next body document =>
      rw [act_bind]
      refine .bind (check (fun resource parsed => ?_) fun failure malformed =>
        .cluster file text body read document malformed) fun last resource grown supplied =>
          .pure (.cluster (Supplied.mono grown supplied))
      exact ⟨options, file, text, body, cluster, given, List.mem_of_getLast? read, document, parsed⟩

theorem namedCluster {text : Option String}
    (named : ∀ given, text = some given → invocation.Names .model .cluster given)
    (entered : UncalledSince Stage.model.entry earlier) :
    run.Ensures invocation earlier (RunContext.namedCluster text)
      fun _ references => ∃ ids : List ResourceId, references = ids.map .unresolved := by
  cases text with
  | none => exact .pure ⟨[], rfl⟩
  | some text => exact .andThen (namedId (named text rfl) entered) fun _ id _ => .pure ⟨[id], rfl⟩

theorem listedClusters (path : Option Path) :
    run.Ensures invocation earlier (run.listedClusters path)
      fun _ references => ∃ ids : List ResourceId, references = ids.map .unresolved := by
  cases path with
  | none => exact .pure ⟨[], rfl⟩
  | some path => exact .andThen (readIds path .cluster) fun _ ids _ => .pure ⟨ids, rfl⟩

/-- All of these resources are ready. -/
def AllReady (run : RunContext) (invocation : Invocation) (earlier : List Exchange)
    (resources : List Resource) : Prop :=
  ∀ resource ∈ resources, run.Ready invocation earlier resource

theorem AllReady.lasting : Lasting (AllReady run invocation) :=
  fun _ _ _ grown ready resource member => (ready resource member).mono grown

/-- The cluster of a file comes first.  The others are known by their identifiers alone. -/
theorem fetchClusters {filed : List ResourceReference} {ids : List ResourceId}
    (held : run.Filed invocation earlier filed)
    (entered : UncalledSince Stage.model.entry earlier) :
    run.Ensures invocation earlier (run.fetchAll .model (filed ++ ids.map .unresolved))
      (AllReady run invocation) := by
  have others : ∀ later, run.Ensures invocation later
      (run.fetchAll .model (ids.map .unresolved)) (AllReady run invocation) := fun _ =>
    (fetchUnresolvedAll .model ids).mono fun _ _ _ got resource member =>
      .got (got resource member)
  cases held with
  | nothing => exact others earlier
  | cluster supplied =>
    refine .bind (fetchSupplied supplied entered) fun _ resource _ ready => ?_
    refine .bind (others _) fun _ rest grown readyRest => ?_
    exact .pure (List.forall_mem_cons.mpr ⟨ready.mono grown, readyRest⟩)

theorem clusterStage {training : TrainingData} (cluster : invocation = .cluster options)
    (got : training.AllGot earlier) (entered : UncalledSince Stage.model.entry earlier) :
    run.Ensures invocation earlier (run.clusterStage options training)
      (AllReady run invocation) := by
  refine .bind (uncalled entered (.readCluster _) (readCluster fun file given => ⟨cluster, given⟩))
    fun filed fromFile grown ⟨held, uncalledFiled⟩ => ?_
  refine .bind (uncalled uncalledFiled (.namedCluster _)
    (namedCluster (fun _ => .cluster options cluster) uncalledFiled))
    fun called named grownNamed ⟨⟨namedIds, unresolvedNamed⟩, uncalledNamed⟩ => ?_
  refine .bind (uncalled uncalledNamed (.listedClusters _) (listedClusters _))
    fun listing listed grownListed ⟨⟨listedIds, unresolvedListed⟩, uncalledListed⟩ => ?_
  have gotNow := ((got.mono grown).mono grownNamed).mono grownListed
  split
  next =>
    split
    next => exact .pure (List.forall_mem_nil _)
    next =>
      refine .bind (obtainOne (readyIds_datasetOrigin (readyIds_of_allGot gotNow.datasets)))
        fun _ resource _ gotCluster => ?_
      refine .andThen (publish (.single gotCluster)) fun _ _ grownShared => ?_
      exact .pure (List.forall_mem_singleton.mpr (.got (gotCluster.mono grownShared)))
  next =>
    rw [unresolvedNamed, unresolvedListed, List.append_assoc, ← List.map_append]
    exact fetchClusters (held.mono (grownNamed.trans grownListed)) uncalledListed

theorem batchCentroids {cluster : Resource} {tests : List Resource}
    (ready : run.Ready invocation earlier cluster) (gotTests : AllGot earlier tests) :
    run.Ensures invocation earlier (run.batchCentroids options cluster tests)
      fun _ _ => True := by
  refine .bind (obtainMany fun creation member => ?_) fun _ _ _ gotBatches =>
    saveNumbered gotBatches
  rcases List.mem_map.mp member with ⟨test, listed, rfl⟩
  exact readyIds_pair ready.id (.ofGot (gotTests test listed))

theorem centroidDatasets {cluster : Resource} (ready : run.Ready invocation earlier cluster)
    (names : List String) :
    run.Ensures invocation earlier (run.centroidDatasets cluster names) fun _ _ => True := by
  unfold RunContext.centroidDatasets
  split
  next => exact say _
  next =>
    refine .andThen (fetchUnresolvedAll .action _) fun later _ grown => ?_
    split
    next => exact .pure trivial
    next =>
      refine .andThen (obtainMany fun creation member => ?_) fun _ _ _ => .pure trivial
      rcases List.mem_map.mp member with ⟨centroid, _, rfl⟩
      exact List.forall_mem_singleton.mpr (ready.mono grown).id

theorem useCluster {clusters tests : List Resource} (ready : AllReady run invocation earlier clusters)
    (gotTests : AllGot earlier tests) (entered : UncalledSince Stage.action.entry earlier)
    (names : Option (List String)) :
    run.Ensures invocation earlier (run.useCluster options clusters tests names)
      fun _ _ => True := by
  refine .bind (needed entered fun cluster given => ready cluster (List.mem_of_head? given))
    fun later cluster grown ⟨readyCluster, _⟩ => ?_
  have batch : run.Ensures invocation later (run.batchCentroids options cluster tests)
      fun _ _ => True := batchCentroids readyCluster (gotTests.mono grown)
  cases names with
  | none =>
    cases tests.isEmpty with
    | true => exact .pure trivial
    | false => exact .andThen batch fun _ _ _ => .pure trivial
  | some names =>
    cases tests.isEmpty with
    | true => exact centroidDatasets readyCluster names
    | false =>
      exact .andThen batch fun _ _ more => centroidDatasets (readyCluster.mono more) names

end

end Ensures

end RunContext

end ModelRuns
