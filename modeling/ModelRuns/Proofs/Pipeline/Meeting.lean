import ModelRuns.Proofs.Pipeline.Afresh
import ModelRuns.Proofs.Pipeline.Asking
import ModelRuns.Proofs.Pipeline.Conduct

namespace ModelRuns

open Stateful

/-!
# What a stage has met

A stage notes each resource that it works with, once it is finished: those named by the
user, those taken up from checkpoints and those it created.  The notes are made apart from
the requests, so nothing in the form of a trace forces both to agree.

`Tally` says of a stage that went well that they do: what it has noted is what it has looked
at and found finished, in this order, and everything it created is among that.  Its parts
are put together by `Tallies.bind`.  Obtaining is the part to look into, because there
resources are created first and waited for later.
-/

/-! ## Looks that find a finished resource -/

/-- The resource that a look was for, if it finds it finished. -/
def Exchange.settled? : Exchange → Option ResourceId
  | ⟨.api (.get id _), .ok resource⟩ => if resource.status.isFinished then some id else none
  | _ => none

/-- The resources that were found finished, in the order of the looks. -/
def settled (trace : List Exchange) : List ResourceId := trace.filterMap Exchange.settled?

theorem settled_append (front back : List Exchange) :
    settled (front ++ back) = settled front ++ settled back := List.filterMap_append

theorem settled_cons (exchange : Exchange) (rest : List Exchange) :
    settled (exchange :: rest) = exchange.settled?.toList ++ settled rest := by
  cases found : exchange.settled? with
  | none => exact List.filterMap_cons_none found
  | some id => exact List.filterMap_cons_some found

/-- A request that neither creates a resource nor looks at one, and moves no stage. -/
def Request.Silent : Request → Prop
  | .api (.create _) => False
  | .api (.get _ _) => False
  | .note event => event.type ≠ moveType
  | _ => True

namespace Exchange

variable {exchange : Exchange}

theorem settled?_of_silent (silent : exchange.asked.Silent) : exchange.settled? = none := by
  rcases exchange with ⟨asked, answer⟩
  cases asked with
  | api request =>
    cases request with
    | get id query => exact silent.elim
    | _ => rfl
  | _ => rfl

theorem created?_of_silent (silent : exchange.asked.Silent) : exchange.created? = none := by
  rcases exchange with ⟨asked, answer⟩
  cases asked with
  | api request =>
    cases request with
    | create creation => exact silent.elim
    | _ => rfl
  | _ => rfl

theorem move?_of_silent (silent : exchange.asked.Silent) : exchange.move? = none := by
  rcases exchange with ⟨asked, answer⟩
  cases asked with
  | note event => exact if_neg silent
  | _ => rfl

end Exchange

section

variable {trace : List Exchange} (silent : ∀ exchange ∈ trace, exchange.asked.Silent)

include silent

theorem settled_of_silent : settled trace = [] :=
  List.filterMap_eq_nil_iff.mpr fun _ member => Exchange.settled?_of_silent (silent _ member)

theorem created_of_silent : created trace = [] :=
  List.filterMap_eq_nil_iff.mpr fun _ member => Exchange.created?_of_silent (silent _ member)

end

/-! ## A finished cluster in a file -/

/-- The file of a cluster that a run is given. -/
def Invocation.clusterFile : Invocation → Option Path
  | .main _ => none
  | .cluster options => options.clusterFile

/-- The finished resource that a text describes. -/
def finishedIn? (text : String) : Option ResourceId :=
  (Json.read text).toOption.bind fun body => (Resource.parse body).toOption.bind fun resource =>
    if resource.status.isFinished then some resource.id else none

/-- The finished resource that the file of a cluster describes, where it is read. -/
def RunContext.supplied? (run : RunContext) (invocation : Invocation) :
    Exchange → Option ResourceId
  | ⟨.file (.read path), .ok text⟩ =>
    if invocation.clusterFile.map run.resolvePath = some path then finishedIn? text else none
  | _ => none

theorem RunContext.supplied_of_none {run : RunContext} (invocation : Invocation)
    (without : invocation.clusterFile = none) (trace : List Exchange) :
    (trace.head?.bind (run.supplied? invocation)).toList = [] := by
  have nothing (exchange : Exchange) : run.supplied? invocation exchange = none := by
    unfold supplied?
    split
    next => exact if_neg (by simp [without])
    next => rfl
  cases trace with
  | nil => rfl
  | cons exchange rest =>
    rw [List.head?_cons, Option.bind_some, nothing]
    rfl

/-! ## Notes -/

/-- Resources noted behind others, each once for a stage. -/
def noted (met more : List (Stage × ResourceId)) : List (Stage × ResourceId) :=
  more.foldl (fun met found => if met.contains found then met else met ++ [found]) met

theorem noted_append (met front back : List (Stage × ResourceId)) :
    noted met (front ++ back) = noted (noted met front) back := List.foldl_append

/-- How the body of a stage went that succeeded and found resources.  What it met is what it
found, and everything it created is among that. -/
structure Tally (stage : Stage) (found : List ResourceId) (before : Progress)
    (trace : List Exchange) (after : Progress) : Prop where
  still : ∀ exchange ∈ trace, exchange.move? = none
  states : after.cursor.state = before.cursor.state
  met : after.met = noted before.met (found.map (Prod.mk stage))
  awaited : ∀ made ∈ created trace, made.2 ∈ found

namespace Tally

variable {stage : Stage} {before middle after : Progress} {trace front back : List Exchange}
  {found more : List ResourceId}

theorem append (first : Tally stage found before front middle)
    (second : Tally stage more middle back after) :
    Tally stage (found ++ more) before (front ++ back) after where
  still := List.forall_mem_append.mpr ⟨first.still, second.still⟩
  states := second.states.trans first.states
  met := by rw [second.met, first.met, List.map_append, noted_append]
  awaited := by
    rw [created_append]
    refine List.forall_mem_append.mpr ⟨fun made member => ?_, fun made member => ?_⟩
    · exact List.mem_append_left _ (first.awaited made member)
    · exact List.mem_append_right _ (second.awaited made member)

/-- Silent requests find nothing. -/
theorem of_silent (silent : ∀ exchange ∈ trace, exchange.asked.Silent)
    (states : after.cursor.state = before.cursor.state) (met : after.met = before.met) :
    Tally stage (settled trace) before trace after := by
  rw [settled_of_silent silent]
  exact ⟨fun _ member => Exchange.move?_of_silent (silent _ member), states, met,
    created_of_silent silent ▸ List.forall_mem_nil _⟩

end Tally

/-- How resources were created.  Nothing was looked at meanwhile. -/
structure Makes (ids : List ResourceId) (before : Progress) (trace : List Exchange)
    (after : Progress) : Prop where
  same : after = before
  still : ∀ exchange ∈ trace, exchange.move? = none
  unsettled : settled trace = []
  listed : ∀ made ∈ created trace, made.2 ∈ ids

namespace Makes

variable {before middle after : Progress} {trace front back : List Exchange}
  {ids others : List ResourceId}

theorem append (first : Makes ids before front middle) (second : Makes others middle back after) :
    Makes (ids ++ others) before (front ++ back) after where
  same := second.same.trans first.same
  still := List.forall_mem_append.mpr ⟨first.still, second.still⟩
  unsettled := by rw [settled_append, first.unsettled, second.unsettled, List.nil_append]
  listed := by
    rw [created_append]
    refine List.forall_mem_append.mpr ⟨fun made member => ?_, fun made member => ?_⟩
    · exact List.mem_append_left _ (first.listed made member)
    · exact List.mem_append_right _ (second.listed made member)

theorem of_silent (silent : ∀ exchange ∈ trace, exchange.asked.Silent) :
    Makes [] before trace before where
  same := rfl
  still exchange member := Exchange.move?_of_silent (silent exchange member)
  unsettled := settled_of_silent silent
  listed := created_of_silent silent ▸ List.forall_mem_nil _

theorem of_act {α : Type} {action : Action α} {outcome : Except Failure α} {after : Progress}
    (goes : Goes (Stateful.act action) before trace outcome after)
    (silent : action.Asks Request.Silent) : Makes [] before trace after := by
  rcases (goes_act_iff _ _ _ _ _).mp goes with ⟨yields, rfl⟩
  exact .of_silent (silent _ _ yields)

/-- Where nothing was created, nothing is found either. -/
theorem tally {stage : Stage} (makes : Makes [] before trace after) :
    Tally stage (settled trace) before trace after := by
  rw [makes.unsettled]
  exact ⟨makes.still, by rw [makes.same], by rw [makes.same]; rfl, makes.listed⟩

/-- What was created is found later. -/
theorem followed {stage : Stage} {found : List ResourceId} (makes : Makes ids before front middle)
    (tally : Tally stage found middle back after) (awaited : ∀ id ∈ ids, id ∈ found) :
    Tally stage found before (front ++ back) after where
  still := List.forall_mem_append.mpr ⟨makes.still, tally.still⟩
  states := makes.same ▸ tally.states
  met := makes.same ▸ tally.met
  awaited := by
    rw [created_append]
    exact List.forall_mem_append.mpr
      ⟨fun made member => awaited _ (makes.listed made member), tally.awaited⟩

end Makes

/-- A step of a stage that succeeds has met what it looked at and found finished. -/
def Tallies {α : Type} (stage : Stage) (step : Step α) : Prop :=
  ∀ before trace value after, Goes step before trace (.ok value) after →
    (∀ exchange ∈ trace, exchange.Faithful) → Tally stage (settled trace) before trace after

namespace Tallies

variable {α β : Type} {stage : Stage}

theorem bind {step : Step β} {next : β → Step α} (first : Tallies stage step)
    (second : ∀ value, Tallies stage (next value)) : Tallies stage (step >>= next) := by
  intro before trace value after goes faithful
  rcases goes_bind_ok goes with ⟨front, back, found, middle, rfl, begun, ended⟩
  rcases List.forall_mem_append.mp faithful with ⟨faithfulFront, faithfulBack⟩
  rw [settled_append]
  exact (first _ _ _ _ begun faithfulFront).append (second found _ _ _ _ ended faithfulBack)

theorem act {action : Action α} (silent : action.Asks Request.Silent) :
    Tallies stage (Stateful.act action) :=
  fun _ _ _ _ goes _ => (Makes.of_act goes silent).tally

theorem pure (value : α) : Tallies stage (Pure.pure value : Step α) := act (.pure value)

theorem ofExcept (result : Except Failure α) :
    Tallies stage (Stateful.act (Action.ofExcept result)) := act (.ofExcept result)

theorem progress : Tallies stage (get : Step Progress) := by
  intro before trace value after goes _
  rcases (goes_get_iff _ _ _ _).mp goes with ⟨rfl, _, rfl⟩
  exact .of_silent (List.forall_mem_nil _) rfl rfl

theorem cursor : Tallies stage (Stateful.cursor : Step Cursor) := bind progress fun _ => pure _

theorem changing {change : Progress → Progress}
    (states : ∀ progress, (change progress).cursor.state = progress.cursor.state)
    (met : ∀ progress, (change progress).met = progress.met) :
    Tallies stage (modify change : Step Unit) := by
  intro before trace value after goes _
  rcases (goes_modify_iff _ _ _ _ _).mp goes with ⟨rfl, _, rfl⟩
  exact .of_silent (List.forall_mem_nil _) (states before) (met before)

/-! ## Small parts -/

variable {run : RunContext}

theorem note {level type : String} {payload : Fields} (other : type ≠ moveType) :
    Tallies stage (Stateful.act (Action.note level type payload)) :=
  act (.asking (.note _) .ok other)

theorem step (log : SessionLog) (message : String) : (log.step message).Asks Request.Silent := by
  refine .bind (.asking .now .ok trivial) fun time => ?_
  refine .bind (.asking (.file (.append _ _)) (fun answer => answer) trivial) fun _ =>
    .ite ?_ (.pure ())
  exact .asking (.printLine _) (fun answer => answer) trivial

theorem say (message : String) : Tallies stage (run.say message) := act (step run.log message)

theorem sayAll {messages : List β} (message : β → String) :
    Tallies stage (messages.forM fun item => run.say (message item)) := by
  induction messages with
  | nil => exact pure ()
  | cons item rest inductionHypothesis => exact bind (say _) fun _ => inductionHypothesis

theorem saySaved (what : String) (files : List Path) : Tallies stage (run.saySaved what files) :=
  sayAll fun file : Path => what ++ " saved to " ++ file.text ++ "."

theorem needed (found : Option α) (missing : String) :
    Tallies stage (RunContext.needed found missing) := ofExcept _

theorem namedId (text : String) (kind : ResourceKind) :
    Tallies stage (RunContext.namedId text kind) := ofExcept _

theorem of_readIds {path : Path} {kind : ResourceKind} {before after : Progress}
    {trace : List Exchange} {ids : List ResourceId}
    (goes : Goes (run.readIds path kind) before trace (.ok ids) after) :
    Makes [] before trace after :=
  .of_act goes (.bind (.asking (.file (.read _)) (fun answer => answer) trivial) fun _ =>
    .ofExcept _)

theorem readIds (path : Path) (kind : ResourceKind) : Tallies stage (run.readIds path kind) :=
  fun _ _ _ _ goes _ => (of_readIds goes).tally

theorem readJson (path : Path) : Tallies stage (run.readJson path) := by
  refine act (.bind (.asking (.file (.read _)) (fun answer => answer) trivial) fun text => ?_)
  cases Json.read text with
  | ok document => exact .pure document
  | error error => exact .throw _

theorem publish (changes : Option Json) (resources : List Resource) (message : String) :
    Tallies stage (run.publish changes resources message) := by
  have updated (changes : Json) : Tallies stage
      (resources.forM fun resource => RunContext.update resource changes) := by
    induction resources with
    | nil => exact pure ()
    | cons resource rest inductionHypothesis =>
      refine bind (bind (note (by decide)) fun _ => bind (act ?_) fun _ => pure _)
        fun _ => inductionHypothesis
      exact .asking (.api (.update _ _)) (fun answer => answer) trivial
  cases changes with
  | none => exact pure ()
  | some changes => exact bind (updated changes) fun _ => say message

theorem saveTo (id : ResourceId) (path : Path) : Tallies stage (run.saveTo id path) :=
  bind (act (.asking (.api (.download _)) (fun answer => answer) trivial)) fun _ =>
    bind (act (.asking (.file (.write _ _)) (fun answer => answer) trivial)) fun _ => say _

theorem saveNumbered (path : Path) (index : Nat) (resources : List Resource) :
    Tallies stage (run.saveNumbered path index resources) := by
  induction resources generalizing index with
  | nil => exact pure ()
  | cons resource rest inductionHypothesis =>
    exact bind (saveTo _ _) fun _ => inductionHypothesis _

/-! ## Waiting -/

/-- Looks that end well settle the resource they are for. -/
theorem of_poll {intervalMs : Nat} {id : ResourceId} {query : Option String} {looked left : Nat}
    {trace : List Exchange} {resource : Resource}
    (yields : (pollResource intervalMs id query looked left).Yields trace (.ok resource)) :
    settled trace = [id] ∧ created trace = [] ∧ ∀ exchange ∈ trace, exchange.move? = none := by
  induction left generalizing looked trace with
  | zero =>
    rcases (Action.yields_throw_iff _ _ _).mp yields with ⟨_, impossible⟩
    cases impossible
  | succ left inductionHypothesis =>
    cases look_of_yields _ _ _ _ _ _ _ yields with
    | finished _ ended =>
      have found : Exchange.settled? ⟨.api (.get id query), .ok resource⟩ = some id := if_pos ended
      refine ⟨?_, rfl, ?_⟩
      · rw [settled, List.filterMap_cons_some found]
        rfl
      · refine List.forall_mem_cons.mpr ⟨rfl, List.forall_mem_singleton.mpr ?_⟩
        exact Exchange.move?_of_type_ne (by decide) _ _
    | pending found unfinished _ _ again =>
      rcases inductionHypothesis again with ⟨same, uncreated, still⟩
      have unsettled : Exchange.settled? ⟨.api (.get id query), .ok found⟩ = none :=
        if_neg (by simp [unfinished])
      refine ⟨?_, uncreated, ?_⟩
      · rw [settled, List.filterMap_cons_none unsettled]
        exact same
      · exact List.forall_mem_cons.mpr ⟨rfl, List.forall_mem_cons.mpr ⟨rfl,
          List.forall_mem_cons.mpr ⟨rfl, still⟩⟩⟩

/-- A resource that is waited for is met. -/
theorem of_awaiting {id : ResourceId} {before after : Progress} {trace : List Exchange}
    {resource : Resource}
    (goes : Goes (Stateful.act (run.policy.await id none) >>= fun resource =>
      RunContext.meet stage resource.id >>= fun _ => Pure.pure resource) before trace
      (.ok resource) after)
    (faithful : ∀ exchange ∈ trace, exchange.Faithful) :
    Tally stage [id] before trace after ∧ settled trace = [id] := by
  rcases goes_bind_ok goes with ⟨looking, noting, found, middle, rfl, looks, notes⟩
  rcases (goes_act_iff _ _ _ _ _).mp looks with ⟨polls, rfl⟩
  rcases goes_map_ok (fun _ => found) notes with ⟨_, rfl, meets⟩
  rcases (goes_modify_iff _ _ _ _ _).mp meets with ⟨rfl, _, rfl⟩
  rw [List.append_nil] at faithful ⊢
  rcases of_poll polls with ⟨same, uncreated, still⟩
  refine ⟨⟨still, ?_, ?_, uncreated ▸ List.forall_mem_nil _⟩, same⟩
  · rw [Progress.cursor_meet]
  · rw [id_of_poll polls faithful]
    exact Progress.met_meet ..

theorem awaiting (id : ResourceId) :
    Tallies stage (Stateful.act (run.policy.await id none) >>= fun resource =>
      RunContext.meet stage resource.id >>= fun _ => Pure.pure resource) := by
  intro before trace resource after goes faithful
  rcases of_awaiting goes faithful with ⟨tally, same⟩
  rw [same]
  exact tally

/-- All of several resources are waited for. -/
theorem of_awaitAll {ids : List ResourceId} {before after : Progress} {trace : List Exchange}
    {resources : List Resource}
    (goes : Goes (run.awaitAll stage ids) before trace (.ok resources) after)
    (faithful : ∀ exchange ∈ trace, exchange.Faithful) :
    Tally stage ids before trace after ∧ settled trace = ids := by
  induction ids generalizing before trace resources with
  | nil =>
    rcases (goes_pure_iff _ _ _ _ _).mp goes with ⟨rfl, _, rfl⟩
    exact ⟨.of_silent (List.forall_mem_nil _) rfl rfl, rfl⟩
  | cons id rest inductionHypothesis =>
    rcases goes_bind_ok goes with ⟨front, back, resource, middle, rfl, awaited, others⟩
    rcases goes_map_ok (fun others => resource :: others) others with ⟨more, rfl, waits⟩
    rcases List.forall_mem_append.mp faithful with ⟨faithfulFront, faithfulBack⟩
    rcases of_awaiting awaited faithfulFront with ⟨first, same⟩
    rcases inductionHypothesis waits faithfulBack with ⟨second, sameRest⟩
    exact ⟨first.append second, by rw [settled_append, same, sameRest, List.singleton_append]⟩

theorem fetch (id : ResourceId) : Tallies stage (run.fetch stage (.unresolved id)) :=
  bind (say _) fun _ => awaiting id

theorem fetchAll (ids : List ResourceId) :
    Tallies stage (run.fetchAll stage (ids.map .unresolved)) := by
  induction ids with
  | nil => exact pure []
  | cons id rest inductionHypothesis =>
    exact bind (fetch id) fun _ => bind inductionHypothesis fun _ => pure _

theorem fetchNamed (kind : ResourceKind) (text : Option String) :
    Tallies stage (run.fetchNamed stage kind text) := by
  cases text with
  | none => exact pure []
  | some text => exact bind (namedId text kind) fun id => bind (fetch id) fun _ => pure _

theorem fetchListed (kind : ResourceKind) (path : Option Path) :
    Tallies stage (run.fetchListed stage kind path) := by
  cases path with
  | none => exact pure []
  | some path => exact bind (readIds path kind) fun ids => fetchAll ids

theorem fetchGiven (kind : ResourceKind) (text : Option String) (path : Option Path) :
    Tallies stage (run.fetchGiven stage kind text path) :=
  bind (fetchNamed kind text) fun _ => bind (fetchListed kind path) fun _ => pure _

/-! ## Obtaining -/

theorem takeUp (checkpoint : Checkpoint) (count : Nat) :
    Tallies stage (run.takeUp checkpoint count) := by
  have missing : Tallies stage (Stateful.checkpointMissing : Step Unit) := by
    have ends : Tallies stage (Stateful.changeCursor fun cursor : Cursor =>
        { cursor with resuming := false } : Step Unit) :=
      changing (fun _ => rfl) fun _ => rfl
    refine bind cursor fun found => ?_
    cases found.resuming with
    | false => exact ends
    | true => exact bind (note (by decide)) fun _ => ends
  refine bind cursor fun found => ?_
  cases found.resuming with
  | false => exact pure []
  | true =>
    refine bind (act ?_) fun held => ?_
    · refine .bind (.asking (.file (.fileExists _)) .ok trivial) fun there => .ite ?_ (.pure [])
      exact .bind (.asking (.file (.read _)) (fun answer => answer) trivial) fun _ => .ofExcept _
    refine bind (sayAll fun id : ResourceId => "Reusing " ++ id.text ++ ".") fun _ => ?_
    split
    next => exact bind missing fun _ => pure _
    next => exact pure _

/-- To create a resource is one creation between silent requests. -/
theorem of_create {checkpoint : Checkpoint} {creation : Creation} {before after : Progress}
    {trace : List Exchange} {id : ResourceId}
    (goes : Goes (run.create stage checkpoint creation) before trace (.ok id) after) :
    Makes [id] before trace after := by
  have appends (line : ResourceId) :
      (Checkpoint.append run.paths.output checkpoint line).Asks Request.Silent :=
    .asking (.file (.append _ _)) (fun answer => answer) trivial
  have notes (payload : Fields) :
      (Action.note "info" "resource.created" payload).Asks Request.Silent :=
    .asking (.note _) .ok (by decide : ("resource.created" : String) ≠ moveType)
  rcases goes_bind_ok goes with ⟨_, _, _, _, rfl, said, creates⟩
  rcases (goes_act_iff _ _ _ _ _).mp said with ⟨saying, rfl⟩
  rcases goes_bind_ok creates with ⟨_, _, resource, _, rfl, asked, records⟩
  rcases RunContext.goes_creation asked with ⟨rfl, rfl⟩
  rcases goes_bind_ok records with ⟨_, _, _, _, rfl, lined, rest⟩
  rcases (goes_act_iff _ _ _ _ _).mp lined with ⟨appending, rfl⟩
  rcases goes_bind_ok rest with ⟨_, _, _, _, rfl, noted, tells⟩
  rcases (goes_act_iff _ _ _ _ _).mp noted with ⟨noting, rfl⟩
  rcases goes_map_ok (fun _ => resource.id) tells with ⟨_, rfl, telling⟩
  rcases (goes_act_iff _ _ _ _ _).mp telling with ⟨last, rfl⟩
  have made (here : Progress) :
      Makes [resource.id] here [RunContext.creating creation resource] here :=
    ⟨rfl, List.forall_mem_singleton.mpr rfl, rfl, List.forall_mem_singleton.mpr List.mem_cons_self⟩
  exact (Makes.of_silent (step _ _ _ _ saying)).append ((made _).append
    ((Makes.of_silent (appends _ _ _ appending)).append
      ((Makes.of_silent (notes _ _ _ noting)).append (.of_silent (step _ _ _ _ last)))))

theorem of_createAll {checkpoint : Checkpoint} {creations : List Creation}
    {before after : Progress} {trace : List Exchange} {ids : List ResourceId}
    (goes : Goes (run.createAll stage checkpoint creations) before trace (.ok ids) after) :
    Makes ids before trace after := by
  induction creations generalizing before trace ids with
  | nil =>
    rcases (goes_pure_iff _ _ _ _ _).mp goes with ⟨rfl, same, rfl⟩
    cases same
    exact .of_silent (List.forall_mem_nil _)
  | cons creation rest inductionHypothesis =>
    rcases goes_bind_ok goes with ⟨_, _, id, _, rfl, creates, others⟩
    rcases goes_map_ok (fun others => id :: others) others with ⟨more, rfl, creating⟩
    exact (of_create creates).append (inductionHypothesis creating)

/-- What is created is waited for in the end. -/
theorem obtainMany {checkpoint : Checkpoint} {creations : List Creation} :
    Tallies stage (run.obtainMany stage checkpoint creations) := by
  refine bind (takeUp checkpoint _) fun known => ?_
  intro before trace resources after goes faithful
  rcases goes_bind_ok goes with ⟨front, back, created, middle, rfl, creates, awaits⟩
  have makes := of_createAll creates
  rcases of_awaitAll awaits fun exchange member =>
    faithful exchange (List.mem_append_right front member) with ⟨tally, same⟩
  rw [settled_append, makes.unsettled, same]
  exact makes.followed tally fun id member => List.mem_append_right known member

theorem obtainOne {checkpoint : Checkpoint} {creation : Creation} :
    Tallies stage (run.obtainOne stage checkpoint creation) :=
  fun _ _ _ _ goes faithful =>
    obtainMany _ _ _ _ (RunContext.goes_obtainMany_of_single goes) faithful

/-! ## Training data -/

variable {common : CommonOptions}

theorem sourceStage : Tallies .source (run.sourceStage common) := by
  unfold RunContext.sourceStage
  split
  next => exact bind (namedId _ _) fun id => bind (fetch id) fun _ => pure _
  next => exact pure _
  next => exact bind obtainOne fun _ => pure _

theorem firstDatasets (source : Option Resource) :
    Tallies .dataset (run.firstDatasets common source) := by
  refine bind (fetchGiven _ _ _) fun given => ?_
  split
  next => exact bind obtainOne fun _ => pure _
  next => exact pure _

theorem withNewFields (first : Resource) (datasets : List Resource) :
    Tallies .dataset (run.withNewFields common first datasets) := by
  unfold RunContext.withNewFields
  split
  next => exact pure _
  next => exact bind (readJson _) fun fields => bind obtainOne fun _ => pure _

theorem merged (datasets : List Resource) : Tallies .dataset (run.merged common datasets) := by
  unfold RunContext.merged
  split
  next => exact bind obtainOne fun _ => pure _
  next => exact pure _

theorem exportDataset (dataset : Resource) :
    Tallies .dataset (run.exportDataset common dataset) := by
  unfold RunContext.exportDataset
  split
  next => exact pure ()
  next => exact saveTo _ _

theorem split (dataset : Resource) (datasets : List Resource) :
    Tallies .dataset (run.split common dataset datasets) := by
  unfold RunContext.split
  split
  next => exact bind obtainOne fun _ => bind obtainOne fun _ => pure _
  next => exact pure _

theorem divided (limit : Option CategoryLimit) (training : TrainingData) :
    Tallies .dataset (run.divided common limit training) := by
  unfold RunContext.divided
  split
  next => exact bind (ofExcept _) fun found => bind obtainMany fun _ => pure _
  next => exact pure _

theorem datasetStage (source : Option Resource) (limit : Option CategoryLimit) :
    Tallies .dataset (run.datasetStage common source limit) := by
  refine bind (firstDatasets source) fun given => ?_
  split
  next => exact pure _
  next =>
    refine bind (withNewFields _ _) fun extended => bind (merged _) fun datasets =>
      bind (publish _ _ _) fun _ => ?_
    split
    next => exact pure _
    next =>
      exact bind (exportDataset _) fun _ => bind (split _ _) fun _ => divided _ _

/-! ## Test data -/

theorem testSource : Tallies .testData (run.testSource common) := by
  unfold RunContext.testSource
  split
  next => exact bind (namedId _ _) fun id => bind (fetch id) fun _ => pure _
  next => exact pure _
  next => exact bind obtainOne fun _ => pure _

theorem testDataStage (training : TrainingData) :
    Tallies .testData (run.testDataStage common training) := by
  unfold RunContext.testDataStage
  split
  next => exact pure _
  next =>
    refine bind (fetchGiven _ _ _) fun given => ?_
    split
    next =>
      refine bind testSource fun source => ?_
      split
      next => exact pure _
      next => exact bind obtainOne fun _ => pure _
    next => exact pure _

/-! ## Models and actions on them -/

variable {options : MainOptions}

theorem modelStage (training : TrainingData) :
    Tallies .model (run.modelStage options training) := by
  have built : Tallies .model (run.buildPredictor options training) := by
    unfold RunContext.buildPredictor
    split
    next => exact bind obtainOne fun _ => pure _
    next => exact bind obtainMany fun _ => pure _
  unfold RunContext.modelStage
  split
  next => exact bind (namedId _ _) fun id => bind (fetch id) fun _ => pure _
  next =>
    refine bind (fetchGiven _ _ _) fun given => ?_
    split
    next =>
      split
      next => exact pure _
      next =>
        refine bind built fun predictor => bind (publish _ _ _) fun _ => ?_
        split
        next => exact bind (say _) fun _ => pure _
        next => exact pure _
    next => exact pure _

theorem writeResult (base : Path) (result : Json) :
    Tallies stage (Stateful.act (ModelRuns.writeResult base result)) :=
  act (Asks.writeResult (fun _ _ => trivial) base result)

theorem predict (predictor : Predictor) (tests : List Resource) :
    Tallies .action (run.predict options predictor tests) :=
  bind (needed _ _) fun _ => bind obtainMany fun _ => saveNumbered _ _ _

theorem evaluate (predictor : Predictor) (training : TrainingData) (tests : List Resource) :
    Tallies .action (run.evaluate options predictor training tests) :=
  bind (needed _ _) fun _ => bind (needed _ _) fun _ =>
    bind obtainOne fun _ => bind (writeResult _ _) fun _ => saySaved _ _

theorem crossValidate (training : TrainingData) :
    Tallies .action (run.crossValidate options training) :=
  bind (needed _ _) fun _ => bind obtainMany fun _ => bind obtainMany fun _ =>
    bind (writeResult _ _) fun _ => saySaved _ _

theorem modelAction (action : ModelAction) (predictor : Predictor) (training : TrainingData)
    (tests : List Resource) :
    Tallies .action (run.act options action predictor training tests) := by
  cases action with
  | none => exact pure ()
  | predict => exact predict _ _
  | evaluate => exact evaluate _ _ _
  | crossValidate => exact crossValidate _

/-! ## Clusters -/

variable {clusterOptions : ClusterOptions}

/-- A finished resource at hand is met without a look. -/
theorem of_fetchResolved {resource value : Resource} {before after : Progress}
    {trace : List Exchange}
    (goes : Goes (run.fetch stage (.resolved resource)) before trace (.ok value) after)
    (faithful : ∀ exchange ∈ trace, exchange.Faithful) :
    Tally stage ((if resource.status.isFinished then [resource.id] else []) ++ settled trace)
      before trace after := by
  have looks : Goes (Stateful.act (run.policy.resolve (.resolved resource) none) >>= fun resource =>
      RunContext.meet stage resource.id >>= fun _ => Pure.pure resource) before trace (.ok value)
      after := goes
  cases ended : resource.status.isFinished with
  | true =>
    have atHand : run.policy.resolve (.resolved resource) none = Pure.pure resource := if_pos ended
    rw [atHand] at looks
    rcases goes_bind_ok looks with ⟨_, _, found, _, rfl, given, notes⟩
    rcases (goes_act_iff _ _ _ _ _).mp given with ⟨ready, rfl⟩
    rcases (Action.yields_pure_iff _ _ _).mp ready with ⟨rfl, same⟩
    cases same
    rcases goes_map_ok (fun _ => resource) notes with ⟨_, _, meets⟩
    rcases (goes_modify_iff _ _ _ _ _).mp meets with ⟨rfl, _, rfl⟩
    exact ⟨List.forall_mem_nil _, by rw [Progress.cursor_meet], Progress.met_meet ..,
      List.forall_mem_nil _⟩
  | false =>
    have awaits : run.policy.resolve (.resolved resource) none =
        run.policy.await resource.id none := if_neg (by simp [ended])
    rw [awaits] at looks
    exact awaiting _ _ _ _ _ looks faithful

/-- Among the resources that are fetched, the one at hand comes first. -/
theorem of_fetchAllResolved {resource : Resource} {ids : List ResourceId} {values : List Resource}
    {before after : Progress} {trace : List Exchange}
    (goes : Goes (run.fetchAll stage (.resolved resource :: ids.map ResourceReference.unresolved))
      before trace (.ok values) after)
    (faithful : ∀ exchange ∈ trace, exchange.Faithful) :
    Tally stage ((if resource.status.isFinished then [resource.id] else []) ++ settled trace)
      before trace after := by
  rcases goes_bind_ok goes with ⟨front, back, value, _, rfl, fetched, rest⟩
  rcases goes_map_ok (fun others => value :: others) rest with ⟨_, _, others⟩
  rcases List.forall_mem_append.mp faithful with ⟨faithfulFront, faithfulBack⟩
  rw [settled_append, ← List.append_assoc]
  exact (of_fetchResolved fetched faithfulFront).append
    (fetchAll _ _ _ _ _ others faithfulBack)

/-- References that are only identifiers. -/
def Unresolved (references : List ResourceReference) : Prop :=
  ∃ ids : List ResourceId, references = ids.map .unresolved

theorem of_namedCluster {text : Option String} {before after : Progress} {trace : List Exchange}
    {references : List ResourceReference}
    (goes : Goes (RunContext.namedCluster text) before trace (.ok references) after) :
    Makes [] before trace after ∧ Unresolved references := by
  cases text with
  | none =>
    rcases (goes_pure_iff _ _ _ _ _).mp goes with ⟨rfl, same, rfl⟩
    cases same
    exact ⟨.of_silent (List.forall_mem_nil _), [], rfl⟩
  | some text =>
    rcases goes_map_ok (fun id => [ResourceReference.unresolved id]) goes with ⟨id, rfl, named⟩
    exact ⟨.of_act named (.ofExcept _), [id], rfl⟩

theorem of_listedClusters {path : Option Path} {before after : Progress} {trace : List Exchange}
    {references : List ResourceReference}
    (goes : Goes (run.listedClusters path) before trace (.ok references) after) :
    Makes [] before trace after ∧ Unresolved references := by
  cases path with
  | none =>
    rcases (goes_pure_iff _ _ _ _ _).mp goes with ⟨rfl, same, rfl⟩
    cases same
    exact ⟨.of_silent (List.forall_mem_nil _), [], rfl⟩
  | some path =>
    rcases goes_map_ok (fun ids : List ResourceId => ids.map ResourceReference.unresolved) goes with
      ⟨ids, rfl, listed⟩
    exact ⟨of_readIds listed, ids, rfl⟩

/-- What the stage of the clusters meets comes from looks, apart from a finished resource that
the file of a cluster describes.  That one comes first. -/
theorem of_clusterStage {training : TrainingData} {before after : Progress} {trace : List Exchange}
    {clusters : List Resource}
    (goes : Goes (run.clusterStage clusterOptions training) before trace (.ok clusters) after)
    (faithful : ∀ exchange ∈ trace, exchange.Faithful) :
    Tally .model ((trace.head?.bind (run.supplied? (.cluster clusterOptions))).toList ++
      settled trace) before trace after := by
  rcases goes_bind_ok goes with ⟨first, _, references, reached, rfl, wasRead, rest⟩
  rcases goes_bind_ok rest with ⟨second, _, named, _, rfl, names, rest⟩
  rcases goes_bind_ok rest with ⟨third, last, listed, begun, rfl, lists, rest⟩
  rcases of_namedCluster names with ⟨quiet, ids, rfl⟩
  rcases of_listedClusters lists with ⟨quietAgain, others, rfl⟩
  rw [← List.append_assoc second, ← List.append_assoc first] at faithful ⊢
  have faithfulLast : ∀ exchange ∈ last, exchange.Faithful := fun exchange member =>
    faithful exchange (List.mem_append_right _ member)
  have finish {supplied : List ResourceId} (reading : Makes [] before first reached)
      (tally : Tally .model (supplied ++ settled last) begun last after) :
      Tally .model (supplied ++ settled (first ++ (second ++ third) ++ last)) before
        (first ++ (second ++ third) ++ last) after := by
    have front := reading.append (quiet.append quietAgain)
    rw [settled_append, front.unsettled, List.nil_append]
    exact front.followed tally (List.forall_mem_nil _)
  cases given : clusterOptions.clusterFile with
  | none =>
    rw [given] at wasRead
    rcases (goes_pure_iff _ _ _ _ _).mp wasRead with ⟨rfl, same, rfl⟩
    cases same
    rw [RunContext.supplied_of_none (.cluster clusterOptions) given]
    refine finish (.of_silent (List.forall_mem_nil _)) ?_
    rw [List.nil_append, ← List.map_append] at rest
    cases all : ids ++ others with
    | cons id more =>
      rw [all] at rest
      exact fetchAll (id :: more) _ _ _ _ rest faithfulLast
    | nil =>
      rw [all, List.map_nil] at rest
      dsimp only at rest
      refine (?_ : Tallies .model _) _ _ _ _ rest faithfulLast
      split
      next => exact pure _
      next => exact bind obtainOne fun _ => bind (publish _ _ _) fun _ => pure _
  | some path =>
    rw [given] at wasRead
    rcases RunContext.goes_readCluster wasRead with
      ⟨rfl, text, body, resource, rfl, document, parsed, rfl⟩
    have supplied : run.supplied? (.cluster clusterOptions)
        ⟨.file (.read (run.resolvePath path)), .ok text⟩ =
          if resource.status.isFinished then some resource.id else none := by
      simp only [RunContext.supplied?, Invocation.clusterFile, given, Option.map_some, if_true,
        finishedIn?, document, parsed, Except.toOption, Option.bind_some]
    have atHand : (if resource.status.isFinished then some resource.id else none).toList =
        if resource.status.isFinished then [resource.id] else [] := apply_ite Option.toList ..
    rw [List.append_assoc, List.singleton_append, List.head?_cons, Option.bind_some, supplied,
      atHand]
    refine finish (.of_silent (List.forall_mem_singleton.mpr trivial)) ?_
    have fetches : Goes (run.fetchAll .model (.resolved resource ::
        (ids ++ others).map ResourceReference.unresolved)) begun last (.ok clusters) after := by
      rw [List.map_append]
      exact rest
    exact of_fetchAllResolved fetches faithfulLast

theorem batchCentroids (cluster : Resource) (tests : List Resource) :
    Tallies .action (run.batchCentroids clusterOptions cluster tests) :=
  bind obtainMany fun _ => saveNumbered _ _ _

theorem centroidDatasets (cluster : Resource) (names : List String) :
    Tallies .action (run.centroidDatasets cluster names) := by
  unfold RunContext.centroidDatasets
  split
  next => exact say _
  next =>
    refine bind (fetchAll _) fun _ => ?_
    split
    next => exact pure ()
    next => exact bind obtainMany fun _ => pure ()

theorem useCluster (clusters tests : List Resource) (names : Option (List String)) :
    Tallies .action (run.useCluster clusterOptions clusters tests names) := by
  refine bind (needed _ _) fun primary => ?_
  cases tests.isEmpty with
  | false =>
    cases names with
    | none => exact bind (batchCentroids _ _) fun _ => pure ()
    | some names => exact bind (batchCentroids _ _) fun _ => centroidDatasets _ _
  | true =>
    cases names with
    | none => exact pure ()
    | some names => exact centroidDatasets _ _

/-! ## Reports -/

theorem logNames (log : SessionLog) (names : List String) :
    (ModelRuns.logNames log names).Asks Request.Silent := by
  induction names with
  | nil => exact .pure ()
  | cons name names inductionHypothesis =>
    exact .bind (.asking (.file (.append _ _)) (fun answer => answer) trivial)
      fun _ => inductionHypothesis

theorem listGenerated :
    Tallies stage (Stateful.act (ModelRuns.listGenerated run.log run.paths.output)) := by
  have raw (text : String) : (run.log.raw text).Asks Request.Silent :=
    .asking (.file (.append _ _)) (fun answer => answer) trivial
  refine act (.bind (.asking (.file (.list _)) (fun answer => answer) trivial) fun files => ?_)
  exact .bind (raw _) fun _ => .bind (raw _) fun _ => .bind (logNames _ _) fun _ => .pure _

theorem writeSummary (summary : RunSummary) :
    Tallies stage (Stateful.act (ModelRuns.writeSummary run.paths.output summary)) := by
  refine act (.bind (.asking (.file (.makeDirectory _)) (fun answer => answer) trivial) fun _ => ?_)
  exact .bind (.asking (.file (.write _ _)) (fun answer => answer) trivial) fun _ => .pure _

theorem uploadSummary (summary : RunSummary) :
    Tallies stage (Stateful.act (ModelRuns.uploadSummary run.settings.uploadUrl summary)) := by
  refine act ?_
  unfold ModelRuns.uploadSummary
  split
  next => exact .throw _
  next =>
    refine .bind (.asking (.api (.uploadReport _ _)) (fun answer => answer) trivial) fun _ => ?_
    exact .bind (.asking (.note _) .ok (by decide : ("report.uploaded" : String) ≠ moveType))
      fun _ => .pure _

theorem reportStage : Tallies .report (run.reportStage common) := by
  refine bind listGenerated fun files => ?_
  split
  next =>
    refine bind progress fun found => bind (writeSummary _) fun path => bind (say _) fun _ => ?_
    split
    next => exact bind (uploadSummary _) fun location => say _
    next => exact pure ()
  next => exact pure ()

end Tallies

end ModelRuns
