import ModelRuns.Proofs.Pipeline.Journal
import ModelRuns.Proofs.Stage.Steps

namespace ModelRuns

open Stateful

/-!
# What the parts of a run ask

There is one lemma for each part from which the stages are built: what its trace
looks like, what it creates, and when it fails.  Nothing is said about answers
here, so these lemmas hold for every service and every disk.

A part is quiet when it only asks aside.  Creating is the one part that is not.
-/

/-- A refusal of one of the requests that creating a resource consists of. -/
def Exchange.Refused : Exchange → Prop
  | ⟨.api (.create _), .error _⟩ => True
  | ⟨.file (.append _ _), .error _⟩ => True
  | ⟨.printLine _, .error _⟩ => True
  | _ => False

/-! ## Steps of no account -/

/-- A step that only asks aside, leaves the state alone, and succeeds unless it is
refused. -/
def RunContext.Minor (run : RunContext) (invocation : Invocation) {α : Type}
    (step : Step α) : Prop :=
  ∀ before trace outcome after, Goes step before trace outcome after →
    after = before ∧ (∀ exchange ∈ trace, run.Aside invocation exchange) ∧
      ((∃ value, outcome = .ok value) ∨ ∃ exchange ∈ trace, exchange.Refused)

namespace RunContext.Minor

variable {run : RunContext} {invocation : Invocation} {α β : Type}

theorem pure (value : α) : run.Minor invocation (Pure.pure value : Step α) := by
  intro before trace outcome after goes
  rcases (goes_pure_iff value before after trace outcome).mp goes with ⟨rfl, rfl, rfl⟩
  exact ⟨rfl, List.forall_mem_nil _, .inl ⟨value, rfl⟩⟩

theorem refused {step : Step α} (minor : run.Minor invocation step) {before after : Progress}
    {trace : List Exchange} {failure : Failure}
    (goes : Goes step before trace (.error failure) after) :
    ∃ exchange ∈ trace, exchange.Refused := by
  rcases (minor before trace _ after goes).2.2 with ⟨value, impossible⟩ | refused
  · cases impossible
  · exact refused

theorem bind {step : Step α} {next : α → Step β} (first : run.Minor invocation step)
    (second : ∀ value, run.Minor invocation (next value)) :
    run.Minor invocation (step >>= next) := by
  intro before trace outcome after goes
  rcases (goes_bind_iff step next before after trace outcome).mp goes with
    ⟨failure, failed, rfl⟩ | ⟨front, back, value, middle, rfl, done, later⟩
  · rcases first before trace _ after failed with ⟨same, aside, _⟩
    exact ⟨same, aside, .inr (first.refused failed)⟩
  · rcases first before front _ middle done with ⟨rfl, aside, _⟩
    rcases second value middle back outcome after later with ⟨same, asideLater, ended⟩
    refine ⟨same, fun exchange member => ?_, ended.imp_right ?_⟩
    · exact (List.mem_append.mp member).elim (aside exchange) (asideLater exchange)
    · rintro ⟨exchange, member, refused⟩
      exact ⟨exchange, List.mem_append_right front member, refused⟩

/-- A minor step before a value. -/
theorem before {step : Step α} (minor : run.Minor invocation step) {value : β}
    {before after : Progress} {trace : List Exchange} {outcome : Except Failure β}
    (goes : Goes (step >>= fun _ => Pure.pure value) before trace outcome after) :
    after = before ∧ (∀ exchange ∈ trace, run.Aside invocation exchange) ∧
      (outcome = .ok value ∨ (∃ failure, outcome = .error failure) ∧
        ∃ exchange ∈ trace, exchange.Refused) := by
  rcases (goes_map_iff step (fun _ => value) _ _ _ _).mp goes with ⟨failure | done, rfl, first⟩
  · rcases minor before trace _ after first with ⟨same, aside, _⟩
    exact ⟨same, aside, .inr ⟨⟨failure, rfl⟩, minor.refused first⟩⟩
  · rcases minor before trace _ after first with ⟨same, aside, _⟩
    exact ⟨same, aside, .inl rfl⟩

/-- One request, which is aside and fails only when it is refused. -/
theorem asking (asked : Request) (finish : asked.Answer → Except Failure α)
    (aside : ∀ answer, run.Aside invocation ⟨asked, answer⟩)
    (granted : ∀ answer, (∃ value, finish answer = .ok value) ∨ Exchange.Refused ⟨asked, answer⟩) :
    run.Minor invocation (Stateful.act (Action.asking asked finish)) := by
  intro before trace outcome after goes
  rcases (goes_asking_iff asked finish before after trace outcome).mp goes with
    ⟨answer, rfl, rfl, rfl⟩
  refine ⟨rfl, fun exchange member => ?_, (granted answer).imp_right fun refused => ?_⟩
  · rw [List.mem_singleton.mp member]
    exact aside answer
  · exact ⟨_, List.mem_singleton_self _, refused⟩

theorem note (level type : String) (payload : Fields) :
    run.Minor invocation (Stateful.act (Action.note level type payload)) :=
  asking (.note ⟨level, type, .ofFields payload⟩) .ok (fun _ => trivial) fun _ => .inl ⟨(), rfl⟩

theorem say (message : String) : run.Minor invocation (run.say message) := by
  unfold RunContext.say SessionLog.step
  rw [act_bind]
  refine bind (asking .now .ok (fun _ => trivial) fun time => .inl ⟨time, rfl⟩) fun time => ?_
  simp only [act_bind]
  refine bind (asking (.file (.append run.log.path _)) (fun answer => answer) (fun _ => rfl) ?_)
    fun _ => ?_
  · rintro (failure | done)
    · exact .inr trivial
    · exact .inl ⟨done, rfl⟩
  · cases run.log.echo with
    | false => exact pure ()
    | true =>
      refine asking (.printLine _) (fun answer => answer) (fun _ => trivial) ?_
      rintro (failure | done)
      · exact .inr trivial
      · exact .inl ⟨done, rfl⟩

/-- Saying for each of several resources that it is taken up. -/
theorem sayReusing (ids : List ResourceId) : run.Minor invocation (ids.forM run.sayReusing) := by
  induction ids with
  | nil => exact pure ()
  | cons id rest inductionHypothesis => exact bind (say _) fun _ => inductionHypothesis

end RunContext.Minor

/-! ## Quiet steps -/

/-- A step that only asks aside. -/
def RunContext.Quiet (run : RunContext) (invocation : Invocation) {α : Type}
    (step : Step α) : Prop :=
  ∀ before trace outcome after, Goes step before trace outcome after →
    ∀ exchange ∈ trace, run.Aside invocation exchange

namespace RunContext.Quiet

variable {run : RunContext} {invocation : Invocation} {α β : Type}

theorem pure (value : α) : run.Quiet invocation (Pure.pure value : Step α) := by
  intro before trace outcome after goes
  rcases (goes_pure_iff value before after trace outcome).mp goes with ⟨rfl, _, _⟩
  exact List.forall_mem_nil _

theorem throw (failure : Failure) : run.Quiet invocation (throw failure : Step α) := by
  intro before trace outcome after goes
  rcases (goes_throw_iff failure before after trace outcome).mp goes with ⟨rfl, _, _⟩
  exact List.forall_mem_nil _

theorem state : run.Quiet invocation (get : Step Progress) := by
  intro before trace outcome after goes
  rcases (goes_get_iff before after trace outcome).mp goes with ⟨rfl, _, _⟩
  exact List.forall_mem_nil _

theorem changing (change : Progress → Progress) :
    run.Quiet invocation (modify change : Step Unit) := by
  intro before trace outcome after goes
  rcases (goes_modify_iff change before after trace outcome).mp goes with ⟨rfl, _, _⟩
  exact List.forall_mem_nil _

theorem bind {step : Step α} {next : α → Step β} (first : run.Quiet invocation step)
    (second : ∀ value, run.Quiet invocation (next value)) :
    run.Quiet invocation (step >>= next) := by
  intro before trace outcome after goes
  rcases (goes_bind_iff step next before after trace outcome).mp goes with
    ⟨failure, failed, rfl⟩ | ⟨front, back, value, middle, rfl, done, later⟩
  · exact first before trace _ after failed
  · intro exchange member
    exact (List.mem_append.mp member).elim (first before front _ middle done exchange)
      (second value middle back outcome after later exchange)

theorem asking (asked : Request) (finish : asked.Answer → Except Failure α)
    (aside : ∀ answer, run.Aside invocation ⟨asked, answer⟩) :
    run.Quiet invocation (Stateful.act (Action.asking asked finish)) := by
  intro before trace outcome after goes exchange member
  rcases (goes_asking_iff asked finish before after trace outcome).mp goes with
    ⟨answer, rfl, rfl, rfl⟩
  rw [List.mem_singleton.mp member]
  exact aside answer

theorem minor {step : Step α} (minor : run.Minor invocation step) : run.Quiet invocation step :=
  fun before trace outcome after goes => (minor before trace outcome after goes).2.1

theorem ofExcept (result : Except Failure α) :
    run.Quiet invocation (Stateful.act (Action.ofExcept result)) := by
  cases result with
  | ok value => exact pure value
  | error failure => exact throw failure

/-! ## Waiting -/

theorem poll (intervalMs : Nat) (id : ResourceId) (query : Option String) (looked left : Nat) :
    run.Quiet invocation (Stateful.act (pollResource intervalMs id query looked left)) := by
  induction left generalizing looked with
  | zero => exact throw _
  | succ left inductionHypothesis =>
    unfold pollResource
    rw [act_bind]
    refine bind (asking (.api (.get id query)) (fun answer => answer) fun _ => trivial)
      fun resource => ?_
    split
    next =>
      rw [act_bind]
      exact bind (minor (.note _ _ _)) fun _ => pure resource
    next =>
      split
      next =>
        rw [act_bind]
        exact bind (minor (.note _ _ _)) fun _ => throw _
      next =>
        simp only [act_bind]
        refine bind (asking .now .ok fun _ => trivial) fun time => ?_
        exact bind (asking (.sleepUntil _) .ok fun _ => trivial) fun _ => inductionHypothesis _

theorem await (stage : Stage) (id : ResourceId) : run.Quiet invocation (run.await stage id) :=
  bind (poll _ id none 0 _) fun resource => bind (changing _) fun _ => pure resource

theorem awaitAll (stage : Stage) (ids : List ResourceId) :
    run.Quiet invocation (run.awaitAll stage ids) := by
  induction ids with
  | nil => exact pure []
  | cons id rest inductionHypothesis =>
    exact bind (await stage id) fun resource => bind inductionHypothesis fun others => pure _

/-! ## Taking up -/

theorem readCheckpoint (checkpoint : Checkpoint) :
    run.Quiet invocation (Stateful.act (Checkpoint.read run.paths.output checkpoint)) := by
  unfold Checkpoint.read
  rw [act_bind]
  refine bind (asking (.file (.fileExists _)) .ok fun _ => trivial) fun found => ?_
  cases found with
  | false => exact pure []
  | true =>
    simp only [if_true, act_bind]
    exact bind (asking (.file (.read _)) (fun answer => answer) fun _ => trivial)
      fun text => ofExcept _

theorem cursor : run.Quiet invocation (Stateful.cursor : Step Cursor) :=
  bind state fun _ => pure _

theorem checkpointMissing : run.Quiet invocation (Stateful.checkpointMissing : Step Unit) := by
  refine bind cursor fun found => ?_
  cases found.resuming with
  | false => exact changing _
  | true => exact bind (minor (.note _ _ _)) fun _ => changing _

theorem takeUp (checkpoint : Checkpoint) (count : Nat) :
    run.Quiet invocation (run.takeUp checkpoint count) := by
  refine bind cursor fun found => ?_
  cases found.resuming with
  | false => exact pure []
  | true =>
    refine bind (readCheckpoint checkpoint) fun held => ?_
    refine bind (minor (.sayReusing _)) fun _ => ?_
    split
    next => exact bind checkpointMissing fun _ => pure _
    next => exact pure _

end RunContext.Quiet

/-! ## Creating -/

namespace RunContext

variable {run : RunContext} {invocation : Invocation} {stage : Stage} {checkpoint : Checkpoint}

/-- What comes of creating resources for one checkpoint: the entries of those that
were created, in the order of the requests.  All of them are there when the step
succeeds, and it fails only when it is refused. -/
structure Creates (run : RunContext) (invocation : Invocation) (checkpoint : Checkpoint)
    (creations : List Creation) (trace : List Exchange)
    (outcome : Except Failure (List ResourceId)) (entries : List Entry) : Prop where
  accounts : run.Accounts invocation trace outcome entries
  placed : ∀ entry ∈ entries, entry.checkpoint = checkpoint
  inOrder : entries.map Entry.creation <+: creations
  complete : ∀ ids, outcome = .ok ids →
    ids = entries.map Entry.id ∧ entries.map Entry.creation = creations
  refused : ∀ failure, outcome = .error failure → ∃ exchange ∈ trace, exchange.Refused

namespace Creates

/-- What is asked aside beforehand does not matter. -/
theorem behind {creations : List Creation} {front back : List Exchange}
    {outcome : Except Failure (List ResourceId)} {entries : List Entry}
    (aside : ∀ exchange ∈ front, run.Aside invocation exchange)
    (creates : run.Creates invocation checkpoint creations back outcome entries) :
    run.Creates invocation checkpoint creations (front ++ back) outcome entries where
  accounts := .after (.of_aside aside) creates.accounts
  placed := creates.placed
  inOrder := creates.inOrder
  complete := creates.complete
  refused := fun failure failed =>
    let ⟨exchange, member, refused⟩ := creates.refused failure failed
    ⟨exchange, List.mem_append_right front member, refused⟩

/-- A failure before the first line is written. -/
theorem failed {creations : List Creation} {trace : List Exchange} {failure : Failure}
    (accounts : run.Accounts invocation trace
      (.error failure : Except Failure (List ResourceId)) [])
    (refused : ∃ exchange ∈ trace, exchange.Refused) :
    run.Creates invocation checkpoint creations trace (.error failure) [] where
  accounts := accounts
  placed := List.forall_mem_nil _
  inOrder := List.nil_prefix
  complete := fun _ impossible => nomatch impossible
  refused := fun _ _ => refused

/-- What is left to create does not matter behind a failure. -/
theorem stopped {creation : Creation} {rest : List Creation} {trace : List Exchange}
    {failure : Failure} {entries : List Entry}
    (creates : run.Creates invocation checkpoint [creation] trace (.error failure) entries) :
    run.Creates invocation checkpoint (creation :: rest) trace (.error failure) entries where
  accounts := creates.accounts
  placed := creates.placed
  inOrder := creates.inOrder.trans (List.prefix_append [creation] rest)
  complete := fun _ impossible => nomatch impossible
  refused := creates.refused

/-- Creating one resource and then others. -/
theorem followedBy {creation : Creation} {rest : List Creation} {front back : List Exchange}
    {id : ResourceId} {outcome : Except Failure (List ResourceId)} {entries later : List Entry}
    (first : run.Creates invocation checkpoint [creation] front (.ok [id]) entries)
    (second : run.Creates invocation checkpoint rest back outcome later) :
    run.Creates invocation checkpoint (creation :: rest) (front ++ back)
      (outcome.map fun ids => id :: ids) (entries ++ later) := by
  rcases first.complete [id] rfl with ⟨made, whole⟩
  have accounts := Accounts.after first.accounts.journal second.accounts
  refine ⟨?_, ?_, ?_, ?_, ?_⟩
  · cases outcome with
    | error failure => exact accounts.handedOn
    | ok ids => exact .whole accounts.journal
  · exact fun entry member => (List.mem_append.mp member).elim (first.placed entry)
      (second.placed entry)
  · rw [List.map_append, whole]
    exact (List.prefix_cons_inj creation).mpr second.inOrder
  · intro ids succeeded
    cases outcome with
    | error failure => cases succeeded
    | ok others =>
      cases succeeded
      rcases second.complete others rfl with ⟨rfl, wholeLater⟩
      rw [List.map_append, List.map_append, ← made, whole, wholeLater]
      exact ⟨rfl, rfl⟩
  · intro failure failed
    cases outcome with
    | error other =>
      rcases second.refused other rfl with ⟨exchange, member, refused⟩
      exact ⟨exchange, List.mem_append_right front member, refused⟩
    | ok others => cases failed

end Creates

/-- The request to create a resource. -/
theorem goes_creation {creation : Creation} {before after : Progress} {trace : List Exchange}
    {outcome : Except Failure Resource}
    (goes : Goes (Stateful.act (Action.create creation)) before trace outcome after) :
    trace = [⟨.api (.create creation), outcome⟩] ∧ after = before := by
  rcases (goes_asking_iff (.api (.create creation)) (fun answer => answer) _ _ _ _).mp goes with
    ⟨answer, listed, rfl, same⟩
  exact ⟨listed, same⟩

/-- The request to write the line of an identifier. -/
theorem goes_recording {id : ResourceId} {before after : Progress} {trace : List Exchange}
    {outcome : Except Failure Unit}
    (goes : Goes (Stateful.act (Checkpoint.append run.paths.output checkpoint id)) before trace
      outcome after) :
    trace = [run.recording checkpoint id outcome] ∧ after = before := by
  rcases (goes_asking_iff (.file (.append (Checkpoint.path run.paths.output checkpoint) id.text))
    (fun answer => answer) _ _ _ _).mp goes with ⟨answer, listed, rfl, same⟩
  exact ⟨listed, same⟩

/-- What comes behind the creation of a resource: the line of its identifier, and
then nothing but asides. -/
theorem goes_record {creation : Creation} {resource : Resource}
    (sent : run.Sends invocation checkpoint creation) {before after : Progress}
    {trace : List Exchange} {outcome : Except Failure ResourceId}
    (goes : Goes (do
      Stateful.act (Checkpoint.append run.paths.output checkpoint resource.id)
      Stateful.act (Action.note "info" "resource.created"
        [("stage", .text stage.text), ("resource", .text resource.id.text)])
      run.say (creation.kind.text ++ " created: " ++ resource.id.text)
      return resource.id) before trace outcome after) :
    after = before ∧ ∃ entries, run.Creates invocation checkpoint [creation]
      (creating creation resource :: trace) (outcome.map fun id => [id]) entries := by
  have told : run.Minor invocation (do
      Stateful.act (Action.note "info" "resource.created"
        [("stage", .text stage.text), ("resource", .text resource.id.text)])
      run.say (creation.kind.text ++ " created: " ++ resource.id.text)) :=
    .bind (.note _ _ _) fun _ => .say _
  rcases (goes_bind_iff _ _ _ _ _ _).mp goes with
    ⟨failure, refused, rfl⟩ | ⟨front, back, _, middle, rfl, recorded, rest⟩
  · rcases goes_recording refused with ⟨rfl, rfl⟩
    refine ⟨rfl, [], .failed (.broken ⟨[], checkpoint, creation, resource, failure, [], rfl, sent,
      .nil, List.forall_mem_nil _⟩) ?_⟩
    exact ⟨_, List.mem_cons_of_mem _ (List.mem_singleton_self _), trivial⟩
  · rcases goes_recording recorded with ⟨rfl, rfl⟩
    rw [← bind_assoc] at rest
    rcases told.before rest with ⟨same, aside, ended⟩
    have journal : run.Journal invocation
        (creating creation resource :: run.recording checkpoint resource.id (.ok ()) :: back)
        [⟨checkpoint, creation, resource.id⟩] :=
      .entry checkpoint creation resource sent (.of_aside aside)
    refine ⟨same, [⟨checkpoint, creation, resource.id⟩], .whole journal, ?_, List.prefix_rfl, ?_, ?_⟩
    · intro entry member
      rw [List.mem_singleton.mp member]
    · intro ids succeeded
      rcases ended with rfl | ⟨⟨failure, rfl⟩, _⟩
      · cases succeeded
        exact ⟨rfl, rfl⟩
      · cases succeeded
    · intro failure failed
      rcases ended with rfl | ⟨_, exchange, member, refused⟩
      · cases failed
      · exact ⟨exchange, List.mem_cons_of_mem _ (List.mem_cons_of_mem _ member), refused⟩

theorem goes_create {creation : Creation} (sent : run.Sends invocation checkpoint creation)
    {before after : Progress} {trace : List Exchange} {outcome : Except Failure ResourceId}
    (goes : Goes (run.create stage checkpoint creation) before trace outcome after) :
    after = before ∧ ∃ entries, run.Creates invocation checkpoint [creation] trace
      (outcome.map fun id => [id]) entries := by
  have announced : run.Minor invocation (run.say ("Creating " ++ creation.kind.text ++ ".")) :=
    .say _
  rcases (goes_bind_iff _ _ _ _ _ _).mp goes with
    ⟨failure, failed, rfl⟩ | ⟨front, back, _, middle, rfl, said, rest⟩
  · rcases announced before trace _ after failed with ⟨same, aside, _⟩
    exact ⟨same, [], .failed (.whole (.of_aside aside)) (announced.refused failed)⟩
  rcases announced before front _ middle said with ⟨rfl, aside, _⟩
  rcases (goes_bind_iff _ _ _ _ _ _).mp rest with
    ⟨failure, failed, rfl⟩ | ⟨asked, later, resource, between, rfl, made, recorded⟩
  · rcases goes_creation failed with ⟨rfl, same⟩
    have refused : run.Journal invocation [⟨.api (.create creation), .error failure⟩] [] :=
      .aside ⟨failure, rfl⟩ .nil
    exact ⟨same, [], .behind aside
      (.failed (.whole refused) ⟨_, List.mem_singleton_self _, trivial⟩)⟩
  · rcases goes_creation made with ⟨rfl, rfl⟩
    rcases goes_record sent recorded with ⟨same, entries, creates⟩
    exact ⟨same, entries, .behind aside creates⟩

theorem goes_createAll {creations : List Creation}
    (sent : ∀ creation ∈ creations, run.Sends invocation checkpoint creation)
    {before after : Progress} {trace : List Exchange}
    {outcome : Except Failure (List ResourceId)}
    (goes : Goes (run.createAll stage checkpoint creations) before trace outcome after) :
    after = before ∧ ∃ entries, run.Creates invocation checkpoint creations trace outcome entries := by
  induction creations generalizing before trace outcome with
  | nil =>
    rcases (goes_pure_iff _ _ _ _ _).mp goes with ⟨rfl, rfl, same⟩
    refine ⟨same, [], .whole .nil, List.forall_mem_nil _, List.prefix_rfl, ?_, ?_⟩
    · intro ids succeeded
      cases succeeded
      exact ⟨rfl, rfl⟩
    · exact fun _ impossible => nomatch impossible
  | cons creation rest inductionHypothesis =>
    have first := sent creation List.mem_cons_self
    have others := fun other member => sent other (List.mem_cons_of_mem creation member)
    rcases (goes_bind_iff _ _ _ _ _ _).mp goes with
      ⟨failure, failed, rfl⟩ | ⟨front, back, id, middle, rfl, made, later⟩
    · rcases goes_create first failed with ⟨same, entries, creates⟩
      exact ⟨same, entries, creates.stopped⟩
    · rcases goes_create first made with ⟨rfl, entries, creates⟩
      rcases (goes_map_iff _ (fun ids => id :: ids) _ _ _ _).mp later with ⟨ids, rfl, rest⟩
      rcases inductionHypothesis others rest with ⟨same, more, createsMore⟩
      exact ⟨same, entries ++ more, creates.followedBy createsMore⟩

/-! ## Obtaining -/

/-- The identifiers of the resources to obtain, taken up or new. -/
def obtainIds (run : RunContext) (stage : Stage) (checkpoint : Checkpoint)
    (creations : List Creation) : Step (List ResourceId) := do
  let known ← run.takeUp checkpoint creations.length
  let created ← run.createAll stage checkpoint (creations.drop known.length)
  return known ++ created

theorem obtainMany_eq (creations : List Creation) :
    run.obtainMany stage checkpoint creations =
      run.obtainIds stage checkpoint creations >>= run.awaitAll stage := by
  simp only [obtainMany, obtainIds, bind_assoc, pure_bind]

/-- Obtaining one resource is obtaining a list of one. -/
theorem obtainMany_single (creation : Creation) :
    run.obtainMany stage checkpoint [creation] =
      run.obtainOne stage checkpoint creation >>= fun resource => pure [resource] := by
  unfold obtainMany takeUp obtainOne createAndAwait
  rw [bind_assoc, bind_assoc]
  congr 1
  funext cursor
  cases cursor.resuming with
  | false => simp [createAll, awaitAll]
  | true =>
    simp only [if_true, bind_assoc]
    unfold Checkpoint.first?
    rw [act_bind, bind_assoc]
    congr 1
    funext held
    cases held with
    | nil => simp [createAll, awaitAll, act_pure]
    | cons id rest => simp [createAll, awaitAll, act_pure]

/-- So what is known of lists is known of single resources. -/
theorem goes_obtainMany_of_single {creation : Creation} {before after : Progress}
    {trace : List Exchange} {outcome : Except Failure Resource}
    (goes : Goes (run.obtainOne stage checkpoint creation) before trace outcome after) :
    Goes (run.obtainMany stage checkpoint [creation]) before trace
      (outcome.map fun resource => [resource]) after := by
  rw [obtainMany_single]
  exact (goes_map_iff _ (fun resource => [resource]) _ _ _ _).mpr ⟨outcome, rfl, goes⟩

end RunContext

/-! ## The file of a cluster -/

/-- The file of a cluster is read, and gives the one resource that it describes. -/
theorem RunContext.goes_readCluster {run : RunContext} {path : Path}
    {references : List ResourceReference} {before after : Progress} {trace : List Exchange}
    (goes : Goes (run.readCluster (some path)) before trace (.ok references) after) :
    after = before ∧ ∃ text body resource,
      trace = [⟨.file (.read (run.resolvePath path)), .ok text⟩] ∧ Json.read text = .ok body ∧
        Resource.parse body = .ok resource ∧ references = [.resolved resource] := by
  rcases (goes_act_iff _ _ _ _ _).mp goes with ⟨yields, rfl⟩
  rcases Action.yields_bind_ok yields with ⟨_, _, text, rfl, reads, rest⟩
  rcases (Action.yields_asking_iff (.file (.read _)) (fun answer => answer) _ _).mp reads with
    ⟨_, rfl, rfl⟩
  cases document : Json.read text with
  | error error =>
    rw [document] at rest
    cases ((Action.yields_throw_iff _ _ _).mp rest).2
  | ok body =>
    rw [document] at rest
    rcases Action.yields_bind_ok rest with ⟨_, _, resource, rfl, parses, ends⟩
    rcases (Action.yields_ofExcept_iff _ _ _).mp parses with ⟨rfl, parsed⟩
    rcases (Action.yields_pure_iff _ _ _).mp ends with ⟨rfl, same⟩
    cases same
    exact ⟨rfl, text, body, resource, rfl, document, parsed.symm, rfl⟩

/-! ## Stages -/

/-- A step that looks at the cursor first. -/
theorem goes_cursor_bind_iff {α : Type} (next : Cursor → Step α) (before after : Progress)
    (trace : List Exchange) (outcome : Except Failure α) :
    Goes (Stateful.cursor >>= next) before trace outcome after ↔
      Goes (next before.cursor) before trace outcome after :=
  goes_look_bind_iff

/-- A stage is entered, its body goes, and then the stage is left. -/
theorem goes_inStage {α : Type} {stage : Stage} {body : Step α} {before after : Progress}
    {trace : List Exchange} {outcome : Except Failure α}
    (goes : Goes (inStage stage body) before trace outcome after) :
    (∃ failure, Goes (enterStage stage) before trace (.error failure) after ∧
      outcome = .error failure) ∨
    ∃ entry inside exit result entered left, trace = entry ++ (inside ++ exit) ∧
      Goes (enterStage stage) before entry (.ok ()) entered ∧
      Goes body entered inside result left ∧
      Goes (leaveStage stage result) left exit outcome after :=
  goes_inStage_iff.mp goes

/-- A move that is allowed is recorded, and nothing else happens. -/
theorem goes_move {stage : Stage} {next : StageState} {before after : Progress}
    {trace : List Exchange} {outcome : Except Failure Unit}
    (allowed : StageState.checkStep before.cursor.resuming (before.cursor.state stage) next =
      .ok ())
    (goes : Goes (transition stage next) before trace outcome after) :
    trace = [Move.recording ⟨stage, before.cursor.state stage, next⟩] ∧ outcome = .ok () ∧
      after = { before with cursor := before.cursor.set stage next } :=
  (goes_allowed_transition_iff allowed).mp goes

/-- A change of the state of a stage is noted, if it is allowed; otherwise nothing
happens. -/
theorem goes_transition {stage : Stage} {next : StageState} {before after : Progress}
    {trace : List Exchange} {outcome : Except Failure Unit}
    (goes : Goes (transition stage next) before trace outcome after) :
    (∀ exchange ∈ trace, exchange.IsNote) ∧
      outcome = StageState.checkStep before.cursor.resuming (before.cursor.state stage) next ∧
      (outcome = .ok () → after = { before with cursor := before.cursor.set stage next }) := by
  cases checked : StageState.checkStep before.cursor.resuming (before.cursor.state stage) next with
  | error failure =>
    rcases (goes_refused_transition_iff checked).mp goes with ⟨rfl, rfl, _⟩
    exact ⟨List.forall_mem_nil _, rfl, nofun⟩
  | ok done =>
    rcases goes_move checked goes with ⟨rfl, rfl, moved⟩
    exact ⟨List.forall_mem_singleton.mpr trivial, rfl, fun _ => moved⟩

/-- Entering a stage only records events. -/
theorem notes_enterStage {stage : Stage} {before after : Progress} {trace : List Exchange}
    {outcome : Except Failure Unit}
    (goes : Goes (enterStage stage) before trace outcome after) :
    ∀ exchange ∈ trace, exchange.IsNote := by
  unfold enterStage at goes
  rw [goes_cursor_bind_iff] at goes
  cases found : before.cursor.state stage with
  | notStarted =>
    simp only [found] at goes
    exact (goes_transition goes).1
  | inProgress =>
    simp only [found] at goes
    rcases (goes_pure_iff _ _ _ _ _).mp goes with ⟨rfl, _, _⟩
    exact List.forall_mem_nil _
  | completed =>
    simp only [found] at goes
    rcases (goes_throw_iff _ _ _ _ _).mp goes with ⟨rfl, _, _⟩
    exact List.forall_mem_nil _
  | failed =>
    simp only [found] at goes
    exact (goes_transition goes).1

/-- Leaving a stage behind a failure records events and hands the failure on, or
another one. -/
theorem goes_leaveStage_error {α : Type} {stage : Stage} {failure : Failure}
    {before after : Progress} {trace : List Exchange} {outcome : Except Failure α}
    (goes : Goes (leaveStage stage (.error failure)) before trace outcome after) :
    (∀ exchange ∈ trace, exchange.IsNote) ∧ ∃ last, outcome = .error last := by
  rcases (goes_bind_iff _ _ _ _ _ _).mp goes with
    ⟨other, failed, rfl⟩ | ⟨front, back, _, middle, rfl, changed, rest⟩
  · rcases (goes_modify_iff _ _ _ _ _).mp failed with ⟨_, impossible, _⟩
    cases impossible
  rcases (goes_modify_iff _ _ _ _ _).mp changed with ⟨rfl, _, _⟩
  rcases (goes_bind_iff _ _ _ _ _ _).mp rest with
    ⟨other, failed, rfl⟩ | ⟨front, later, _, between, rfl, moved, thrown⟩
  · exact ⟨(goes_transition failed).1, other, rfl⟩
  · rcases (goes_throw_iff _ _ _ _ _).mp thrown with ⟨rfl, rfl, _⟩
    rw [List.nil_append, List.append_nil]
    exact ⟨(goes_transition moved).1, failure, rfl⟩

/-- A stage that has not failed is entered unless it is completed. -/
theorem goes_enterStage {stage : Stage} {before after : Progress} {trace : List Exchange}
    {outcome : Except Failure Unit} (unfailed : before.cursor.state stage ≠ .failed)
    (goes : Goes (enterStage stage) before trace outcome after) :
    (before.cursor.state stage = .completed ∧ ∃ failure, outcome = .error failure) ∨
      (before.cursor.state stage ≠ .completed ∧ outcome = .ok () ∧
        after.cursor = before.cursor.set stage .inProgress) := by
  unfold enterStage at goes
  rw [goes_cursor_bind_iff] at goes
  cases found : before.cursor.state stage with
  | notStarted =>
    simp only [found] at goes
    rcases goes_transition goes with ⟨_, checked, moved⟩
    rw [found] at checked
    exact .inr ⟨by decide, checked, by rw [moved checked]⟩
  | inProgress =>
    simp only [found] at goes
    rcases (goes_pure_iff _ _ _ _ _).mp goes with ⟨_, rfl, rfl⟩
    exact .inr ⟨by decide, rfl, (Cursor.set_of_state _ _ _ found).symm⟩
  | completed =>
    simp only [found] at goes
    rcases (goes_throw_iff _ _ _ _ _).mp goes with ⟨_, rfl, _⟩
    exact .inl ⟨rfl, _, rfl⟩
  | failed => exact absurd found unfailed

/-- A stage that has not been entered is entered. -/
theorem goes_enterStage_unentered {stage : Stage} {before after : Progress}
    {trace : List Exchange} {outcome : Except Failure Unit}
    (unentered : before.cursor.state stage = .notStarted)
    (goes : Goes (enterStage stage) before trace outcome after) :
    trace = [Move.recording ⟨stage, .notStarted, .inProgress⟩] ∧ outcome = .ok () ∧
      after = { before with cursor := before.cursor.set stage .inProgress } := by
  unfold enterStage at goes
  rw [goes_cursor_bind_iff] at goes
  simp only [unentered] at goes
  rw [← unentered]
  exact goes_move (by rw [unentered]; rfl) goes

/-- Entering a stage meets no resource. -/
theorem met_of_enterStage {stage : Stage} {before after : Progress} {trace : List Exchange}
    (goes : Goes (enterStage stage) before trace (.ok ()) after) : after.met = before.met := by
  unfold enterStage at goes
  rw [goes_cursor_bind_iff] at goes
  cases found : before.cursor.state stage with
  | notStarted =>
    simp only [found] at goes
    rw [(goes_transition goes).2.2 rfl]
  | inProgress =>
    simp only [found] at goes
    rw [((goes_pure_iff _ _ _ _ _).mp goes).2.2]
  | completed =>
    simp only [found] at goes
    rcases (goes_throw_iff _ _ _ _ _).mp goes with ⟨_, impossible, _⟩
    cases impossible
  | failed =>
    simp only [found] at goes
    rw [(goes_transition goes).2.2 rfl]

/-- A stage in progress is left as its body went, and a failure is kept and handed on. -/
theorem goes_leaveStage_running {α : Type} {stage : Stage} {before after : Progress}
    {result outcome : Except Failure α} {trace : List Exchange}
    (running : before.cursor.state stage = .inProgress)
    (goes : Goes (leaveStage stage result) before trace outcome after) :
    trace = [Move.recording ⟨stage, .inProgress, .behind result⟩] ∧ outcome = result ∧
      after.cursor.state = (before.cursor.set stage (.behind result)).state ∧
      ∀ failure, result = .error failure →
        after.cursor.failureReason = some (stage.text ++ ": " ++ failure.message) := by
  cases result with
  | ok value =>
    rcases (goes_map_iff (transition stage .completed) (fun _ => value) _ _ _ _).mp goes with
      ⟨moved, rfl, moving⟩
    rcases goes_move (by rw [running]; rfl) moving with ⟨rfl, rfl, rfl⟩
    rw [running]
    exact ⟨rfl, rfl, rfl, nofun⟩
  | error failure =>
    rcases (goes_bind_iff _ _ _ _ _ _).mp goes with
      ⟨other, failed, _⟩ | ⟨front, back, _, middle, rfl, noted, rest⟩
    · rcases (goes_modify_iff _ _ _ _ _).mp failed with ⟨_, impossible, _⟩
      cases impossible
    rcases (goes_modify_iff _ _ _ _ _).mp noted with ⟨rfl, _, changed⟩
    have states : middle.cursor.state = before.cursor.state := congrArg (·.cursor.state) changed
    have reason : middle.cursor.failureReason = some (stage.text ++ ": " ++ failure.message) :=
      congrArg (·.cursor.failureReason) changed
    rw [← states] at running
    have allowed : StageState.checkStep middle.cursor.resuming (middle.cursor.state stage) .failed =
        .ok () := by
      rw [running]
      rfl
    rcases (goes_bind_iff _ _ _ _ _ _).mp rest with
      ⟨other, moving, _⟩ | ⟨moved, thrown, _, left, rfl, moving, throws⟩
    · rcases goes_move allowed moving with ⟨_, impossible, _⟩
      cases impossible
    · rcases goes_move allowed moving with ⟨rfl, _, rfl⟩
      rcases (goes_throw_iff _ _ _ _ _).mp throws with ⟨rfl, rfl, rfl⟩
      rw [running, Cursor.set, Cursor.set, states]
      refine ⟨rfl, rfl, rfl, ?_⟩
      rintro _ ⟨⟩
      exact reason

/-- A stage that has not been entered is entered, and it is left behind its body. -/
theorem goes_inStage_unentered {α : Type} {stage : Stage} {body : Step α} {before after : Progress}
    {trace : List Exchange} {outcome : Except Failure α}
    (unentered : before.cursor.state stage = .notStarted)
    (keeps : ∀ entered inside result left, Goes body entered inside result left →
      left.cursor.state = entered.cursor.state)
    (goes : Goes (inStage stage body) before trace outcome after) :
    ∃ inside left, trace = [Move.recording ⟨stage, .notStarted, .inProgress⟩] ++
        (inside ++ [Move.recording ⟨stage, .inProgress, .behind outcome⟩]) ∧
      Goes body { before with cursor := before.cursor.set stage .inProgress } inside outcome left ∧
      after.cursor.state = (left.cursor.set stage (.behind outcome)).state ∧
      ∀ failure, outcome = .error failure →
        after.cursor.failureReason = some (stage.text ++ ": " ++ failure.message) := by
  rcases goes_inStage goes with ⟨_, failed, _⟩ |
    ⟨_, inside, _, result, entered, left, rfl, entering, going, leaving⟩
  · cases (goes_enterStage_unentered unentered failed).2.1
  · rcases goes_enterStage_unentered unentered entering with ⟨rfl, _, rfl⟩
    have running : left.cursor.state stage = .inProgress := by
      rw [keeps _ _ _ _ going]
      exact if_pos rfl
    rcases goes_leaveStage_running running leaving with ⟨rfl, rfl, moved, reason⟩
    exact ⟨inside, left, rfl, going, moved, reason⟩

theorem checkStep_completed (resuming : Bool) (current : StageState) :
    StageState.checkStep resuming current .completed =
      StageState.checkStep false current .completed := by
  cases current <;> cases resuming <;> rfl

/-- Leaving a stage behind a value completes it, unless it is not in progress. -/
theorem goes_leaveStage_ok {α : Type} {stage : Stage} {value : α}
    {before after : Progress} {trace : List Exchange} {outcome : Except Failure α}
    (goes : Goes (leaveStage stage (.ok value)) before trace outcome after) :
    (∀ exchange ∈ trace, exchange.IsNote) ∧
      outcome = (StageState.checkStep false (before.cursor.state stage) .completed).map
        (fun _ => value) ∧
      (outcome = .ok value → after.cursor = before.cursor.set stage .completed) := by
  rcases (goes_map_iff (transition stage .completed) (fun _ => value) _ _ _ _).mp goes with
    ⟨moved, rfl, completing⟩
  rcases goes_transition completing with ⟨noted, checked, completed⟩
  rw [checkStep_completed] at checked
  refine ⟨noted, by rw [checked], fun succeeded => ?_⟩
  cases moved with
  | error failure => cases succeeded
  | ok done => rw [completed rfl]

/-- A stage that succeeds returns what its body returned. -/
theorem goes_inStage_ok {α : Type} {stage : Stage} {body : Step α} {before after : Progress}
    {trace : List Exchange} {value : α}
    (goes : Goes (inStage stage body) before trace (.ok value) after) :
    ∃ entry inside exit entered left, trace = entry ++ (inside ++ exit) ∧
      Goes (enterStage stage) before entry (.ok ()) entered ∧
      Goes body entered inside (.ok value) left ∧
      Goes (leaveStage stage (.ok value)) left exit (.ok value) after := by
  rcases goes_inStage goes with ⟨_, _, impossible⟩ |
    ⟨entry, inside, exit, outcome, entered, left, rfl, entering, going, leaving⟩
  · cases impossible
  cases outcome with
  | error failure =>
    rcases (goes_leaveStage_error leaving).2 with ⟨_, impossible⟩
    cases impossible
  | ok found =>
    rcases goes_map_ok (fun _ => found) leaving with ⟨_, rfl, _⟩
    exact ⟨entry, inside, exit, entered, left, rfl, entering, going, leaving⟩

/-- Leaving a stage meets no resource either. -/
theorem met_of_leaveStage {α : Type} {stage : Stage} {value result : α} {before after : Progress}
    {trace : List Exchange}
    (goes : Goes (leaveStage stage (.ok value)) before trace (.ok result) after) :
    after.met = before.met := by
  rcases goes_map_ok (fun _ => value) goes with ⟨_, _, completing⟩
  rw [(goes_transition completing).2.2 rfl]

end ModelRuns
