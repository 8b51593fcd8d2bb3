import ModelRuns.Proofs.Pipeline.Centroids

namespace ModelRuns

open Stateful

/-!
# What the steps of a fresh run record

A run that does not resume creates whatever it obtains.  So a step of it that succeeds
has a journal with one entry for each resource it obtained, in the checkpoints that
belong to the step.  Steps come to their checkpoints in the order of their turns, so the
journal of a run is put together from those of its steps, and an entry shows by its
checkpoint which step it is from.

`RunContext.Records` says this of a step, with what is known of its entries and its value.
It is closed under all ways to build steps, so it holds of every step that is parallel to
itself; what is known of the entries follows from the parts that obtain resources.
-/

/-! ## Entries between two turns -/

/-- The entries are in checkpoints whose turns lie between two bounds. -/
def Placed (start stop : Nat) (entries : List Entry) : Prop :=
  ∀ entry ∈ entries, start ≤ entry.checkpoint.turn ∧ entry.checkpoint.turn < stop

namespace Entry

variable {checkpoint : Checkpoint} {entries : List Entry}

@[simp] theorem placedAt_append (checkpoint : Checkpoint) (front back : List Entry) :
    placedAt checkpoint (front ++ back) = placedAt checkpoint front ++ placedAt checkpoint back :=
  List.filter_append ..

theorem placedAt_of_placed (placed : ∀ entry ∈ entries, entry.checkpoint = checkpoint) :
    placedAt checkpoint entries = entries :=
  List.filter_eq_self.mpr fun entry member => decide_eq_true (placed entry member)

theorem placedAt_of_elsewhere (elsewhere : ∀ entry ∈ entries, entry.checkpoint ≠ checkpoint) :
    placedAt checkpoint entries = [] :=
  List.filter_eq_nil_iff.mpr fun entry member => by simpa using elsewhere entry member

end Entry

namespace Placed

variable {start middle stop : Nat} {entries others : List Entry}

theorem nil : Placed start stop [] := List.forall_mem_nil _

theorem append (front : Placed start middle entries) (back : Placed middle stop others)
    (before : start ≤ middle) (behind : middle ≤ stop) : Placed start stop (entries ++ others) := by
  intro entry member
  rcases List.mem_append.mp member with early | late
  · exact ⟨(front entry early).1, Nat.lt_of_lt_of_le (front entry early).2 behind⟩
  · exact ⟨Nat.le_trans before (back entry late).1, (back entry late).2⟩

/-- No entry is in a checkpoint of another turn. -/
theorem placedAt_eq_nil (placed : Placed start stop entries) {checkpoint : Checkpoint}
    (apart : checkpoint.turn < start ∨ stop ≤ checkpoint.turn) :
    Entry.placedAt checkpoint entries = [] := by
  refine Entry.placedAt_of_elsewhere fun entry member => ?_
  rintro rfl
  have inside := placed entry member
  omega

end Placed

/-! ## Answers about the resource asked for -/

/-- A look that finds a finished resource finds the one that it looks for. -/
def Exchange.Faithful : Exchange → Prop
  | ⟨.api (.get id _), answer⟩ =>
    ∀ resource, answer = .ok resource → resource.status.isFinished = true → resource.id = id
  | _ => True

theorem id_of_poll {intervalMs : Nat} {id : ResourceId} {query : Option String}
    {looked left : Nat} {trace : List Exchange} {resource : Resource}
    (yields : (pollResource intervalMs id query looked left).Yields trace (.ok resource))
    (faithful : ∀ exchange ∈ trace, exchange.Faithful) : resource.id = id := by
  induction left generalizing looked trace with
  | zero =>
    rcases (Action.yields_throw_iff _ _ _).mp yields with ⟨_, impossible⟩
    cases impossible
  | succ left inductionHypothesis =>
    cases look_of_yields _ _ _ _ _ _ _ yields with
    | finished _ ended => exact faithful _ List.mem_cons_self resource rfl ended
    | pending _ _ _ _ again =>
      refine inductionHypothesis again fun exchange member => faithful exchange ?_
      exact List.mem_cons_of_mem _ (List.mem_cons_of_mem _ (List.mem_cons_of_mem _ member))

namespace RunContext

variable {run : RunContext} {invocation : Invocation}

theorem idle_await (stage : Stage) (id : ResourceId) : run.Idle invocation (run.await stage id) :=
  .bind (.act (.poll _ id none 0 _)) fun _ => .bind (.meet stage _) fun _ => .pure _

theorem idle_awaitAll (stage : Stage) (ids : List ResourceId) :
    run.Idle invocation (run.awaitAll stage ids) := by
  induction ids with
  | nil => exact .pure []
  | cons id rest inductionHypothesis =>
    exact .bind (idle_await stage id) fun _ => .bind inductionHypothesis fun _ => .pure _

/-- Waiting for resources gives the resources that were waited for. -/
theorem ids_of_awaitAll {stage : Stage} {ids : List ResourceId} {before after : Progress}
    {trace : List Exchange} {resources : List Resource}
    (goes : Goes (run.awaitAll stage ids) before trace (.ok resources) after)
    (faithful : ∀ exchange ∈ trace, exchange.Faithful) : resources.map Resource.id = ids := by
  induction ids generalizing before trace resources with
  | nil =>
    rcases (goes_pure_iff _ _ _ _ _).mp goes with ⟨_, same, _⟩
    cases same
    rfl
  | cons id rest inductionHypothesis =>
    rcases goes_bind_ok goes with ⟨front, back, resource, middle, rfl, awaited, others⟩
    rcases goes_map_ok (fun others => resource :: others) others with ⟨more, rfl, waits⟩
    have later := inductionHypothesis waits fun exchange member =>
      faithful exchange (List.mem_append_right front member)
    rcases goes_bind_ok awaited with ⟨looking, noting, found, _, rfl, looks, met⟩
    rcases goes_map_ok (fun _ => found) met with ⟨_, rfl, _⟩
    have same := id_of_poll ((goes_act_iff _ _ _ _ _).mp looks).1 fun exchange member =>
      faithful exchange (List.mem_append_left _ (List.mem_append_left _ member))
    rw [List.map_cons, later, same]

/-- Waiting for a resource that is named gives this resource. -/
theorem id_of_fetch {stage : Stage} {reference : ResourceReference} {before after : Progress}
    {trace : List Exchange} {resource : Resource}
    (goes : Goes (run.fetch stage reference) before trace (.ok resource) after)
    (faithful : ∀ exchange ∈ trace, exchange.Faithful) : resource.id = reference.id := by
  have resolved {before : Progress} {trace : List Exchange}
      (goes : Goes (Stateful.act (run.policy.resolve reference none) >>= fun resource =>
        meet stage resource.id >>= fun _ => Pure.pure resource) before trace (.ok resource) after)
      (faithful : ∀ exchange ∈ trace, exchange.Faithful) : resource.id = reference.id := by
    rcases goes_bind_ok goes with ⟨looking, noting, found, _, rfl, looks, met⟩
    rcases goes_map_ok (fun _ => found) met with ⟨_, rfl, _⟩
    have looked := ((goes_act_iff _ _ _ _ _).mp looks).1
    have faithful : ∀ exchange ∈ looking, exchange.Faithful := fun exchange member =>
      faithful exchange (List.mem_append_left _ member)
    cases reference with
    | unresolved id => exact id_of_poll looked faithful
    | resolved known =>
      rw [WaitPolicy.resolve] at looked
      split at looked
      next =>
        cases ((Action.yields_pure_iff _ _ _).mp looked).2
        rfl
      next => exact id_of_poll looked faithful
  cases reference with
  | unresolved id =>
    rcases goes_bind_ok goes with ⟨saying, rest, _, _, rfl, _, goes⟩
    exact resolved goes fun exchange member =>
      faithful exchange (List.mem_append_right saying member)
  | resolved known => exact resolved goes faithful

theorem ids_of_fetchAll {stage : Stage} {references : List ResourceReference}
    {before after : Progress} {trace : List Exchange} {resources : List Resource}
    (goes : Goes (run.fetchAll stage references) before trace (.ok resources) after)
    (faithful : ∀ exchange ∈ trace, exchange.Faithful) :
    resources.map Resource.id = references.map ResourceReference.id := by
  induction references generalizing before trace resources with
  | nil =>
    rcases (goes_pure_iff _ _ _ _ _).mp goes with ⟨_, same, _⟩
    cases same
    rfl
  | cons reference rest inductionHypothesis =>
    rcases goes_bind_ok goes with ⟨front, back, resource, middle, rfl, fetched, others⟩
    rcases goes_map_ok (fun others => resource :: others) others with ⟨more, rfl, fetches⟩
    rw [List.map_cons, List.map_cons,
      id_of_fetch fetched fun exchange member => faithful exchange (List.mem_append_left _ member),
      inductionHypothesis fetches fun exchange member =>
        faithful exchange (List.mem_append_right front member)]

/-! ## Steps of a fresh run -/

/-- What a step of a fresh run leaves behind: it goes on as a fresh run, with these entries
between two turns. -/
structure Leaves (run : RunContext) (invocation : Invocation) (start stop : Nat)
    (trace : List Exchange) (after : Progress) (entries : List Entry) : Prop where
  steady : Steady after
  ordered : start ≤ stop
  journal : run.Journal invocation trace entries
  placed : Placed start stop entries

/-- A step of a fresh run that succeeds leaves entries as they are said to go with its
value. -/
def Records (run : RunContext) (invocation : Invocation) (start stop : Nat) {α : Type}
    (good : List Entry → α → Prop) (step : Step α) : Prop :=
  ∀ before trace value after, Steady before → Goes step before trace (.ok value) after →
    (∀ exchange ∈ trace, exchange.Faithful) →
    ∃ entries, run.Leaves invocation start stop trace after entries ∧ good entries value

/-- The entries of the resources that were obtained with a list of requests. -/
structure Obtained (checkpoint : Checkpoint) (creations : List Creation) (entries : List Entry)
    (resources : List Resource) : Prop where
  placed : ∀ entry ∈ entries, entry.checkpoint = checkpoint
  requests : entries.map Entry.creation = creations
  ids : resources.map Resource.id = entries.map Entry.id

namespace Records

variable {α β : Type} {start middle stop : Nat}

theorem mono {good better : List Entry → α → Prop} {step : Step α}
    (records : run.Records invocation start stop good step)
    (weaker : ∀ entries value, Placed start stop entries → good entries value →
      better entries value) : run.Records invocation start stop better step := by
  intro before trace value after steady goes faithful
  rcases records _ _ _ _ steady goes faithful with ⟨entries, leaves, holds⟩
  exact ⟨entries, leaves, weaker entries value leaves.placed holds⟩

theorem of_idle {step : Step α} (ordered : start ≤ stop) (idle : run.Idle invocation step) :
    run.Records invocation start stop (fun entries _ => entries = []) step := by
  intro before trace value after steady goes _
  have still := idle.still _ _ _ _ goes
  exact ⟨[], ⟨⟨still ▸ steady.fresh, still ▸ steady.unfailed⟩, ordered,
    .of_aside (idle.quiet _ _ _ _ goes), .nil⟩, rfl⟩

theorem pure {good : List Entry → α → Prop} (ordered : start ≤ stop) {value : α}
    (holds : good [] value) : run.Records invocation start stop good (Pure.pure value) := by
  intro before trace result after steady goes _
  rcases (goes_pure_iff _ _ _ _ _).mp goes with ⟨rfl, same, rfl⟩
  cases same
  exact ⟨[], ⟨steady, ordered, .nil, .nil⟩, holds⟩

/-- The entries of two steps in a row come one after the other. -/
theorem bind {between : List Entry → β → Prop} {good : List Entry → α → Prop} {step : Step β}
    {next : β → Step α} (first : run.Records invocation start middle between step)
    (second : ∀ value earlier, Placed start middle earlier → between earlier value →
      run.Records invocation middle stop (fun entries => good (earlier ++ entries)) (next value)) :
    run.Records invocation start stop good (step >>= next) := by
  intro before trace value after steady goes faithful
  rcases goes_bind_ok goes with ⟨front, back, found, reached, rfl, begun, ended⟩
  rcases first _ _ _ _ steady begun fun exchange member =>
    faithful exchange (List.mem_append_left back member) with ⟨earlier, leaves, known⟩
  rcases second found earlier leaves.placed known _ _ _ _ leaves.steady ended
    fun exchange member => faithful exchange (List.mem_append_right front member) with
    ⟨entries, last, holds⟩
  exact ⟨earlier ++ entries, ⟨last.steady, Nat.le_trans leaves.ordered last.ordered,
    leaves.journal.append last.journal,
    leaves.placed.append last.placed leaves.ordered last.ordered⟩, holds⟩

theorem inStage {good : List Entry → α → Prop} {stage : Stage} {body : Step α}
    (inside : run.Records invocation start stop good body) :
    run.Records invocation start stop good (inStage stage body) := by
  intro before trace value after steady goes faithful
  rcases goes_inStage_ok goes with
    ⟨entry, middle, exit, entered, left, rfl, entering, going, leaving⟩
  rcases goes_enterStage (steady.unfailed stage) entering with
    ⟨_, _, impossible⟩ | ⟨_, _, opened⟩
  · cases impossible
  rcases goes_leaveStage_ok leaving with ⟨noted, _, completed⟩
  rcases inside _ _ _ _ (steady.set (by decide) opened) going fun exchange member =>
    faithful exchange (List.mem_append_right _ (List.mem_append_left _ member)) with
    ⟨entries, leaves, holds⟩
  have journalEntry : run.Journal invocation entry [] := .of_notes (notes_enterStage entering)
  exact ⟨entries, ⟨leaves.steady.set (by decide) (completed rfl), leaves.ordered,
    journalEntry.append (quiet_notes leaves.journal noted), leaves.placed⟩, holds⟩

theorem stageIf {good : List Entry → α → Prop} {due : Bool} {stage : Stage} {default : α}
    {body : Step α} (ordered : start ≤ stop) (without : due = false → good [] default)
    (inside : due = true → run.Records invocation start stop good body) :
    run.Records invocation start stop good (RunContext.stageIf due stage default body) := by
  cases due with
  | false => exact pure ordered (without rfl)
  | true => exact inStage (inside rfl)

/-- A fresh run creates all that it obtains. -/
theorem obtainMany {stage : Stage} {checkpoint : Checkpoint} {creations : List Creation}
    (sent : ∀ creation ∈ creations, run.Sends invocation checkpoint creation)
    (after : start ≤ checkpoint.turn) (before : checkpoint.turn < stop) :
    run.Records invocation start stop (Obtained checkpoint creations)
      (run.obtainMany stage checkpoint creations) := by
  rw [obtainMany_eq]
  intro position trace resources last steady goes faithful
  rcases goes_bind_ok goes with ⟨front, back, ids, reached, rfl, obtains, awaits⟩
  rcases goes_bind_ok obtains with ⟨taking, making, known, middle, rfl, took, rest⟩
  rcases goes_takeUp_fresh steady.fresh took with ⟨rfl, nothing, rfl⟩
  cases nothing
  rcases goes_map_ok (fun created => [] ++ created) rest with ⟨created, rfl, creating⟩
  rcases goes_createAll sent creating with ⟨rfl, entries, creates⟩
  rcases creates.complete _ rfl with ⟨rfl, requests⟩
  have still := (@idle_awaitAll run invocation stage _).still _ _ _ _ awaits
  have quiet := @Quiet.awaitAll run invocation stage _ _ _ _ _ awaits
  have inside : Placed start stop entries := by
    intro entry member
    rw [creates.placed entry member]
    exact ⟨after, before⟩
  refine ⟨entries, ⟨⟨still ▸ steady.fresh, still ▸ steady.unfailed⟩, by omega,
    creates.accounts.journal.followed (.of_aside quiet), inside⟩, creates.placed, requests, ?_⟩
  exact ids_of_awaitAll awaits fun exchange member =>
    faithful exchange (List.mem_append_right _ member)

theorem obtainOne {stage : Stage} {checkpoint : Checkpoint} {creation : Creation}
    (sent : run.Sends invocation checkpoint creation)
    (after : start ≤ checkpoint.turn) (before : checkpoint.turn < stop) :
    run.Records invocation start stop
      (fun entries resource => Obtained checkpoint [creation] entries [resource])
      (run.obtainOne stage checkpoint creation) := by
  intro position trace resource last steady goes faithful
  exact obtainMany (List.forall_mem_singleton.mpr sent) after before _ _ _ _ steady
    (goes_obtainMany_of_single goes) faithful

/-- With nothing said about entries or values. -/
theorem any {good : List Entry → α → Prop} {step : Step α}
    (records : run.Records invocation start stop good step) :
    run.Records invocation start stop (fun _ _ => True) step :=
  records.mono fun _ _ _ _ => trivial

end Records

/-- Both of two parallel steps record what they create, between their turns. -/
theorem Parallel.records {α : Type} {start stop : Nat} {related : α → α → Prop}
    {left right : Step α} (parallel : Parallel run invocation start stop related left right) :
    run.Records invocation start stop (fun _ _ => True) left ∧
      run.Records invocation start stop (fun _ _ => True) right := by
  induction parallel with
  | pure ordered alike => exact ⟨.pure ordered trivial, .pure ordered trivial⟩
  | fail ordered left right =>
    exact ⟨(Records.of_idle ordered (.throw left)).any,
      (Records.of_idle ordered (.throw right)).any⟩
  | bind reflexive first second firstHypothesis secondHypothesis =>
    exact ⟨.bind firstHypothesis.1 fun value _ _ _ =>
        (secondHypothesis value value (reflexive value)).1,
      .bind firstHypothesis.2 fun value _ _ _ =>
        (secondHypothesis value value (reflexive value)).2⟩
  | ask ordered asked other finish conclude allowed allowedOther granted =>
    exact ⟨(Records.of_idle ordered (.asking asked finish allowed)).any,
      (Records.of_idle ordered (.asking other conclude allowedOther)).any⟩
  | @askLeft _ start _ _ _ _ asked finish allowed rest restHypothesis =>
    refine ⟨.bind (Records.of_idle (Nat.le_refl start)
      (.asking asked finish allowed)) fun _ _ _ _ => restHypothesis.1,
      restHypothesis.2⟩
  | @askRight _ start _ _ _ _ asked finish allowed granted rest restHypothesis =>
    exact ⟨restHypothesis.1, .bind (Records.of_idle (Nat.le_refl start)
      (.asking asked finish allowed)) fun _ _ _ _ => restHypothesis.2⟩
  | read ordered path input =>
    have idle : run.Idle invocation (Stateful.act (Action.readText path)) :=
      .act (.asking (.file (.read path)) (fun answer => answer) fun _ => trivial)
    exact ⟨(Records.of_idle ordered idle).any, (Records.of_idle ordered idle).any⟩
  | await ordered id =>
    have idle : run.Idle invocation (Stateful.act (run.policy.await id none)) :=
      .act (.poll _ id none 0 _)
    exact ⟨(Records.of_idle ordered idle).any, (Records.of_idle ordered idle).any⟩
  | meet ordered stage id =>
    exact ⟨(Records.of_idle ordered (.meet stage id)).any,
      (Records.of_idle ordered (.meet stage id)).any⟩
  | progress ordered =>
    exact ⟨(Records.of_idle ordered .state).any, (Records.of_idle ordered .state).any⟩
  | inStage stage body bodyHypothesis =>
    exact ⟨.inStage bodyHypothesis.1, .inStage bodyHypothesis.2⟩
  | obtainOne stage checkpoint creation sent after before =>
    exact ⟨(Records.obtainOne sent after before).any, (Records.obtainOne sent after before).any⟩
  | obtainMany stage checkpoint creations sent after before =>
    exact ⟨(Records.obtainMany sent after before).any, (Records.obtainMany sent after before).any⟩

end RunContext

end ModelRuns
