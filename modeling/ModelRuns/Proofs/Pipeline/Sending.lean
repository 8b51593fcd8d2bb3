import ModelRuns.Proofs.Pipeline.Account
import ModelRuns.Proofs.Pipeline.Asking

namespace ModelRuns

open Stateful

/-!
# What is sent, and in which stage

A trace shows every request for a new resource, the refused ones too, and which stage was in
progress when it was sent.  What `sentIn` collects for a stage of a run is put together from
its parts, and a part that does not move the stage adds nothing to it unless it runs inside.

The requests of a step are known from how it obtains resources: it sends a stretch of its
list of requests, from behind what it took up to where it broke down.
-/

/-! ## Requests in a trace -/

/-- The creation that is asked for. -/
def Request.creation? : Request → Option Creation
  | .api (.create creation) => some creation
  | _ => none

/-- The creations that a trace asks for, in order. -/
def sent (trace : List Exchange) : List Creation :=
  trace.filterMap fun exchange => exchange.asked.creation?

@[simp] theorem sent_append (front back : List Exchange) :
    sent (front ++ back) = sent front ++ sent back := List.filterMap_append

theorem Request.eq_create_of_creation? {asked : Request} {creation : Creation}
    (asks : asked.creation? = some creation) : asked = .api (.create creation) := by
  cases asked with
  | api request =>
    cases request with
    | create other =>
      cases asks
      rfl
    | _ => cases asks
  | _ => cases asks

/-- A request that creates no result. -/
def Request.Resultless (asked : Request) : Prop :=
  ∀ creation, asked.creation? = some creation → creation.kind.isResult = false

theorem Request.Ordinary.resultless {asked : Request} (ordinary : asked.Ordinary) :
    asked.Resultless := by
  intro creation asks
  cases eq_create_of_creation? asks
  exact ordinary

theorem Request.Saving.creation? {asked : Request} (saving : asked.Saving) :
    asked.creation? = none := by
  cases asked with
  | api request =>
    cases request with
    | create creation => exact saving.elim
    | _ => rfl
  | _ => rfl

theorem Request.Saving.resultless {asked : Request} (saving : asked.Saving) :
    asked.Resultless := by
  intro creation asks
  cases saving.creation?.symm.trans asks

/-- The creations that a trace behind earlier exchanges asks for while a stage is in
progress. -/
def sentIn (stage : Stage) : (earlier trace : List Exchange) → List Creation
  | _, [] => []
  | earlier, exchange :: rest =>
    (if stageAfter? earlier = some stage then exchange.asked.creation?.toList else []) ++
      sentIn stage (earlier ++ [exchange]) rest

section

variable {stage : Stage} {earlier trace : List Exchange}

theorem sentIn_append (front back : List Exchange) :
    sentIn stage earlier (front ++ back) =
      sentIn stage earlier front ++ sentIn stage (earlier ++ front) back := by
  induction front generalizing earlier with
  | nil => simp [sentIn]
  | cons exchange rest inductionHypothesis =>
    simp only [List.cons_append, sentIn, inductionHypothesis, List.append_assoc, List.nil_append]

/-- A move of a stage asks for nothing. -/
@[simp] theorem sentIn_recording (move : Move) : sentIn stage earlier [move.recording] = [] := by
  simp [sentIn, Move.recording, Request.creation?]

/-- Inside a stage all that is asked for is asked for in this stage. -/
theorem sentIn_of_still (inside : stageAfter? earlier = some stage)
    (still : ∀ exchange ∈ trace, exchange.move? = none) :
    sentIn stage earlier trace = sent trace := by
  induction trace generalizing earlier with
  | nil => rfl
  | cons exchange rest inductionHypothesis =>
    rcases List.forall_mem_cons.mp still with ⟨here, later⟩
    rw [sentIn, if_pos inside,
      inductionHypothesis ((stageAfter?_concat here earlier).trans inside) later]
    cases found : exchange.asked.creation? <;> simp [sent, found]

end

/-! ## Stages that are not moved -/

/-- A trace does not move a stage. -/
def Unmoved (stage : Stage) (trace : List Exchange) : Prop :=
  ∀ exchange ∈ trace, ∀ move, exchange.move? = some move → move.stage ≠ stage

namespace Unmoved

variable {stage : Stage} {earlier trace front back : List Exchange}

theorem append (first : Unmoved stage front) (second : Unmoved stage back) :
    Unmoved stage (front ++ back) := List.forall_mem_append.mpr ⟨first, second⟩

/-- A stage outside of those that are moved. -/
theorem of_within {start stop : Nat}
    (moves : ∀ exchange ∈ trace, RunContext.MovesWithin start stop exchange)
    (outside : stage.place < start ∨ stop ≤ stage.place) : Unmoved stage trace := by
  rintro exchange member move moved rfl
  have within := moves exchange member move moved
  omega

/-- The stage keeps its state. -/
theorem statesAfter (unmoved : Unmoved stage trace) :
    ModelRuns.statesAfter (earlier ++ trace) stage = ModelRuns.statesAfter earlier stage := by
  rw [statesAfter_append]
  generalize ModelRuns.statesAfter earlier = states
  induction trace generalizing states with
  | nil => rfl
  | cons exchange rest inductionHypothesis =>
    rcases List.forall_mem_cons.mp unmoved with ⟨here, later⟩
    cases moved : exchange.move? with
    | none =>
      rw [List.filterMap_cons_none moved]
      exact inductionHypothesis later states
    | some move =>
      rw [List.filterMap_cons_some moved, List.foldl_cons, inductionHypothesis later]
      exact if_neg fun same => here move moved same.symm

/-- A stage that is not in progress, and not moved, asks for nothing. -/
theorem sentIn (unmoved : Unmoved stage trace)
    (idle : ModelRuns.statesAfter earlier stage ≠ .inProgress) :
    ModelRuns.sentIn stage earlier trace = [] := by
  induction trace generalizing earlier with
  | nil => rfl
  | cons exchange rest inductionHypothesis =>
    rcases List.forall_mem_cons.mp unmoved with ⟨here, later⟩
    have outside : stageAfter? earlier ≠ some stage := by
      intro found
      have running : decide (ModelRuns.statesAfter earlier stage = .inProgress) = true :=
        List.find?_some (p := fun stage => decide (ModelRuns.statesAfter earlier stage =
          .inProgress)) found
      exact idle (of_decide_eq_true running)
    have single : Unmoved stage [exchange] := List.forall_mem_singleton.mpr here
    rw [ModelRuns.sentIn, if_neg outside, inductionHypothesis later, List.append_nil]
    rw [single.statesAfter]
    exact idle

end Unmoved

/-! ## What steps ask for -/

/-- However a step goes, the creations that it asks for are good. -/
def Stateful.SendsOnly {α : Type} (good : List Creation → Prop) (step : Step α) : Prop :=
  ∀ before trace outcome after, Goes step before trace outcome after → good (sent trace)

theorem Stateful.Asks.sent_eq_nil {α : Type} {step : Step α} (saves : Asks Request.Saving step)
    {before after : Progress} {trace : List Exchange} {outcome : Except Failure α}
    (goes : Goes step before trace outcome after) : sent trace = [] :=
  List.filterMap_eq_nil_iff.mpr fun exchange member =>
    (saves before trace outcome after goes exchange member).creation?

namespace Stateful.SendsOnly

variable {α β : Type} {good : List Creation → Prop} {step : Step β} {next : β → Step α}

/-- A step in front asks for nothing new. -/
theorem behind (none : good []) (saves : Asks Request.Saving step)
    (later : ∀ value, SendsOnly good (next value)) : SendsOnly good (step >>= next) := by
  intro before trace outcome after goes
  rcases (goes_bind_iff _ _ _ _ _ _).mp goes with
    ⟨_, failed, _⟩ | ⟨front, back, value, middle, rfl, done, rest⟩
  · rw [saves.sent_eq_nil failed]
    exact none
  · rw [sent_append, saves.sent_eq_nil done]
    exact later value _ _ _ _ rest

/-- What comes behind a step asks for nothing new. -/
theorem before (first : SendsOnly good step)
    (saves : ∀ value, Asks Request.Saving (next value)) : SendsOnly good (step >>= next) := by
  intro before trace outcome after goes
  rcases (goes_bind_iff _ _ _ _ _ _).mp goes with
    ⟨_, failed, _⟩ | ⟨front, back, value, middle, rfl, done, rest⟩
  · exact first _ _ _ _ failed
  · rw [sent_append, (saves value).sent_eq_nil rest, List.append_nil]
    exact first _ _ _ _ done

end Stateful.SendsOnly

/-- However a step goes, each creation that it asks for is good. -/
def Stateful.SendsEach {α : Type} (good : Creation → Prop) (step : Step α) : Prop :=
  SendsOnly (fun creations => ∀ creation ∈ creations, good creation) step

namespace Stateful.SendsEach

variable {α β : Type} {good : Creation → Prop}

theorem of_saving {step : Step α} (saves : Asks Request.Saving step) : SendsEach good step := by
  intro before trace outcome after goes
  rw [saves.sent_eq_nil goes]
  exact List.forall_mem_nil _

theorem of_plain {step : Step α} (plain : Plain step) : SendsEach good step :=
  of_saving (.saving plain)

theorem pure (value : α) : SendsEach good (Pure.pure value : Step α) := of_saving (.pure value)

theorem bind {step : Step β} {next : β → Step α} (first : SendsEach good step)
    (second : ∀ value, SendsEach good (next value)) : SendsEach good (step >>= next) := by
  intro before trace outcome after goes
  rcases (goes_bind_iff _ _ _ _ _ _).mp goes with
    ⟨_, failed, _⟩ | ⟨front, back, value, middle, rfl, done, rest⟩
  · exact first _ _ _ _ failed
  · rw [sent_append]
    exact List.forall_mem_append.mpr ⟨first _ _ _ _ done, second value _ _ _ _ rest⟩

end Stateful.SendsEach

namespace RunContext

variable {run : RunContext} {stage : Stage} {checkpoint : Checkpoint} {before after : Progress}
  {trace : List Exchange}

/-- A resource is created with one request, unless the step breaks down before that. -/
theorem sent_create {creation : Creation} {outcome : Except Failure ResourceId}
    (goes : Goes (run.create stage checkpoint creation) before trace outcome after) :
    sent trace <+: [creation] ∧ ∀ id, outcome = .ok id → sent trace = [creation] := by
  have recorded (resource : Resource) : Asks Request.Saving (do
      Stateful.act (Checkpoint.append run.paths.output checkpoint resource.id)
      Stateful.act (Action.note "info" "resource.created"
        [("stage", .text stage.text), ("resource", .text resource.id.text)])
      run.say (creation.kind.text ++ " created: " ++ resource.id.text)
      return resource.id) := by
    refine .bind (.act (.asking (.file (.append _ _)) (fun answer => answer) trivial)) fun _ => ?_
    refine .bind (.saving (.note _ _ _)) fun _ => .bind (.saving (.say _)) fun _ => .pure _
  rcases (goes_bind_iff _ _ _ _ _ _).mp goes with
    ⟨_, failed, rfl⟩ | ⟨saying, rest, _, middle, rfl, said, goes⟩
  · rw [(Asks.saving (Plain.say _)).sent_eq_nil failed]
    exact ⟨List.nil_prefix, nofun⟩
  have quiet : sent saying = [] := (Asks.saving (Plain.say _)).sent_eq_nil said
  have asked : sent rest = [creation] := by
    rcases (goes_bind_iff _ _ _ _ _ _).mp goes with
      ⟨_, failed, _⟩ | ⟨asking, recording, resource, _, rfl, given, records⟩
    · rcases (goes_asking_iff (.api (.create _)) (fun answer => answer) _ _ _ _).mp failed with
        ⟨_, rfl, _⟩
      rfl
    · rcases (goes_asking_iff (.api (.create _)) (fun answer => answer) _ _ _ _).mp given with
        ⟨_, rfl, _⟩
      rw [sent_append, (recorded resource).sent_eq_nil records]
      rfl
  rw [sent_append, quiet, asked]
  exact ⟨List.prefix_rfl, fun _ _ => rfl⟩

/-- The requests are sent in their order, all of them unless the step breaks down. -/
theorem sent_createAll {creations : List Creation} {outcome : Except Failure (List ResourceId)}
    (goes : Goes (run.createAll stage checkpoint creations) before trace outcome after) :
    sent trace <+: creations := by
  induction creations generalizing before trace outcome with
  | nil =>
    rcases (goes_pure_iff _ _ _ _ _).mp goes with ⟨rfl, _, _⟩
    exact List.prefix_rfl
  | cons creation rest inductionHypothesis =>
    rcases (goes_bind_iff _ _ _ _ _ _).mp goes with
      ⟨_, failed, _⟩ | ⟨front, back, id, middle, rfl, created, others⟩
    · exact (sent_create failed).1.trans (List.prefix_append [creation] rest)
    · rcases (goes_map_iff _ (fun others => id :: others) _ _ _ _).mp others with ⟨_, _, creates⟩
      rw [sent_append, (sent_create created).2 id rfl]
      exact (List.prefix_append_right_inj [creation]).mpr (inductionHypothesis creates)

/-- What is obtained is asked for from behind what was taken up. -/
theorem sendsOnly_obtainMany (creations : List Creation) :
    SendsOnly (· <:+: creations) (run.obtainMany stage checkpoint creations) := by
  refine .behind List.nil_infix (.saving (.takeUp checkpoint _)) fun known => ?_
  refine .before ?_ fun created => .saving (.awaitAll _)
  intro before trace outcome after goes
  exact (sent_createAll goes).isInfix.trans (List.drop_suffix _ creations).isInfix

theorem sendsOnly_obtainOne (creation : Creation) :
    SendsOnly (· <:+: [creation]) (run.obtainOne stage checkpoint creation) :=
  fun _ _ _ _ goes => sendsOnly_obtainMany [creation] _ _ _ _ (goes_obtainMany_of_single goes)

theorem sendsEach_obtainMany {good : Creation → Prop} {creations : List Creation}
    (each : ∀ creation ∈ creations, good creation) :
    SendsEach good (run.obtainMany stage checkpoint creations) :=
  fun _ _ _ _ goes creation member =>
    each creation ((sendsOnly_obtainMany creations _ _ _ _ goes).subset member)

theorem sendsEach_obtainOne {good : Creation → Prop} {creation : Creation}
    (holds : good creation) : SendsEach good (run.obtainOne stage checkpoint creation) :=
  fun _ _ _ _ goes other member => by
    cases List.mem_singleton.mp ((sendsOnly_obtainOne creation _ _ _ _ goes).subset member)
    exact holds

/-- A fresh run sends the request for what it obtains. -/
theorem sent_obtainOne {creation : Creation} {resource : Resource}
    (fresh : before.cursor.resuming = false)
    (goes : Goes (run.obtainOne stage checkpoint creation) before trace (.ok resource) after) :
    sent trace = [creation] := by
  unfold obtainOne at goes
  rw [goes_cursor_bind_iff] at goes
  simp only [fresh, Bool.false_eq_true, if_false] at goes
  rcases goes_bind_ok goes with ⟨front, back, id, _, rfl, creates, awaits⟩
  rw [sent_append, (sent_create creates).2 id rfl,
    (Asks.saving (Plain.await id)).sent_eq_nil awaits, List.append_nil]

end RunContext

end ModelRuns
