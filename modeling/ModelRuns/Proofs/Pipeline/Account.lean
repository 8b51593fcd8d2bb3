import ModelRuns.Proofs.Pipeline.Meeting
import ModelRuns.Proofs.Pipeline.Stages
import ModelRuns.Proofs.Resource.Id

namespace ModelRuns

open Stateful

/-!
# Accounts of resources

The trace of a run tells what each stage worked with: it shows which stage is in progress, and
which resources are waited for until they are finished.  `account` reads this off the trace.

What a run has met is this account.  `RunContext.Books` carries that from the stages, where the
tallies of their bodies give it, to a whole run.  Everything that a run created is in its
account, once and under its stage.
-/

/-! ## First occurrences -/

section

variable {α β : Type} [BEq α] [LawfulBEq α] [BEq β] [LawfulBEq β]

theorem eraseDups_concat (front : List α) (last : α) :
    (front ++ [last]).eraseDups =
      if front.contains last then front.eraseDups else front.eraseDups ++ [last] := by
  rw [List.eraseDups_append]
  cases known : front.contains last <;> simp_all [List.removeAll, List.eraseDups_cons]

theorem contains_eraseDups (list : List α) (value : α) :
    list.eraseDups.contains value = list.contains value := by
  rw [Bool.eq_iff_iff, List.contains_iff_mem, List.contains_iff_mem, List.mem_eraseDups]

theorem nodup_eraseDups (list : List α) : list.eraseDups.Nodup := by
  induction list using List.reverseRecOn with
  | nil => exact List.nodup_nil
  | append_singleton front last inductionHypothesis =>
    rw [eraseDups_concat]
    split
    next => exact inductionHypothesis
    next fresh =>
      rw [List.contains_iff_mem] at fresh
      rw [← List.concat_eq_append]
      exact List.Nodup.concat (fun member => fresh (List.mem_eraseDups.mp member))
        inductionHypothesis

/-- Values that are told apart by what is made of them occur first where that does. -/
theorem filterMap_eraseDups {change : α → Option β}
    (apart : ∀ first second result, change first = some result → change second = some result →
      first = second) (list : List α) :
    list.eraseDups.filterMap change = (list.filterMap change).eraseDups := by
  induction list using List.reverseRecOn with
  | nil => rfl
  | append_singleton front last inductionHypothesis =>
    rw [eraseDups_concat, List.filterMap_append]
    cases changed : change last with
    | none =>
      rw [List.filterMap_cons_none changed, List.filterMap_nil, List.append_nil,
        ← inductionHypothesis]
      split
      next => rfl
      next => rw [List.filterMap_append, List.filterMap_cons_none changed, List.filterMap_nil,
        List.append_nil]
    | some result =>
      have known : (front.filterMap change).contains result = front.contains last := by
        rw [Bool.eq_iff_iff, List.contains_iff_mem, List.contains_iff_mem, List.mem_filterMap]
        constructor
        · rintro ⟨other, member, same⟩
          exact apart other last result same changed ▸ member
        · exact fun member => ⟨last, member, changed⟩
      rw [List.filterMap_cons_some changed, List.filterMap_nil, eraseDups_concat, known,
        ← inductionHypothesis]
      split
      next => rfl
      next => rw [List.filterMap_append, List.filterMap_cons_some changed, List.filterMap_nil]

end

/-- What is noted by a new run is what is to be noted, where it occurs first. -/
theorem noted_nil (more : List (Stage × ResourceId)) : noted [] more = more.eraseDups := by
  induction more using List.reverseRecOn with
  | nil => rfl
  | append_singleton front last inductionHypothesis =>
    rw [noted_append, inductionHypothesis, eraseDups_concat, ← contains_eraseDups]
    rfl

/-! ## Accounts -/

theorem Stage.mem_all (stage : Stage) : stage ∈ all := by cases stage <;> decide

theorem Stage.text_injective {first second : Stage} (same : first.text = second.text) :
    first = second := by
  revert same
  cases first <;> cases second <;> decide

/-- The texts of the resources of a stage, each once and where it occurs first. -/
def textsOf (found : List (Stage × ResourceId)) (stage : Stage) : List String :=
  (found.filterMap fun entry => if entry.1 = stage then some entry.2.text else none).eraseDups

/-- The resources of each stage.  Stages without any are left out. -/
def account (found : List (Stage × ResourceId)) : List (String × List String) :=
  Stage.all.filterMap fun stage =>
    if (textsOf found stage).isEmpty then none else some (stage.text, textsOf found stage)

theorem mem_textsOf {found : List (Stage × ResourceId)} {stage : Stage} {id : ResourceId}
    (member : (stage, id) ∈ found) : id.text ∈ textsOf found stage :=
  List.mem_eraseDups.mpr (List.mem_filterMap.mpr ⟨(stage, id), member, if_pos rfl⟩)

theorem mem_account {found : List (Stage × ResourceId)} {stage : Stage} {id : ResourceId}
    (member : (stage, id) ∈ found) : (stage.text, textsOf found stage) ∈ account found := by
  refine List.mem_filterMap.mpr ⟨stage, stage.mem_all, if_neg ?_⟩
  rw [List.isEmpty_iff]
  exact List.ne_nil_of_mem (mem_textsOf member)

theorem nodup_of_mem_account {found : List (Stage × ResourceId)} {entry : String × List String}
    (member : entry ∈ account found) : entry.2.Nodup := by
  rcases List.mem_filterMap.mp member with ⟨stage, _, given⟩
  split at given
  next => cases given
  next =>
    cases given
    exact nodup_eraseDups _

/-- Every stage is in the resources of a run once. -/
theorem Progress.nodup_stages (progress : Progress) :
    (progress.resources.map Prod.fst).Nodup := by
  unfold resources
  rw [List.map_filterMap]
  refine List.Nodup.filterMap ?_ (by decide)
  intro first second name given again
  rcases Option.map_eq_some_iff.mp given with ⟨entry, listed, rfl⟩
  rcases Option.map_eq_some_iff.mp again with ⟨other, relisted, same⟩
  split at listed
  next => cases listed
  next =>
    split at relisted
    next => cases relisted
    next =>
      cases listed
      cases relisted
      exact Stage.text_injective same.symm

/-- The texts of what a stage has met, if it has met each resource once. -/
theorem Progress.texts_ofStage {progress : Progress} {found : List (Stage × ResourceId)}
    (met : progress.met = found.eraseDups) (stage : Stage) :
    (progress.ofStage stage).map ResourceId.text = textsOf found stage := by
  unfold ofStage textsOf
  rw [List.map_filterMap, met, ← filterMap_eraseDups]
  · refine List.filterMap_congr ?_
    rintro ⟨other, id⟩ _
    exact apply_ite (Option.map ResourceId.text) ..
  · rintro ⟨first, id⟩ ⟨second, other⟩ text given again
    rcases Option.ite_none_right_eq_some.mp given with ⟨rfl, named⟩
    rcases Option.ite_none_right_eq_some.mp again with ⟨rfl, renamed⟩
    exact congrArg _ (ResourceId.text_injective (Option.some.inj (named.trans renamed.symm)))

/-- The resources of a run are the account of what it met. -/
theorem Progress.resources_eq_account {progress : Progress} {found : List (Stage × ResourceId)}
    (met : progress.met = found.eraseDups) : progress.resources = account found := by
  refine List.filterMap_congr fun stage _ => ?_
  rw [← texts_ofStage met stage]
  cases progress.ofStage stage <;> rfl

theorem Progress.resources_of_met {here position : Progress} (same : here.met = position.met) :
    here.resources = position.resources := by
  unfold resources ofStage
  rw [same]

/-! ## What is settled in which stage -/

/-- The stage that is in progress behind a trace. -/
def stageAfter? (trace : List Exchange) : Option Stage :=
  Stage.all.find? fun stage => statesAfter trace stage = .inProgress

theorem At.inProgress {stage : Stage} {trace : List Exchange}
    (current : At stage .inProgress (statesAfter trace)) : stageAfter? trace = some stage := by
  have running : decide (statesAfter trace stage = .inProgress) = true :=
    decide_eq_true current.here
  cases found : stageAfter? trace with
  | none => exact absurd running (List.find?_eq_none.mp found stage stage.mem_all)
  | some other =>
    have runs : decide (statesAfter trace other = .inProgress) = true :=
      List.find?_some (p := fun stage => decide (statesAfter trace stage = .inProgress)) found
    rw [current.eq_of_inProgress (of_decide_eq_true runs)]

/-- Without a move the same stage stays in progress. -/
theorem stageAfter?_concat {exchange : Exchange} (still : exchange.move? = none)
    (trace : List Exchange) : stageAfter? (trace ++ [exchange]) = stageAfter? trace := by
  unfold stageAfter?
  rw [statesAfter_of_still trace (List.forall_mem_singleton.mpr still)]

/-- Inside a stage that stage stays in progress. -/
theorem throughout_inside {stage : Stage} {holds : Exchange → Prop} {earlier trace : List Exchange}
    (inside : stageAfter? earlier = some stage)
    (still : ∀ exchange ∈ trace, exchange.move? = none)
    (each : ∀ exchange ∈ trace, holds exchange) :
    Throughout (fun here exchange => stageAfter? here = some stage ∧ holds exchange) earlier
      trace := by
  induction trace generalizing earlier with
  | nil => trivial
  | cons exchange rest inductionHypothesis =>
    rcases List.forall_mem_cons.mp still with ⟨here, later⟩
    rcases List.forall_mem_cons.mp each with ⟨first, others⟩
    exact ⟨⟨inside, first⟩,
      inductionHypothesis ((stageAfter?_concat here earlier).trans inside) later others⟩

theorem Move.created?_recording (move : Move) : move.recording.created? = none := rfl

/-- Behind its body a stage is still in progress. -/
theorem Tally.ended {stage : Stage} {found : List ResourceId} {before after : Progress}
    {earlier trace : List Exchange} (tally : Tally stage found before trace after)
    (current : At stage .inProgress (statesAfter earlier))
    (states : before.cursor.state = statesAfter earlier) :
    At stage .inProgress (statesAfter (earlier ++ trace)) ∧
      after.cursor.state = statesAfter (earlier ++ trace) := by
  have kept : statesAfter (earlier ++ trace) = statesAfter earlier :=
    statesAfter_of_still earlier tally.still
  rw [kept, tally.states]
  exact ⟨current, states⟩

/-- What the body of a stage created, it found while the stage was in progress. -/
theorem Tally.throughout {stage : Stage} {found : List ResourceId} {before after : Progress}
    {earlier trace : List Exchange} (tally : Tally stage found before trace after)
    (inside : stageAfter? earlier = some stage) :
    Throughout (fun here exchange => ∀ made, exchange.created? = some made →
      ∃ other, stageAfter? here = some other ∧ (other, made.2) ∈ found.map (Prod.mk stage))
      earlier trace := by
  have awaited : ∀ exchange ∈ trace, ∀ made, exchange.created? = some made → made.2 ∈ found :=
    fun exchange member made given =>
      tally.awaited made (List.mem_filterMap.mpr ⟨exchange, member, given⟩)
  refine (throughout_inside inside tally.still awaited).mono ?_
  exact fun _ _ ⟨here, listed⟩ made given => ⟨stage, here, List.mem_map_of_mem (listed made given)⟩

namespace RunContext

variable (run : RunContext) (invocation : Invocation)

/-- The resource that an exchange settles for the stage in progress.  A look settles what it
finds finished.  At the very start of the stage of the models, the file of a cluster may
describe a finished one. -/
def settles? (earlier : List Exchange) (exchange : Exchange) : Option (Stage × ResourceId) :=
  let opening := earlier.getLast?.bind Exchange.move? = some ⟨.model, .notStarted, .inProgress⟩
  let supplied := if opening then run.supplied? invocation exchange else none
  (stageAfter? earlier).bind fun stage => (exchange.settled? <|> supplied).map (Prod.mk stage)

/-- What the body of a stage finds: a cluster that a file describes, where the models are looked
for, and what its looks settle. -/
def foundIn (stage : Stage) (trace : List Exchange) : List ResourceId :=
  (if stage = .model then (trace.head?.bind (run.supplied? invocation)).toList else []) ++
    settled trace

/-- What a trace behind earlier exchanges settles, in order. -/
def settledIn : (earlier trace : List Exchange) → List (Stage × ResourceId)
  | _, [] => []
  | earlier, exchange :: rest =>
    (run.settles? invocation earlier exchange).toList ++ settledIn (earlier ++ [exchange]) rest

variable {run invocation}

theorem settledIn_append (earlier front back : List Exchange) :
    run.settledIn invocation earlier (front ++ back) =
      run.settledIn invocation earlier front ++
        run.settledIn invocation (earlier ++ front) back := by
  induction front generalizing earlier with
  | nil => simp [settledIn]
  | cons exchange rest inductionHypothesis =>
    simp only [List.cons_append, settledIn, inductionHypothesis, List.append_assoc,
      List.nil_append]

/-- A move of a stage settles nothing. -/
theorem settledIn_recording (earlier : List Exchange) (move : Move) :
    run.settledIn invocation earlier [move.recording] = [] := by
  simp [settledIn, settles?, Move.recording, Exchange.settled?, supplied?]

/-- Inside a stage looks settle resources for it. -/
theorem settledIn_of_still {stage : Stage} {earlier trace : List Exchange}
    (inside : stageAfter? earlier = some stage)
    (unmoved : earlier.getLast?.bind Exchange.move? = none)
    (still : ∀ exchange ∈ trace, exchange.move? = none) :
    run.settledIn invocation earlier trace = (settled trace).map (Prod.mk stage) := by
  induction trace generalizing earlier with
  | nil => rfl
  | cons exchange rest inductionHypothesis =>
    rcases List.forall_mem_cons.mp still with ⟨here, later⟩
    have looks : run.settles? invocation earlier exchange =
        exchange.settled?.map (Prod.mk stage) := by
      simp only [settles?, inside, unmoved, reduceCtorEq, if_false, Option.bind_some]
      cases exchange.settled? <;> rfl
    have others := inductionHypothesis ((stageAfter?_concat here earlier).trans inside)
      (by rw [List.getLast?_concat]; exact here) later
    rw [settledIn, looks, others, settled_cons, List.map_append]
    cases exchange.settled? <;> rfl

/-- No exchange is both a look and a reading of the file of a cluster. -/
theorem settled?_eq_none {exchange : Exchange} {id : ResourceId}
    (supplied : run.supplied? invocation exchange = some id) : exchange.settled? = none := by
  unfold supplied? at supplied
  split at supplied
  next => rfl
  next => cases supplied

/-- In the body of a stage the file of a cluster may be read at the very start, if it is that
of the models. -/
theorem settledIn_body {stage : Stage} {earlier trace : List Exchange}
    (inside : stageAfter? earlier = some stage)
    (entered : earlier.getLast?.bind Exchange.move? = some ⟨stage, .notStarted, .inProgress⟩)
    (still : ∀ exchange ∈ trace, exchange.move? = none) :
    run.settledIn invocation earlier trace =
      (run.foundIn invocation stage trace).map (Prod.mk stage) := by
  unfold foundIn
  cases trace with
  | nil => split <;> rfl
  | cons exchange rest =>
    rcases List.forall_mem_cons.mp still with ⟨here, later⟩
    have others : run.settledIn invocation (earlier ++ [exchange]) rest = _ :=
      settledIn_of_still ((stageAfter?_concat here earlier).trans inside)
        (by rw [List.getLast?_concat]; exact here) later
    have opening : (some (⟨stage, .notStarted, .inProgress⟩ : Move) =
        some ⟨.model, .notStarted, .inProgress⟩) ↔ stage = .model := by simp
    rw [settledIn, others, settles?, entered, inside, settled_cons, ← List.append_assoc,
      List.map_append]
    simp only [opening, Option.bind_some, List.head?_cons]
    congr 1
    by_cases models : stage = .model
    · rw [if_pos models, if_pos models]
      cases supplied : run.supplied? invocation exchange with
      | none => cases exchange.settled? <;> rfl
      | some id =>
        rw [settled?_eq_none supplied]
        rfl
    · rw [if_neg models, if_neg models]
      cases exchange.settled? <;> rfl

/-- A stage settles what its body finds. -/
theorem settledIn_stage {stage : Stage} {next : StageState} {earlier inside : List Exchange}
    (current : stageAfter? (earlier ++ [Move.recording ⟨stage, .notStarted, .inProgress⟩]) =
      some stage)
    (still : ∀ exchange ∈ inside, exchange.move? = none) :
    run.settledIn invocation earlier ([Move.recording ⟨stage, .notStarted, .inProgress⟩] ++
        (inside ++ [Move.recording ⟨stage, .inProgress, next⟩])) =
      (run.foundIn invocation stage inside).map (Prod.mk stage) := by
  let entry : Move := ⟨stage, .notStarted, .inProgress⟩
  have entered : (earlier ++ [entry.recording]).getLast?.bind Exchange.move? = some entry := by
    rw [List.getLast?_concat]
    exact entry.move?_recording
  rw [settledIn_append, settledIn_append, settledIn_recording, settledIn_recording,
    settledIn_body current entered still, List.nil_append, List.append_nil]

/-! ## Stages that keep their books -/

variable {α β : Type}

/-- How a part of a pipeline went that succeeded behind earlier exchanges.  What it met is what
its trace settles, and whatever it created is settled under the stage that was in progress. -/
structure Booked (run : RunContext) (invocation : Invocation) (stop : Nat)
    (earlier : List Exchange) (before : Progress) (trace : List Exchange) (after : Progress) :
    Prop where
  states : after.cursor.state = statesAfter (earlier ++ trace)
  tidy : Tidy stop (statesAfter (earlier ++ trace))
  met : after.met = noted before.met (run.settledIn invocation earlier trace)
  awaited : Throughout (fun earlierHere exchange => ∀ made, exchange.created? = some made →
    ∃ stage, stageAfter? earlierHere = some stage ∧
      (stage, made.2) ∈ run.settledIn invocation earlier trace) earlier trace

/-- A stage whose body tallies, with the moves around it. -/
theorem Booked.of_tally {stage : Stage} {earlier inside : List Exchange}
    {before left after : Progress} (states : before.cursor.state = statesAfter earlier)
    (unentered : At stage .notStarted (statesAfter earlier))
    (tally : Tally stage (run.foundIn invocation stage inside)
      { before with cursor := before.cursor.set stage .inProgress } inside left)
    (moved : after.cursor.state = (left.cursor.set stage .completed).state)
    (unchanged : after.met = left.met) :
    run.Booked invocation (stage.place + 1) earlier before
      ([Move.recording ⟨stage, .notStarted, .inProgress⟩] ++
        (inside ++ [Move.recording ⟨stage, .inProgress, .completed⟩])) after := by
  have current : At stage .inProgress
      (statesAfter (earlier ++ [Move.recording ⟨stage, .notStarted, .inProgress⟩])) :=
    unentered.recorded .inProgress
  rcases tally.ended current (Cursor.set_state states _ _ _) with ⟨running, leftStates⟩
  have gains : run.settledIn invocation earlier
      ([Move.recording ⟨stage, .notStarted, .inProgress⟩] ++
        (inside ++ [Move.recording ⟨stage, .inProgress, .completed⟩])) = _ :=
    settledIn_stage current.inProgress tally.still
  have unmade {awaits : Creation × ResourceId → Prop} (move : Move)
      (made : Creation × ResourceId) (given : move.recording.created? = some made) :
      awaits made := by
    cases move.created?_recording.symm.trans given
  refine ⟨?_, ?_, ?_, ?_⟩
  · rw [moved, ← List.append_assoc, ← List.append_assoc]
    exact Cursor.set_state leftStates _ _ _
  · rw [← List.append_assoc, ← List.append_assoc]
    exact (running.recorded .completed).tidy
  · rw [unchanged, tally.met, gains]
  · rw [gains]
    exact (Throughout.append_iff _ _ _).mpr ⟨⟨unmade _, trivial⟩,
      (Throughout.append_iff _ _ _).mpr ⟨tally.throughout current.inProgress, unmade _, trivial⟩⟩

/-- A part of a pipeline that enters stages from `start` up to `stop` keeps its books. -/
def Books (run : RunContext) (invocation : Invocation) (start stop : Nat) (step : Step α) : Prop :=
  ∀ earlier before trace value after, before.cursor.state = statesAfter earlier →
    Tidy start (statesAfter earlier) → Goes step before trace (.ok value) after →
    (∀ exchange ∈ trace, exchange.Faithful) →
    run.Booked invocation stop earlier before trace after

namespace Books

variable {start middle stop : Nat}

theorem pure {value : α} (ordered : start ≤ stop) :
    run.Books invocation start stop (Pure.pure value : Step α) := by
  intro earlier before trace value after states tidy goes _
  rcases (goes_pure_iff _ _ _ _ _).mp goes with ⟨rfl, _, rfl⟩
  refine ⟨?_, ?_, rfl, trivial⟩
  · rw [List.append_nil, states]
  · rw [List.append_nil]
    exact tidy.mono ordered

theorem bind {step : Step β} {next : β → Step α}
    (first : run.Books invocation start middle step)
    (second : ∀ value, run.Books invocation middle stop (next value)) :
    run.Books invocation start stop (step >>= next) := by
  intro earlier before trace value after states tidy goes faithful
  rcases goes_bind_ok goes with ⟨front, back, found, reached, rfl, begun, ended⟩
  rcases List.forall_mem_append.mp faithful with ⟨faithfulFront, faithfulBack⟩
  have booked := first _ _ _ _ _ states tidy begun faithfulFront
  have later := second found _ _ _ _ _ booked.states booked.tidy ended faithfulBack
  have whole : run.settledIn invocation earlier (front ++ back) = _ :=
    settledIn_append earlier front back
  refine ⟨?_, ?_, ?_, ?_⟩
  · rw [later.states, List.append_assoc]
  · rw [← List.append_assoc]
    exact later.tidy
  · rw [later.met, booked.met, whole, noted_append]
  · rw [whole]
    refine (Throughout.append_iff _ _ _).mpr
      ⟨booked.awaited.mono fun _ _ => ?_, later.awaited.mono fun _ _ => ?_⟩
    · exact fun awaited made given => (awaited made given).imp fun _ =>
        And.imp_right (List.mem_append_left _)
    · exact fun awaited made given => (awaited made given).imp fun _ =>
        And.imp_right (List.mem_append_right _)

/-- A stage keeps its books if its body tallies. -/
theorem inStage {stage : Stage} {body : Step α} (within : start ≤ stage.place)
    (tallies : ∀ before trace value after, Goes body before trace (.ok value) after →
      (∀ exchange ∈ trace, exchange.Faithful) →
      Tally stage (run.foundIn invocation stage trace) before trace after) :
    run.Books invocation start (stage.place + 1) (Stateful.inStage stage body) := by
  intro earlier before trace value after states tidy goes faithful
  have unentered : At stage .notStarted (statesAfter earlier) := tidy.at within
  have waiting : before.cursor.state stage = .notStarted := by
    rw [states]
    exact unentered.here
  rcases goes_inStage_ok goes with
    ⟨entry, inside, exit, entered, left, rfl, entering, going, leaving⟩
  rcases goes_enterStage_unentered waiting entering with ⟨rfl, _, rfl⟩
  have tally := tallies _ _ _ _ going fun exchange member =>
    faithful exchange (List.mem_append_right _ (List.mem_append_left _ member))
  rcases tally.ended (unentered.recorded _) (Cursor.set_state states _ _ _) with
    ⟨running, leftStates⟩
  have stageRunning : left.cursor.state stage = .inProgress := by
    rw [leftStates]
    exact running.here
  rcases goes_leaveStage_running stageRunning leaving with ⟨rfl, _, moved, _⟩
  exact .of_tally states unentered tally moved (met_of_leaveStage leaving)

/-- A stage that is left out keeps its books too. -/
theorem stageIf {due : Bool} {stage : Stage} {default : α} {body : Step α}
    (within : start ≤ stage.place)
    (tallies : ∀ before trace value after, Goes body before trace (.ok value) after →
      (∀ exchange ∈ trace, exchange.Faithful) →
      Tally stage (run.foundIn invocation stage trace) before trace after) :
    run.Books invocation start (stage.place + 1) (RunContext.stageIf due stage default body) := by
  cases due with
  | false => exact pure (within.trans (Nat.le_succ _))
  | true => exact inStage within tallies

/-- Unless a file of a cluster is at hand, a stage finds what its looks settle. -/
theorem of_tallies {stage : Stage} {body : Step α}
    (unsupplied : stage = .model → invocation.clusterFile = none) (tallies : Tallies stage body) :
    ∀ before trace value after, Goes body before trace (.ok value) after →
      (∀ exchange ∈ trace, exchange.Faithful) →
      Tally stage (run.foundIn invocation stage trace) before trace after := by
  intro before trace value after goes faithful
  have looks : run.foundIn invocation stage trace = settled trace := by
    unfold foundIn
    split
    next models => rw [supplied_of_none invocation (unsupplied models), List.nil_append]
    next => rfl
  rw [looks]
  exact tallies _ _ _ _ goes faithful

theorem runMain (options : MainOptions) :
    run.Books (.main options) 0 (Stage.report.place + 1) (run.runMain options) := by
  refine .bind (stageIf (Nat.zero_le _) (of_tallies nofun .sourceStage)) fun _ => ?_
  refine .bind (stageIf (by decide) (of_tallies nofun (.datasetStage _ _))) fun _ => ?_
  refine .bind (stageIf (by decide) (of_tallies (fun _ => rfl) (.modelStage _))) fun _ => ?_
  refine .bind (stageIf (by decide) (of_tallies nofun (.testDataStage _))) fun _ => ?_
  refine .bind (stageIf (by decide) (of_tallies nofun (.modelAction _ _ _ _))) fun _ => ?_
  exact inStage (by decide) (of_tallies nofun .reportStage)

theorem runCluster (options : ClusterOptions) :
    run.Books (.cluster options) 0 (Stage.report.place + 1) (run.runCluster options) := by
  refine .bind (stageIf (Nat.zero_le _) (of_tallies nofun .sourceStage)) fun _ => ?_
  refine .bind (stageIf (by decide) (of_tallies nofun (.datasetStage _ _))) fun _ => ?_
  refine .bind (inStage (by decide) fun _ _ _ _ => Tallies.of_clusterStage) fun _ => ?_
  refine .bind (stageIf (by decide) (of_tallies nofun (.testDataStage _))) fun _ => ?_
  refine .bind (stageIf (by decide) (of_tallies nofun (.useCluster _ _ _))) fun _ => ?_
  exact inStage (by decide) (of_tallies nofun .reportStage)

theorem runPipeline :
    run.Books invocation 0 (Stage.report.place + 1) (run.runPipeline invocation) := by
  cases invocation with
  | main options => exact runMain options
  | cluster options => exact runCluster options

end Books

/-- The resources of a summary account for a trace.  Each stage has the resources that were
settled while it was in progress, each once and where it occurs first.  Everything created is
there, once and under its stage. -/
structure AccountsFor (run : RunContext) (invocation : Invocation) (trace : List Exchange)
    (resources : List (String × List String)) : Prop where
  settled : resources = account (run.settledIn invocation [] trace)
  stages : (resources.map Prod.fst).Nodup
  distinct : ∀ entry ∈ resources, entry.2.Nodup
  created : Throughout (fun earlier exchange => ∀ made, exchange.created? = some made →
    ∃ stage ids, stageAfter? earlier = some stage ∧ (stage.text, ids) ∈ resources ∧
      ids.count made.2.text = 1) [] trace

/-- What a run that succeeds has met accounts for its trace. -/
theorem accountsFor_of_goes {resuming : Bool} {trace : List Exchange} {after : Progress}
    (goes : Goes (run.runPipeline invocation) (Progress.start resuming) trace (.ok ()) after)
    (faithful : ∀ exchange ∈ trace, exchange.Faithful) :
    run.AccountsFor invocation trace after.resources := by
  have booked : run.Booked invocation _ [] (Progress.start resuming) trace after :=
    Books.runPipeline _ _ _ _ _ rfl Tidy.start goes faithful
  have settled : after.resources = account (run.settledIn invocation [] trace) :=
    Progress.resources_eq_account (booked.met.trans (noted_nil _))
  have stages := after.nodup_stages
  rw [settled] at stages ⊢
  refine ⟨rfl, stages, fun _ => nodup_of_mem_account, booked.awaited.mono ?_⟩
  intro earlier exchange awaited made given
  rcases awaited made given with ⟨stage, inside, member⟩
  have listed := mem_account member
  exact ⟨stage, _, inside, listed,
    List.count_eq_one_of_mem (nodup_of_mem_account listed) (mem_textsOf member)⟩

end RunContext

end ModelRuns
