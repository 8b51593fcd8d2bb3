import ModelRuns.Proofs.Pipeline.Outside
import ModelRuns.Proofs.Resource.Looks

namespace ModelRuns

open Stateful

/-!
# An attempt beside the undisturbed run

An attempt at a run is followed step by step beside a fresh run that nothing
disturbs.  `held` lists what all attempts have created so far, and `listed` what
the undisturbed run has.  While an attempt resumes, it is behind what is held and
takes up the rest; once it no longer resumes, both lists are the same.

`Refines` says that a step keeps this up: where it succeeds, the undisturbed one
succeeds too and has met the same resources, and where it fails, nothing was created
that the undisturbed run does not create.  The relation is closed under all parts
steps are built from.
-/

/-- What an attempt has created compared with the undisturbed run. -/
def InStep (resuming : Bool) (held listed : List Entry) : Prop :=
  (resuming = true ∧ listed <+: held) ∨ (resuming = false ∧ held = listed)

/-- What is held lies within what the undisturbed run creates up to a later point,
or that point is reached and was passed before. -/
def Within {α : Type} (held total : List Entry) (result : Except Failure α) : Prop :=
  held <+: total ∨ (∃ value, result = .ok value) ∧ total <+: held

namespace Within

variable {α β : Type} {held total : List Entry}

theorem mono {result : Except Failure α} (other : Except Failure β)
    (within : Within held total result)
    (reached : ∀ value, result = .ok value → ∃ value, other = .ok value) :
    Within held total other := by
  rcases within with inside | ⟨⟨value, succeeded⟩, passed⟩
  · exact .inl inside
  · exact .inr ⟨reached value succeeded, passed⟩

/-- What lies within the whole lies within its first part, if that is reached. -/
theorem first {result : Except Failure α} (other : Except Failure β) {later : List Entry}
    (within : Within held (total ++ later) result) (reached : ∃ value, other = .ok value) :
    Within held total other := by
  have front : total <+: total ++ later := List.prefix_append total later
  rcases within with inside | ⟨_, passed⟩
  · rcases List.prefix_or_prefix_of_prefix inside front with shorter | longer
    · exact .inl shorter
    · exact .inr ⟨reached, longer⟩
  · exact .inr ⟨reached, front.trans passed⟩

end Within

/-- The undisturbed run does not resume, and none of its stages has failed. -/
structure Steady (progress : Progress) : Prop where
  fresh : progress.cursor.resuming = false
  unfailed : ∀ stage, progress.cursor.state stage ≠ .failed

theorem Progress.met_meet (progress : Progress) (stage : Stage) (id : ResourceId) :
    (progress.meet stage id).met = if progress.met.contains (stage, id) then progress.met
      else progress.met ++ [(stage, id)] :=
  apply_ite Progress.met ..

@[simp] theorem Progress.cursor_meet (progress : Progress) (stage : Stage) (id : ResourceId) :
    (progress.meet stage id).cursor = progress.cursor := by
  unfold meet
  split <;> rfl

/-- Two runs are abreast: their stages are in the same states, and they have met the same
resources. -/
structure Abreast (here position : Progress) : Prop where
  state : here.cursor.state = position.cursor.state
  met : here.met = position.met

theorem Abreast.trans {first second third : Progress} (front : Abreast first second)
    (back : Abreast second third) : Abreast first third :=
  ⟨front.state.trans back.state, front.met.trans back.met⟩

/-- How a step of an attempt ends beside the undisturbed one.  `made` is what it
created, and `total` what the undisturbed run has created after its step. -/
inductive Follows {α : Type} (related : α → α → Prop) (resuming : Bool)
    (held made total : List Entry) (last : Progress) (result : Except Failure α) :
    Except Failure α → Progress → Prop
  | done {value other : α} {after : Progress} (same : result = .ok other)
      (alike : related value other) (abreast : Abreast after last)
      (inStep : InStep after.cursor.resuming (held ++ made) total)
      (tookUp : after.cursor.resuming = true → resuming = true ∧ made = []) :
      Follows related resuming held made total last result (.ok value) after
  | failed {failure : Failure} {after : Progress} (inside : made = [] ∨ held ++ made <+: total) :
      Follows related resuming held made total last result (.error failure) after

/-- A step of an attempt keeps up with one step of the undisturbed run, which has
created `listed` before and `total` after it. -/
def RunContext.KeepsUp (run : RunContext) (invocation : Invocation) (outside : Outside) {α : Type}
    (related : α → α → Prop) (left : Step α) (listed total : List Entry)
    (position last : Progress) (result : Except Failure α) : Prop :=
  ∀ earlier held here trace outcome after,
    run.Journal invocation earlier held → Throughout (outside.Agrees run) [] earlier →
    Abreast here position →
    Goes left here trace outcome after → Throughout (outside.Agrees run) earlier trace →
    InStep here.cursor.resuming held listed → Within held total result →
    ∃ made, run.Journal invocation trace made ∧
      Follows related here.cursor.resuming held made total last result outcome after

/-- A step of an attempt keeps up with a step of the undisturbed run, wherever that
is taken.  As long as it succeeds, the undisturbed run only uses checkpoints before
`stop`. -/
def RunContext.Refines (run : RunContext) (invocation : Invocation) (outside : Outside) {α : Type}
    (start stop : Nat) (related : α → α → Prop) (left right : Step α) : Prop :=
  ∀ before listed position whole result last,
    run.Journal invocation before listed →
    (∀ entry ∈ listed, entry.checkpoint.turn < start) → Steady position →
    Goes right position whole result last → Throughout (outside.Undisturbed run) before whole →
    ∃ done, run.Journal invocation whole done ∧
      (∀ value, result = .ok value →
        Steady last ∧ ∀ entry ∈ listed ++ done, entry.checkpoint.turn < stop) ∧
      run.KeepsUp invocation outside related left listed (listed ++ done) position last result

namespace RunContext.KeepsUp

variable {run : RunContext} {invocation : Invocation} {outside : Outside} {α β : Type}
  {between : β → β → Prop} {related : α → α → Prop} {left : Step β} {next : β → Step α}
  {listed total : List Entry} {position last : Progress}

/-- Where the undisturbed run has failed, an attempt gets no further. -/
theorem bind_failed {failure : Failure}
    (first : run.KeepsUp invocation outside between left listed total position last
      (.error failure)) :
    run.KeepsUp invocation outside related (left >>= next) listed total position last
      (.error failure) := by
  intro earlier held here trace outcome after journal agreed same goes agrees inStep within
  have withinFirst := within.mono (.error failure : Except Failure β)
    (fun _ impossible => nomatch impossible)
  rcases (goes_bind_iff left next _ _ _ _).mp goes with
    ⟨refusal, refused, rfl⟩ | ⟨front, back, value, stopped, rfl, went, _⟩
  · rcases first _ _ _ _ _ _ journal agreed same refused agrees inStep withinFirst with
      ⟨made, journalMade, follows⟩
    cases follows with
    | failed inside => exact ⟨made, journalMade, .failed inside⟩
  · have agreesFront := ((Throughout.append_iff _ _ _).mp agrees).1
    rcases first _ _ _ _ _ _ journal agreed same went agreesFront inStep withinFirst with
      ⟨made, _, follows⟩
    cases follows with
    | done impossible => cases impossible

/-- Two steps in a row keep up when both do. -/
theorem bind {other : β} {reached : Progress} {done : List Entry} {result : Except Failure α}
    (first : run.KeepsUp invocation outside between left listed total position reached (.ok other))
    (second : ∀ value, between value other →
      run.KeepsUp invocation outside related (next value) total (total ++ done) reached last result) :
    run.KeepsUp invocation outside related (left >>= next) listed (total ++ done) position last
      result := by
  intro earlier held here trace outcome after journal agreed same goes agrees inStep within
  have front : total <+: total ++ done := List.prefix_append total done
  have withinFirst := within.first (.ok other : Except Failure β) ⟨other, rfl⟩
  rcases (goes_bind_iff left next _ _ _ _).mp goes with
    ⟨refusal, refused, rfl⟩ | ⟨frontTrace, backTrace, value, middle, rfl, went, rest⟩
  · rcases first _ _ _ _ _ _ journal agreed same refused agrees inStep withinFirst with
      ⟨made, journalMade, follows⟩
    cases follows with
    | failed inside =>
      exact ⟨made, journalMade, .failed (inside.imp_right fun before => before.trans front)⟩
  rcases (Throughout.append_iff _ _ _).mp agrees with ⟨agreesFront, agreesBack⟩
  rcases first _ _ _ _ _ _ journal agreed same went agreesFront inStep withinFirst with
    ⟨made, journalMade, follows⟩
  cases follows with
  | done found alike abreast inStepMiddle tookUp =>
    cases found
    have agreedMiddle := (Throughout.append_iff _ _ _).mpr ⟨agreed, agreesFront⟩
    have withinMiddle : Within (held ++ made) (total ++ done) result := by
      rcases inStepMiddle with ⟨resuming, _⟩ | ⟨_, level⟩
      · rw [(tookUp resuming).2, List.append_nil]
        exact within
      · rw [level]
        exact .inl front
    rcases second value alike _ _ _ _ _ _ (journal.append journalMade) agreedMiddle abreast rest
      agreesBack inStepMiddle withinMiddle with ⟨more, journalMore, followsMore⟩
    refine ⟨made ++ more, journalMade.append journalMore, ?_⟩
    cases followsMore with
    | done result alike abreast inStepLast tookUpLast =>
      rw [List.append_assoc] at inStepLast
      refine .done result alike abreast inStepLast fun resuming => ?_
      rcases tookUpLast resuming with ⟨stillResuming, rfl⟩
      rcases tookUp stillResuming with ⟨resumed, rfl⟩
      exact ⟨resumed, rfl⟩
    | failed inside =>
      refine .failed ?_
      rcases inside with rfl | inside
      · rw [List.append_nil]
        rcases inStepMiddle with ⟨resuming, _⟩ | ⟨_, level⟩
        · exact .inl (tookUp resuming).2
        · rw [level]
          exact .inr front
      · rw [← List.append_assoc]
        exact .inr inside

end RunContext.KeepsUp

namespace RunContext.Refines

variable {run : RunContext} {invocation : Invocation} {outside : Outside} {α β : Type}
  {start middle stop : Nat}

theorem bind {between : β → β → Prop} {related : α → α → Prop} {left right : Step β}
    {nextLeft nextRight : β → Step α} (reflexive : ∀ value, between value value)
    (first : run.Refines invocation outside start middle between left right)
    (second : ∀ value other, between value other →
      run.Refines invocation outside middle stop related (nextLeft value) (nextRight other)) :
    run.Refines invocation outside start stop related (left >>= nextLeft) (right >>= nextRight) := by
  intro before listed position whole result last journal turns steady goes undisturbed
  rcases (goes_bind_iff right nextRight _ _ _ _).mp goes with
    ⟨failure, failed, rfl⟩ | ⟨front, back, other, reached, rfl, went, rest⟩
  · rcases first _ _ _ _ _ _ journal turns steady failed undisturbed with
      ⟨done, journalDone, _, keepsUp⟩
    exact ⟨done, journalDone, (fun _ impossible => nomatch impossible), keepsUp.bind_failed⟩
  · rcases (Throughout.append_iff _ _ _).mp undisturbed with ⟨undisturbedFront, undisturbedBack⟩
    rcases first _ _ _ _ _ _ journal turns steady went undisturbedFront with
      ⟨done, journalDone, reaching, keepsUp⟩
    rcases reaching other rfl with ⟨steadyMiddle, turnsDone⟩
    have behind := fun value alike => second value other alike _ _ _ _ _ _
      (journal.append journalDone) turnsDone steadyMiddle rest undisturbedBack
    rcases behind other (reflexive other) with ⟨later, journalLater, ending, _⟩
    rw [List.append_assoc] at ending
    refine ⟨done ++ later, journalDone.append journalLater, ending, ?_⟩
    rw [← List.append_assoc]
    refine keepsUp.bind fun value alike => ?_
    rcases behind value alike with ⟨same, journalSame, _, keepsUpLater⟩
    rw [journalLater.unique journalSame]
    exact keepsUpLater

end RunContext.Refines

/-! ## Steps that create nothing -/

/-- A step that only asks aside and leaves the cursor alone. -/
structure RunContext.Idle (run : RunContext) (invocation : Invocation) {α : Type}
    (step : Step α) : Prop where
  quiet : run.Quiet invocation step
  still : ∀ before trace outcome after, Goes step before trace outcome after →
    after.cursor = before.cursor

/-- A step that only asks aside and leaves the whole state alone. -/
structure RunContext.Inert (run : RunContext) (invocation : Invocation) {α : Type}
    (step : Step α) : Prop where
  quiet : run.Quiet invocation step
  still : ∀ before trace outcome after, Goes step before trace outcome after → after = before

namespace RunContext.Inert

variable {run : RunContext} {invocation : Invocation} {α : Type}

theorem act {action : Action α} (quiet : run.Quiet invocation (Stateful.act action)) :
    run.Inert invocation (Stateful.act action) :=
  ⟨quiet, fun _ _ _ _ goes => ((goes_act_iff _ _ _ _ _).mp goes).2⟩

theorem pure (value : α) : run.Inert invocation (Pure.pure value : Step α) :=
  ⟨.pure value, fun _ _ _ _ goes => ((goes_pure_iff _ _ _ _ _).mp goes).2.2⟩

theorem throw (failure : Failure) : run.Inert invocation (throw failure : Step α) :=
  ⟨.throw failure, fun _ _ _ _ goes => ((goes_throw_iff _ _ _ _ _).mp goes).2.2⟩

theorem asking (asked : Request) (finish : asked.Answer → Except Failure α)
    (allowed : run.MayAsk invocation asked) :
    run.Inert invocation (Stateful.act (Action.asking asked finish)) :=
  act (.asking asked finish (aside_of_mayAsk allowed))

theorem state : run.Inert invocation (get : Step Progress) :=
  ⟨.state, fun _ _ _ _ goes => ((goes_get_iff _ _ _ _).mp goes).2.2⟩

theorem idle {step : Step α} (inert : run.Inert invocation step) : run.Idle invocation step :=
  ⟨inert.quiet, fun _ _ _ _ goes => congrArg Progress.cursor (inert.still _ _ _ _ goes)⟩

end RunContext.Inert

namespace RunContext.Idle

variable {run : RunContext} {invocation : Invocation} {α β : Type}

theorem act {action : Action α} (quiet : run.Quiet invocation (Stateful.act action)) :
    run.Idle invocation (Stateful.act action) := (Inert.act quiet).idle

theorem pure (value : α) : run.Idle invocation (Pure.pure value : Step α) := (Inert.pure value).idle

theorem throw (failure : Failure) : run.Idle invocation (throw failure : Step α) :=
  (Inert.throw failure).idle

theorem asking (asked : Request) (finish : asked.Answer → Except Failure α)
    (allowed : run.MayAsk invocation asked) :
    run.Idle invocation (Stateful.act (Action.asking asked finish)) :=
  (Inert.asking asked finish allowed).idle

theorem meet (stage : Stage) (id : ResourceId) : run.Idle invocation (RunContext.meet stage id) := by
  refine ⟨.changing _, fun before trace outcome after goes => ?_⟩
  rcases (goes_modify_iff _ _ _ _ _).mp goes with ⟨_, _, rfl⟩
  exact before.cursor_meet stage id

theorem state : run.Idle invocation (get : Step Progress) := Inert.state.idle

theorem minor {step : Step α} (minor : run.Minor invocation step) : run.Idle invocation step :=
  ⟨.minor minor, fun before trace outcome after goes =>
    congrArg Progress.cursor (minor before trace outcome after goes).1⟩

theorem bind {step : Step α} {next : α → Step β} (first : run.Idle invocation step)
    (second : ∀ value, run.Idle invocation (next value)) :
    run.Idle invocation (step >>= next) := by
  refine ⟨.bind first.quiet fun value => (second value).quiet, ?_⟩
  intro before trace outcome after goes
  rcases (goes_bind_iff step next before after trace outcome).mp goes with
    ⟨failure, failed, _⟩ | ⟨front, back, value, middle, _, done, later⟩
  · exact first.still _ _ _ _ failed
  · exact ((second value).still _ _ _ _ later).trans (first.still _ _ _ _ done)

/-- Waiting for a resource that is named by its identifier. -/
theorem fetch (stage : Stage) (id : ResourceId) :
    run.Idle invocation (run.fetch stage (.unresolved id)) :=
  bind (minor (.say _)) fun _ => bind (act (.poll _ id none 0 _)) fun resource =>
    bind (meet stage resource.id) fun _ => pure resource

theorem fetchAll (stage : Stage) (ids : List ResourceId) :
    run.Idle invocation (run.fetchAll stage (ids.map .unresolved)) := by
  induction ids with
  | nil => exact pure []
  | cons id rest inductionHypothesis =>
    exact bind (fetch stage id) fun resource => bind inductionHypothesis fun others => pure _

end RunContext.Idle

namespace RunContext.Refines

variable {run : RunContext} {invocation : Invocation} {outside : Outside} {α : Type}
  {start stop : Nat}

/-- A step of an attempt that succeeded, beside a step of the undisturbed run. -/
structure Beside (run : RunContext) (invocation : Invocation) (outside : Outside) {α : Type}
    (left right : Step α) (value : α) (result : Except Failure α) where
  (before whole earlier trace : List Exchange)
  (listed held : List Entry)
  (position last here after : Progress)
  journal : run.Journal invocation before listed
  goes : Goes right position whole result last
  undisturbed : Throughout (outside.Undisturbed run) before whole
  journalHeld : run.Journal invocation earlier held
  goesLeft : Goes left here trace (.ok value) after
  agrees : Throughout (outside.Agrees run) earlier trace
  abreast : Abreast here position
  inStep : InStep here.cursor.resuming held listed
  within : Within held listed result

/-- An idle step keeps up if the undisturbed one succeeds whenever it does, and has met the
same resources then. -/
theorem of_idle {related : α → α → Prop} {left right : Step α} (ordered : start ≤ stop)
    (idleLeft : run.Idle invocation left) (idleRight : run.Idle invocation right)
    (answered : ∀ value result, (beside : Beside run invocation outside left right value result) →
      ∃ other, result = .ok other ∧ related value other ∧ beside.after.met = beside.last.met) :
    run.Refines invocation outside start stop related left right := by
  intro before listed position whole result last journal turns steady goes undisturbed
  have stillRight := idleRight.still _ _ _ _ goes
  refine ⟨[], .of_aside (idleRight.quiet _ _ _ _ goes), ?_, ?_⟩
  · rw [List.append_nil]
    exact fun _ _ => ⟨⟨stillRight ▸ steady.fresh, stillRight ▸ steady.unfailed⟩,
      fun entry member => Nat.lt_of_lt_of_le (turns entry member) ordered⟩
  · rw [List.append_nil]
    intro earlier held here trace outcome after journalHeld agreed abreast goesLeft agrees inStep
      within
    refine ⟨[], .of_aside (idleLeft.quiet _ _ _ _ goesLeft), ?_⟩
    cases outcome with
    | error failure => exact .failed (.inl rfl)
    | ok value =>
      rcases answered value result ⟨before, whole, earlier, trace, listed, held, position, last, here,
        after, journal, goes, undisturbed, journalHeld, goesLeft, agrees, abreast, inStep, within⟩
        with ⟨other, succeeded, alike, met⟩
      have stillLeft := idleLeft.still _ _ _ _ goesLeft
      refine .done succeeded alike ⟨?_, met⟩ ?_ ?_
      · rw [stillLeft, stillRight, abreast.state]
      · rw [stillLeft, List.append_nil]
        exact inStep
      · rw [stillLeft]
        exact fun resuming => ⟨resuming, rfl⟩

/-- An inert step meets nothing. -/
theorem of_inert {related : α → α → Prop} {left right : Step α} (ordered : start ≤ stop)
    (inertLeft : run.Inert invocation left) (inertRight : run.Inert invocation right)
    (answered : ∀ value result, Beside run invocation outside left right value result →
      ∃ other, result = .ok other ∧ related value other) :
    run.Refines invocation outside start stop related left right := by
  refine of_idle ordered inertLeft.idle inertRight.idle fun value result beside => ?_
  rcases answered value result beside with ⟨other, succeeded, alike⟩
  refine ⟨other, succeeded, alike, ?_⟩
  rw [inertLeft.still _ _ _ _ beside.goesLeft, inertRight.still _ _ _ _ beside.goes]
  exact beside.abreast.met

theorem pure {related : α → α → Prop} {left right : α} (ordered : start ≤ stop)
    (alike : related left right) :
    run.Refines invocation outside start stop related (Pure.pure left) (Pure.pure right) := by
  refine of_inert ordered (.pure left) (.pure right) fun value result beside => ?_
  rcases (goes_pure_iff _ _ _ _ _).mp beside.goes with ⟨_, rfl, _⟩
  rcases (goes_pure_iff _ _ _ _ _).mp beside.goesLeft with ⟨_, same, _⟩
  cases same
  exact ⟨right, rfl, alike⟩

theorem fail {related : α → α → Prop} (ordered : start ≤ stop) (left right : Failure) :
    run.Refines invocation outside start stop related (throw left) (throw right) := by
  refine of_inert ordered (.throw left) (.throw right) fun value result beside => ?_
  rcases (goes_throw_iff _ _ _ _ _).mp beside.goesLeft with ⟨_, impossible, _⟩
  cases impossible

theorem ask {related : α → α → Prop} (ordered : start ≤ stop) (asked other : Request)
    (finish : asked.Answer → Except Failure α) (conclude : other.Answer → Except Failure α)
    (allowed : run.MayAsk invocation asked) (allowedOther : run.MayAsk invocation other)
    (granted : ∀ answer value, finish answer = .ok value →
      ∃ result, conclude other.granted = .ok result ∧ related value result) :
    run.Refines invocation outside start stop related
      (Stateful.act (Action.asking asked finish))
      (Stateful.act (Action.asking other conclude)) := by
  refine of_inert ordered (.asking asked finish allowed) (.asking other conclude allowedOther)
    fun value result beside => ?_
  rcases (goes_asking_iff other conclude _ _ _ _).mp beside.goes with ⟨reply, listed, rfl, _⟩
  rcases (goes_asking_iff asked finish _ _ _ _).mp beside.goesLeft with ⟨answer, _, finished, _⟩
  have undisturbed := beside.undisturbed
  rw [listed] at undisturbed
  have replied : reply = other.granted :=
    Eq.trans undisturbed.1 (Outside.reply_of_mayAsk beside.before allowedOther)
  rw [replied]
  exact granted answer value finished.symm

theorem read (apart : run.KeepsApart invocation) (ordered : start ≤ stop) (path : Path)
    (input : run.Reads invocation path) :
    run.Refines invocation outside start stop Eq
      (Stateful.act (Action.readText path)) (Stateful.act (Action.readText path)) := by
  have inert : run.Inert invocation (Stateful.act (Action.readText path)) :=
    .act (.asking (.file (.read path)) (fun answer => answer) fun _ => trivial)
  have readings : ∀ {position last : Progress} {trace : List Exchange}
      {outcome : Except Failure String},
      Goes (Stateful.act (Action.readText path)) position trace outcome last →
        trace = [⟨.file (.read path), outcome⟩] := by
    intro position last trace outcome goes
    rcases (goes_asking_iff (.file (.read path)) (fun answer => answer) _ _ _ _).mp goes with
      ⟨answer, listed, rfl, _⟩
    exact listed
  refine of_inert ordered inert inert fun value result beside => ?_
  have undisturbed := beside.undisturbed
  have agrees := beside.agrees
  rw [readings beside.goes] at undisturbed
  rw [readings beside.goesLeft] at agrees
  have replied : result = outside.text path := undisturbed.1.agrees.2 (apart.inputs path input)
  have answered : .ok value = outside.text path := agrees.1.2 (apart.inputs path input)
  exact ⟨value, replied.trans answered.symm, rfl⟩

theorem meet (ordered : start ≤ stop) (stage : Stage) (id : ResourceId) :
    run.Refines invocation outside start stop Eq (RunContext.meet stage id)
      (RunContext.meet stage id) := by
  refine of_idle ordered (.meet stage id) (.meet stage id) fun value result beside => ?_
  rcases (goes_modify_iff _ _ _ _ _).mp beside.goes with ⟨_, rfl, same⟩
  rcases (goes_modify_iff _ _ _ _ _).mp beside.goesLeft with ⟨_, _, sameLeft⟩
  refine ⟨(), rfl, rfl, ?_⟩
  rw [same, sameLeft, Progress.met_meet, Progress.met_meet, beside.abreast.met]

theorem progress (ordered : start ≤ stop) :
    run.Refines invocation outside start stop (fun _ _ => True) (get : Step Progress) get := by
  refine of_inert ordered .state .state fun value result beside => ?_
  rcases (goes_get_iff _ _ _ _).mp beside.goes with ⟨_, succeeded, _⟩
  exact ⟨beside.position, succeeded, trivial⟩

/-- One more request of an attempt. -/
theorem askLeft {related : α → α → Prop} {left right : Step α} (asked : Request)
    (finish : asked.Answer → Except Failure Unit)
    (allowed : run.MayAsk invocation asked)
    (rest : run.Refines invocation outside start stop related left right) :
    run.Refines invocation outside start stop related
      (Stateful.act (Action.asking asked finish) >>= fun _ => left) right := by
  have first : run.Refines invocation outside start start Eq
      (Stateful.act (Action.asking asked finish)) (Pure.pure ()) := by
    refine of_inert (Nat.le_refl start) (.asking asked finish allowed) (.pure ())
      fun value result beside => ?_
    rcases (goes_pure_iff _ _ _ _ _).mp beside.goes with ⟨_, succeeded, _⟩
    exact ⟨(), succeeded, rfl⟩
  have both := bind (fun _ => rfl) first fun _ _ _ => rest
  rw [pure_bind] at both
  exact both

/-- One more request of the undisturbed run. -/
theorem askRight {related : α → α → Prop} {left right : Step α} (asked : Request)
    (finish : asked.Answer → Except Failure Unit)
    (allowed : run.MayAsk invocation asked) (granted : finish asked.granted = .ok ())
    (rest : run.Refines invocation outside start stop related left right) :
    run.Refines invocation outside start stop related left
      (Stateful.act (Action.asking asked finish) >>= fun _ => right) := by
  have first : run.Refines invocation outside start start Eq
      (Pure.pure ()) (Stateful.act (Action.asking asked finish)) := by
    refine of_inert (Nat.le_refl start) (.pure ()) (.asking asked finish allowed)
      fun value result beside => ?_
    rcases (goes_asking_iff asked finish _ _ _ _).mp beside.goes with ⟨reply, listed, rfl, _⟩
    have undisturbed := beside.undisturbed
    rw [listed] at undisturbed
    have replied : reply = asked.granted :=
      Eq.trans undisturbed.1 (Outside.reply_of_mayAsk beside.before allowed)
    rw [replied]
    exact ⟨(), granted, rfl⟩
  have both := bind (fun _ => rfl) first fun _ _ _ => rest
  rw [pure_bind] at both
  exact both

end RunContext.Refines

/-! ## Looking at resources -/

section

variable {run : RunContext} {invocation : Invocation} {outside : Outside}

/-- A look that ends well gave the resource that the service keeps. -/
theorem stored_of_poll {intervalMs : Nat} {id : ResourceId} {looked left : Nat}
    {earlier trace : List Exchange} {resource : Resource} (creations : List Creation)
    (yields : (pollResource intervalMs id none looked left).Yields trace (.ok resource))
    (agrees : Throughout (outside.Agrees run) earlier trace)
    (same : requested earlier = creations) :
    ∃ stored, outside.kept creations id = some stored ∧ resource.Alike stored := by
  induction left generalizing looked earlier trace with
  | zero =>
    rcases (Action.yields_throw_iff _ _ _).mp yields with ⟨_, impossible⟩
    cases impossible
  | succ left inductionHypothesis =>
    cases look_of_yields _ _ _ _ _ _ _ yields with
    | finished _ ended =>
      rw [← same]
      exact agrees.1 resource rfl ended
    | pending found unfinished unfailed time again =>
      refine inductionHypothesis again agrees.2.2.2 ?_
      rw [requested_concat rfl, requested_concat rfl, requested_concat rfl, same]

/-- An undisturbed look at a resource that is kept ends well at once. -/
theorem poll_of_stored {intervalMs : Nat} {id : ResourceId} {looked left : Nat}
    {before whole : List Exchange} {result : Except Failure Resource} {stored : Resource}
    (yields : (pollResource intervalMs id none looked (left + 1)).Yields whole result)
    (undisturbed : Throughout (outside.Undisturbed run) before whole)
    (kept : outside.kept (requested before) id = some stored) :
    ∃ resource, result = .ok resource ∧ resource.Alike stored := by
  have replied : outside.reply run before (.api (.get id none)) =
      .ok { stored with status := ⟨ResourceStatus.finishedCode, "", 1.0⟩ } := by
    simp only [Outside.reply, kept]
  have finished : ResourceStatus.isFinished ⟨ResourceStatus.finishedCode, "", 1.0⟩ = true := rfl
  cases look_of_yields _ _ _ _ _ _ _ yields with
  | refused failure =>
    have impossible := Eq.trans undisturbed.1 replied
    cases impossible
  | finished resource ended =>
    cases Eq.trans undisturbed.1 replied
    exact ⟨_, rfl, rfl, fun _ _ => rfl⟩
  | failed resource unfinished =>
    cases Eq.trans undisturbed.1 replied
    exact absurd (finished.symm.trans unfinished) (by decide)
  | pending resource unfinished =>
    cases Eq.trans undisturbed.1 replied
    exact absurd (finished.symm.trans unfinished) (by decide)

/-- A resource an attempt waits for is there for the undisturbed run, with the same
fields. -/
theorem RunContext.Refines.await {start stop : Nat} (ordered : start ≤ stop) (id : ResourceId) :
    run.Refines invocation outside start stop Resource.Alike
      (Stateful.act (run.policy.await id none)) (Stateful.act (run.policy.await id none)) := by
  have inert : run.Inert invocation (Stateful.act (run.policy.await id none)) :=
    .act (.poll _ id none 0 _)
  refine of_inert ordered inert inert fun value result beside => ?_
  have yields : (pollResource run.policy.intervalMs id none 0 run.policy.maxPolls).Yields
      beside.trace (.ok value) := ((goes_act_iff _ _ _ _ _).mp beside.goesLeft).1
  have yieldsWhole : (pollResource run.policy.intervalMs id none 0 run.policy.maxPolls).Yields
      beside.whole result := ((goes_act_iff _ _ _ _ _).mp beside.goes).1
  rcases stored_of_poll _ yields beside.agrees beside.journalHeld.requested with
    ⟨stored, kept, alike⟩
  rcases beside.within with inside | ⟨⟨other, rfl⟩, passed⟩
  · have level : beside.held = beside.listed := by
      rcases beside.inStep with ⟨_, behind⟩ | ⟨_, level⟩
      · exact inside.eq_of_length_le behind.length_le
      · exact level
    rw [level, ← beside.journal.requested] at kept
    cases polls : run.policy.maxPolls with
    | zero =>
      rw [polls] at yields
      rcases (Action.yields_throw_iff _ _ _).mp yields with ⟨_, impossible⟩
      cases impossible
    | succ left =>
      rw [polls] at yieldsWhole
      rcases poll_of_stored yieldsWhole beside.undisturbed kept with ⟨other, succeeded, same⟩
      exact ⟨other, succeeded, alike.trans same.symm⟩
  · have agrees := beside.undisturbed.mono fun _ _ undisturbed => undisturbed.agrees
    rcases stored_of_poll _ yieldsWhole agrees beside.journal.requested with
      ⟨known, keptBefore, same⟩
    rcases passed with ⟨later, together⟩
    have lasting := outside.lasting _ (later.map Entry.creation) id known keptBefore
    rw [← List.map_append, together, kept] at lasting
    cases lasting
    exact ⟨other, rfl, alike.trans same.symm⟩

end

/-! ## Stages -/

section

variable {run : RunContext} {invocation : Invocation} {outside : Outside} {α : Type}
  {related : α → α → Prop} {left right : Step α} {stage : Stage}

theorem Steady.set {position next : Progress} {state : StageState} (steady : Steady position)
    (passing : state ≠ .failed) (moved : next.cursor = position.cursor.set stage state) :
    Steady next := by
  constructor
  · rw [moved]
    exact steady.fresh
  · intro other
    rw [moved]
    by_cases here : other = stage
    · simpa only [Cursor.set, here, if_true] using passing
    · simpa only [Cursor.set, here, if_false] using steady.unfailed other

/-- Notes of an attempt between its steps. -/
theorem quiet_notes {trace : List Exchange} {entries : List Entry} {notes : List Exchange}
    (journal : run.Journal invocation trace entries)
    (noted : ∀ exchange ∈ notes, exchange.IsNote) :
    run.Journal invocation (trace ++ notes) entries :=
  journal.followed (.of_notes noted)

/-- A stage of an attempt keeps up when its body does. -/
theorem RunContext.KeepsUp.inStage {listed total : List Entry}
    {position entered reached last : Progress} {inside result : Except Failure α}
    (unfailed : position.cursor.state stage ≠ .failed)
    (opened : entered.cursor = position.cursor.set stage .inProgress)
    (met : entered.met = position.met)
    (body : run.KeepsUp invocation outside related left listed total entered reached inside)
    (leaves : ∀ value, inside = .ok value →
      result = (StageState.checkStep false (reached.cursor.state stage) .completed).map
        (fun _ => value) ∧
      (result = .ok value → last.cursor = reached.cursor.set stage .completed ∧
        last.met = reached.met))
    (succeeds : ∀ value, result = .ok value → ∃ value, inside = .ok value) :
    run.KeepsUp invocation outside related (inStage stage left) listed total position last result := by
  intro earlier held here trace outcome after journal agreed abreast goes agrees inStep within
  have unfailedHere : here.cursor.state stage ≠ .failed := by
    rw [abreast.state]
    exact unfailed
  rcases goes_inStage goes with ⟨failure, failed, rfl⟩ |
    ⟨entry, trace, exit, bodyOutcome, enteredHere, stopped, rfl, entering, going, leaving⟩
  · exact ⟨[], .of_notes (notes_enterStage failed), .failed (.inl rfl)⟩
  rcases goes_enterStage unfailedHere entering with ⟨_, _, impossible⟩ | ⟨_, _, openedHere⟩
  · cases impossible
  have notedEntry := notes_enterStage entering
  rcases (Throughout.append_iff _ _ _).mp agrees with ⟨agreesEntry, agreesRest⟩
  have agreedEntry := (Throughout.append_iff _ _ _).mpr ⟨agreed, agreesEntry⟩
  have agreesBody := ((Throughout.append_iff _ _ _).mp agreesRest).1
  have abreastInside : Abreast enteredHere entered := by
    constructor
    · rw [openedHere, opened, Cursor.set, Cursor.set, abreast.state]
    · rw [met_of_enterStage entering, met, abreast.met]
  have inStepEntered : InStep enteredHere.cursor.resuming held listed := by
    rw [openedHere]
    exact inStep
  rcases body _ _ _ _ _ _ (quiet_notes journal notedEntry) agreedEntry abreastInside going agreesBody
    inStepEntered (within.mono _ succeeds) with ⟨made, journalMade, follows⟩
  have resumes : enteredHere.cursor.resuming = here.cursor.resuming := by
    rw [openedHere]
    rfl
  rw [resumes] at follows
  have journalEntry : run.Journal invocation entry [] := .of_notes notedEntry
  cases follows with
  | failed inside =>
    rcases goes_leaveStage_error leaving with ⟨notedExit, failure, rfl⟩
    exact ⟨made, journalEntry.append (quiet_notes journalMade notedExit), .failed inside⟩
  | @done value other _ found alike abreastLeft inStepLast tookUp =>
    rcases goes_leaveStage_ok leaving with ⟨notedExit, left, completed⟩
    refine ⟨made, journalEntry.append (quiet_notes journalMade notedExit), ?_⟩
    rcases leaves other found with ⟨ended, completedLast⟩
    rw [abreastLeft.state] at left
    cases checked : StageState.checkStep false (reached.cursor.state stage) .completed with
    | error failure =>
      rw [checked] at left
      rw [left]
      refine .failed ?_
      rcases inStepLast with ⟨resuming, _⟩ | ⟨_, level⟩
      · exact .inl (tookUp resuming).2
      · rw [level]
        exact .inr List.prefix_rfl
    | ok done =>
      rw [checked] at left ended
      subst left
      have completedHere := completed rfl
      rcases completedLast ended with ⟨completedThere, metThere⟩
      refine .done ended alike ⟨?_, ?_⟩ ?_ ?_
      · rw [completedHere, completedThere, Cursor.set, Cursor.set, abreastLeft.state]
      · rw [met_of_leaveStage leaving, metThere, abreastLeft.met]
      · rw [completedHere]
        exact inStepLast
      · rw [completedHere]
        exact tookUp

theorem RunContext.Refines.inStage {start stop : Nat}
    (body : run.Refines invocation outside start stop related left right) :
    run.Refines invocation outside start stop related (inStage stage left) (inStage stage right) := by
  intro before listed position whole result last journal turns steady goes undisturbed
  have unfailed := steady.unfailed stage
  rcases goes_inStage goes with ⟨failure, failed, rfl⟩ |
    ⟨entry, inside, exit, bodyResult, entered, reached, rfl, entering, going, leaving⟩
  · rcases goes_enterStage unfailed failed with ⟨completed, _⟩ | ⟨_, impossible, _⟩
    · refine ⟨[], .of_notes (notes_enterStage failed), (fun _ impossible => nomatch impossible), ?_⟩
      · intro earlier held here trace outcome after _ _ abreast goesLeft _ _ _
        have unfailedHere : here.cursor.state stage ≠ .failed := by
          rw [abreast.state]
          exact unfailed
        rcases goes_inStage goesLeft with ⟨refusal, refused, rfl⟩ |
          ⟨_, _, _, _, _, _, _, enteringLeft, _, _⟩
        · exact ⟨[], .of_notes (notes_enterStage refused), .failed (.inl rfl)⟩
        · rcases goes_enterStage unfailedHere enteringLeft with ⟨_, _, impossible⟩ | ⟨opened, _, _⟩
          · cases impossible
          · rw [abreast.state] at opened
            exact absurd completed opened
    · cases impossible
  · rcases goes_enterStage unfailed entering with ⟨_, _, impossible⟩ | ⟨_, _, opened⟩
    · cases impossible
    have notedEntry := notes_enterStage entering
    have journalEntry : run.Journal invocation entry [] := .of_notes notedEntry
    rcases (Throughout.append_iff _ _ _).mp undisturbed with ⟨_, undisturbedRest⟩
    have undisturbedBody := ((Throughout.append_iff _ _ _).mp undisturbedRest).1
    rcases body _ _ _ _ _ _ (quiet_notes journal notedEntry) turns (steady.set (by decide) opened)
      going undisturbedBody with ⟨done, journalDone, reaching, keepsUp⟩
    cases bodyResult with
    | error failure =>
      rcases goes_leaveStage_error leaving with ⟨notedExit, last, rfl⟩
      refine ⟨done, journalEntry.append (quiet_notes journalDone notedExit),
        (fun _ impossible => nomatch impossible), ?_⟩
      exact keepsUp.inStage unfailed opened (met_of_enterStage entering)
        (fun _ impossible => nomatch impossible) fun _ impossible => nomatch impossible
    | ok value =>
      rcases goes_leaveStage_ok leaving with ⟨notedExit, left, completed⟩
      rcases reaching value rfl with ⟨steadyReached, turnsDone⟩
      refine ⟨done, journalEntry.append (quiet_notes journalDone notedExit), ?_, ?_⟩
      · intro other succeeded
        have completes : result = .ok value := by
          cases checked : StageState.checkStep false (reached.cursor.state stage) .completed with
          | error failure =>
            rw [left, checked] at succeeded
            cases succeeded
          | ok done =>
            rw [left, checked]
            rfl
        exact ⟨steadyReached.set (by decide) (completed completes), turnsDone⟩
      · refine keepsUp.inStage unfailed opened (met_of_enterStage entering) ?_
          fun _ _ => ⟨value, rfl⟩
        intro other same
        cases same
        refine ⟨left, fun succeeded => ⟨completed succeeded, ?_⟩⟩
        subst succeeded
        exact met_of_leaveStage leaving

end

end ModelRuns
