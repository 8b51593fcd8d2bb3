import ModelRuns.Proofs.Pipeline.Requests
import ModelRuns.Proofs.Resource.Alike
import ModelRuns.Proofs.Trace.Texts

namespace ModelRuns

open Stateful

/-!
# The structure of the pipelines

The steps of a run are built from a few parts: single requests, readings of
inputs, looks at resources, the two ways to obtain resources, and stages around
them.  `RunContext.Parallel` is the derivation that two steps are built alike from
such parts, where the values handed on may differ as far as a run cannot tell
them apart.  Both pipelines are parallel to themselves, and a property of runs is
shown by one case for each part.

A derivation also keeps the order of checkpoints: between `start` and `stop` only
checkpoints at these places are used, so that none is used twice.
-/

namespace RunContext

/-- Two steps are built alike, with checkpoints from `start` up to `stop`, and
their values are related. -/
inductive Parallel (run : RunContext) (invocation : Invocation) :
    {α : Type} → (start stop : Nat) → (α → α → Prop) → Step α → Step α → Prop
  | pure {α : Type} {start stop : Nat} {related : α → α → Prop} {left right : α}
      (ordered : start ≤ stop) (alike : related left right) :
      Parallel run invocation start stop related (pure left) (pure right)
  | fail {α : Type} {start stop : Nat} {related : α → α → Prop} (ordered : start ≤ stop)
      (left right : Failure) :
      Parallel run invocation start stop related (throw left) (throw right)
  /-- The second steps need to be built alike only behind related values. -/
  | bind {α β : Type} {start middle stop : Nat} {between : β → β → Prop}
      {related : α → α → Prop} {left right : Step β} {nextLeft nextRight : β → Step α}
      (reflexive : ∀ value, between value value)
      (first : Parallel run invocation start middle between left right)
      (second : ∀ value other, between value other →
        Parallel run invocation middle stop related (nextLeft value) (nextRight other)) :
      Parallel run invocation start stop related (left >>= nextLeft) (right >>= nextRight)
  /-- One request each.  When the right one is granted, it ends with a value
  related to any the left one ends with. -/
  | ask {α : Type} {start stop : Nat} {related : α → α → Prop} (ordered : start ≤ stop)
      (asked other : Request) (finish : asked.Answer → Except Failure α)
      (conclude : other.Answer → Except Failure α) (allowed : run.MayAsk invocation asked)
      (allowedOther : run.MayAsk invocation other)
      (granted : ∀ answer value, finish answer = .ok value →
        ∃ result, conclude other.granted = .ok result ∧ related value result) :
      Parallel run invocation start stop related
        (Stateful.act (Action.asking asked finish)) (Stateful.act (Action.asking other conclude))
  /-- One more request on the left. -/
  | askLeft {α : Type} {start stop : Nat} {related : α → α → Prop} {left right : Step α}
      (asked : Request) (finish : asked.Answer → Except Failure Unit)
      (allowed : run.MayAsk invocation asked)
      (rest : Parallel run invocation start stop related left right) :
      Parallel run invocation start stop related
        (Stateful.act (Action.asking asked finish) >>= fun _ => left) right
  /-- One more request on the right, which succeeds when it is granted. -/
  | askRight {α : Type} {start stop : Nat} {related : α → α → Prop} {left right : Step α}
      (asked : Request) (finish : asked.Answer → Except Failure Unit)
      (allowed : run.MayAsk invocation asked) (granted : finish asked.granted = .ok ())
      (rest : Parallel run invocation start stop related left right) :
      Parallel run invocation start stop related
        left (Stateful.act (Action.asking asked finish) >>= fun _ => right)
  | read {start stop : Nat} (ordered : start ≤ stop) (path : Path)
      (input : run.Reads invocation path) :
      Parallel run invocation start stop Eq
        (Stateful.act (Action.readText path)) (Stateful.act (Action.readText path))
  | await {start stop : Nat} (ordered : start ≤ stop) (id : ResourceId) :
      Parallel run invocation start stop Resource.Alike
        (Stateful.act (run.policy.await id none)) (Stateful.act (run.policy.await id none))
  | meet {start stop : Nat} (ordered : start ≤ stop) (stage : Stage) (id : ResourceId) :
      Parallel run invocation start stop Eq (meet stage id) (meet stage id)
  | progress {start stop : Nat} (ordered : start ≤ stop) :
      Parallel run invocation start stop (fun _ _ => True) get get
  | inStage {α : Type} {start stop : Nat} {related : α → α → Prop} {left right : Step α}
      (stage : Stage) (body : Parallel run invocation start stop related left right) :
      Parallel run invocation start stop related (inStage stage left) (inStage stage right)
  | obtainOne {start stop : Nat} (stage : Stage) (checkpoint : Checkpoint) (creation : Creation)
      (sent : run.Sends invocation checkpoint creation) (after : start ≤ checkpoint.turn)
      (before : checkpoint.turn < stop) :
      Parallel run invocation start stop Resource.Alike
        (run.obtainOne stage checkpoint creation) (run.obtainOne stage checkpoint creation)
  | obtainMany {start stop : Nat} (stage : Stage) (checkpoint : Checkpoint)
      (creations : List Creation)
      (sent : ∀ creation ∈ creations, run.Sends invocation checkpoint creation)
      (after : start ≤ checkpoint.turn) (before : checkpoint.turn < stop) :
      Parallel run invocation start stop Resource.AllAlike
        (run.obtainMany stage checkpoint creations) (run.obtainMany stage checkpoint creations)

namespace Parallel

variable {run : RunContext} {invocation : Invocation} {start middle stop : Nat}

/-! ## Small parts -/

/-- Steps in a row whose first values are equal. -/
theorem andThen {α β : Type} {related : α → α → Prop} {left right : Step β}
    {nextLeft nextRight : β → Step α}
    (first : Parallel run invocation start middle Eq left right)
    (second : ∀ value, Parallel run invocation middle stop related (nextLeft value)
      (nextRight value)) :
    Parallel run invocation start stop related (left >>= nextLeft) (right >>= nextRight) :=
  .bind (fun _ => rfl) first fun value _ same => same ▸ second value

/-- A request that is answered by nothing but success or failure. -/
theorem askUnit (ordered : start ≤ stop) (asked other : Request)
    (finish : asked.Answer → Except Failure Unit) (conclude : other.Answer → Except Failure Unit)
    (allowed : run.MayAsk invocation asked) (allowedOther : run.MayAsk invocation other)
    (granted : conclude other.granted = .ok ()) :
    Parallel run invocation start stop Eq
      (Stateful.act (Action.asking asked finish)) (Stateful.act (Action.asking other conclude)) :=
  .ask ordered asked other finish conclude allowed allowedOther
    fun _ _ _ => ⟨(), granted, rfl⟩

/-- A request whose answer a run hands on without looking at it. -/
theorem askAny {α : Type} (ordered : start ≤ stop) (asked other : Request)
    (finish : asked.Answer → Except Failure α) (conclude : other.Answer → Except Failure α)
    (allowed : run.MayAsk invocation asked) (allowedOther : run.MayAsk invocation other)
    (result : α) (granted : conclude other.granted = .ok result) :
    Parallel run invocation start stop (fun _ _ => True)
      (Stateful.act (Action.asking asked finish)) (Stateful.act (Action.asking other conclude)) :=
  .ask ordered asked other finish conclude allowed allowedOther
    fun _ _ _ => ⟨result, granted, trivial⟩

/-- Recording an event. -/
theorem note (ordered : start ≤ stop) (level type : String) (payload : Fields) :
    Parallel run invocation start stop Eq
      (Stateful.act (Action.note level type payload))
      (Stateful.act (Action.note level type payload)) :=
  .askUnit ordered (.note ⟨level, type, .ofFields payload⟩)
    (.note ⟨level, type, .ofFields payload⟩) .ok .ok trivial trivial rfl

theorem ofExcept {α : Type} (ordered : start ≤ stop) (result : Except Failure α) :
    Parallel run invocation start stop Eq
      (Stateful.act (Action.ofExcept result)) (Stateful.act (Action.ofExcept result)) := by
  cases result with
  | ok value => exact .pure ordered rfl
  | error failure => exact .fail ordered failure failure

/-- Logging a line, whatever it says. -/
theorem raw (ordered : start ≤ stop) (text other : String) :
    Parallel run invocation start stop Eq (Stateful.act (run.log.raw text)) (Stateful.act (run.log.raw other)) :=
  .askUnit ordered (.file (.append run.log.path text)) (.file (.append run.log.path other))
    (fun answer => answer) (fun answer => answer) rfl rfl rfl

/-- Logging a step, whatever it says. -/
theorem say (ordered : start ≤ stop) (message other : String) :
    Parallel run invocation start stop Eq (run.say message) (run.say other) := by
  unfold RunContext.say SessionLog.step
  rw [act_bind, act_bind]
  refine .bind (fun _ => trivial)
    (askAny (Nat.le_refl start) .now .now .ok .ok trivial trivial _ rfl) fun time later _ => ?_
  simp only [act_bind]
  refine .andThen (raw (Nat.le_refl start) _ _) fun _ => ?_
  cases run.log.echo with
  | false => exact .pure ordered rfl
  | true =>
    exact .askUnit ordered (.printLine _) (.printLine _) (fun answer => answer)
      (fun answer => answer) trivial trivial rfl

/-! ## Resources that are there -/

/-- Note that a stage met a resource, and hand it on. -/
theorem meetAlike (ordered : start ≤ stop) (stage : Stage) (left right : Resource)
    (alike : left.Alike right) :
    Parallel run invocation start stop Resource.Alike
      (RunContext.meet stage left.id >>= fun _ => Pure.pure left)
      (RunContext.meet stage right.id >>= fun _ => Pure.pure right) := by
  rw [alike.id]
  exact .andThen (.meet (Nat.le_refl start) stage right.id) fun _ => .pure ordered alike

theorem resolve (ordered : start ≤ stop) (reference : ResourceReference) :
    Parallel run invocation start stop Resource.Alike
      (Stateful.act (run.policy.resolve reference none))
      (Stateful.act (run.policy.resolve reference none)) := by
  cases reference with
  | unresolved id => exact .await ordered id
  | resolved resource =>
    unfold WaitPolicy.resolve
    dsimp only
    split
    next => exact .pure ordered (.refl resource)
    next => exact .await ordered resource.id

theorem fetch (ordered : start ≤ stop) (stage : Stage) (reference : ResourceReference) :
    Parallel run invocation start stop Resource.Alike
      (run.fetch stage reference) (run.fetch stage reference) := by
  have looked : Parallel run invocation start stop Resource.Alike
      (Stateful.act (run.policy.resolve reference none) >>= fun resource =>
        RunContext.meet stage resource.id >>= fun _ => Pure.pure resource)
      (Stateful.act (run.policy.resolve reference none) >>= fun resource =>
        RunContext.meet stage resource.id >>= fun _ => Pure.pure resource) :=
    .bind .refl (resolve (Nat.le_refl start) reference) (meetAlike ordered stage)
  cases reference with
  | unresolved id => exact .andThen (say (Nat.le_refl start) _ _) fun _ => looked
  | resolved resource => exact looked

theorem fetchAll (ordered : start ≤ stop) (stage : Stage) (references : List ResourceReference) :
    Parallel run invocation start stop Resource.AllAlike
      (run.fetchAll stage references) (run.fetchAll stage references) := by
  induction references with
  | nil => exact .pure ordered .nil
  | cons reference rest inductionHypothesis =>
    refine .bind .refl (fetch (Nat.le_refl start) stage reference) fun first other alike => ?_
    refine .bind .refl inductionHypothesis fun resources others allAlike => ?_
    exact .pure (Nat.le_refl stop) (.cons alike allAlike)

/-- Publishing resources that are alike. -/
theorem update (ordered : start ≤ stop) (left right : Resource) (alike : left.Alike right)
    (changes : Json) (published : Publishes invocation changes) :
    Parallel run invocation start stop Eq
      (RunContext.update left changes) (RunContext.update right changes) := by
  unfold RunContext.update
  rw [alike.id]
  refine .andThen (note (Nat.le_refl start) _ _ _) fun _ => ?_
  refine .bind (fun _ => trivial)
    (askAny (Nat.le_refl start) (.api (.update right.id changes)) (.api (.update right.id changes))
      (fun answer => answer) (fun answer => answer) published published _ rfl) fun _ _ _ => ?_
  exact .pure ordered rfl

/-- Publishing a list of resources one by one. -/
theorem updateAll (ordered : start ≤ stop) (left right : List Resource)
    (alike : Resource.AllAlike left right) (changes : Json)
    (published : Publishes invocation changes) :
    Parallel run invocation start stop Eq
      (left.forM fun resource => RunContext.update resource changes)
      (right.forM fun resource => RunContext.update resource changes) := by
  induction alike with
  | nil => exact .pure ordered rfl
  | cons first _ inductionHypothesis =>
    exact .andThen (update (Nat.le_refl start) _ _ first changes published) fun _ =>
      inductionHypothesis

theorem publish (ordered : start ≤ stop) (changes : Option Json) (left right : List Resource)
    (alike : Resource.AllAlike left right) (message : String)
    (published : ∀ change, changes = some change → Publishes invocation change) :
    Parallel run invocation start stop Eq
      (run.publish changes left message) (run.publish changes right message) := by
  cases changes with
  | none => exact .pure ordered rfl
  | some change =>
    exact .andThen (updateAll (Nat.le_refl start) left right alike change (published change rfl))
      fun _ => say ordered _ _

/-! ## Input and output files -/

theorem readText (ordered : start ≤ stop) (path : Path) (input : path ∈ invocation.inputFiles) :
    Parallel run invocation start stop Eq
      (Stateful.act (Action.readText (run.resolvePath path)))
      (Stateful.act (Action.readText (run.resolvePath path))) :=
  .read ordered (run.resolvePath path) ⟨path, input, rfl⟩

theorem readIds (ordered : start ≤ stop) (path : Path) (input : path ∈ invocation.inputFiles)
    (kind : ResourceKind) :
    Parallel run invocation start stop Eq (run.readIds path kind) (run.readIds path kind) := by
  unfold RunContext.readIds
  rw [act_bind]
  exact .andThen (readText (Nat.le_refl start) path input) fun text => ofExcept ordered _

theorem readJson (ordered : start ≤ stop) (path : Path) (input : path ∈ invocation.inputFiles) :
    Parallel run invocation start stop Eq (run.readJson path) (run.readJson path) := by
  unfold RunContext.readJson
  simp only [act_bind]
  refine .andThen (readText (Nat.le_refl start) path input) fun text => ?_
  split
  next => exact .pure ordered rfl
  next => exact .fail ordered _ _

theorem saveTo (ordered : start ≤ stop) (id : ResourceId) (path : Path)
    (written : run.Writes invocation path) :
    Parallel run invocation start stop Eq (run.saveTo id path) (run.saveTo id path) := by
  unfold RunContext.saveTo
  refine .bind (fun _ => trivial)
    (askAny (Nat.le_refl start) (.api (.download id)) (.api (.download id))
      (fun answer => answer) (fun answer => answer) trivial trivial _ rfl) fun values others _ => ?_
  refine .andThen (askUnit (Nat.le_refl start) (.file (.write path values))
    (.file (.write path others)) (fun answer => answer) (fun answer => answer) written written rfl)
    fun _ => ?_
  exact say ordered _ _

theorem saveNumbered (ordered : start ≤ stop) (path : Path)
    (written : ∀ index, run.Writes invocation (numberedOutput path index)) (index : Nat)
    (left right : List Resource) (alike : Resource.AllAlike left right) :
    Parallel run invocation start stop Eq
      (run.saveNumbered path index left) (run.saveNumbered path index right) := by
  induction alike generalizing index with
  | nil => exact .pure ordered rfl
  | cons first _ inductionHypothesis =>
    unfold RunContext.saveNumbered
    rw [first.id]
    exact .andThen (saveTo (Nat.le_refl start) _ _ (written index)) fun _ =>
      inductionHypothesis (index + 1)

theorem saySaved (ordered : start ≤ stop) (what : String) (files : List Path) :
    Parallel run invocation start stop Eq (run.saySaved what files) (run.saySaved what files) := by
  unfold RunContext.saySaved
  induction files with
  | nil => exact .pure ordered rfl
  | cons file rest inductionHypothesis =>
    exact .andThen (say (Nat.le_refl start) _ _) fun _ => inductionHypothesis

theorem writeResult (ordered : start ≤ stop) (base : Path) (result other : Json)
    (written : ∀ suffix ∈ [".json", ".txt"], run.Writes invocation (base.withSuffix suffix)) :
    Parallel run invocation start stop Eq
      (Stateful.act (ModelRuns.writeResult base result))
      (Stateful.act (ModelRuns.writeResult base other)) := by
  have wrote : ∀ suffix ∈ [".json", ".txt"], ∀ text another,
      Parallel run invocation start start Eq
        (Stateful.act (Action.writeFile (base.withSuffix suffix) text))
        (Stateful.act (Action.writeFile (base.withSuffix suffix) another)) :=
    fun suffix member text another => .askUnit (Nat.le_refl start)
      (.file (.write _ text)) (.file (.write _ another)) (fun answer => answer)
      (fun answer => answer) (written suffix member) (written suffix member) rfl
  unfold ModelRuns.writeResult
  simp only [act_bind]
  refine .andThen (wrote ".json" (by simp) _ _) fun _ => ?_
  refine .andThen (wrote ".txt" (by simp) _ _) fun _ => ?_
  exact .pure ordered rfl

end Parallel

end RunContext

end ModelRuns
