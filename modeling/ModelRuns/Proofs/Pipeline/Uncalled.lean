import ModelRuns.Proofs.Pipeline.Asking

namespace ModelRuns

open Stateful

/-!
# Moments without a call

What a run asks of the machine that it is on is no call of the service: the clock, files,
lines on the terminal and events to record.

A check that fails does so at a moment of the run, and what was called before is what counts
there.  `UncalledSince` names an exchange behind which there was no call, and
`Stateful.Leads` names the step that was taken last.
-/

/-- A request of the service. -/
def Request.IsCall : Request → Prop
  | .api _ => True
  | _ => False

instance (asked : Request) : Decidable asked.IsCall := by
  unfold Request.IsCall
  split <;> infer_instance

/-! ## Steps that call nothing -/

/-- A step that calls nothing. -/
def Stateful.Uncalled {α : Type} (step : Step α) : Prop :=
  Stateful.Asks (fun asked => ¬asked.IsCall) step

namespace Stateful.Uncalled

variable {run : RunContext}

theorem say (message : String) : Uncalled (run.say message) := by
  refine .act (.bind (.asking .now .ok id) fun time => ?_)
  refine .bind (.asking (.file (.append _ _)) (fun answer => answer) id)
    fun _ => .ite ?_ (.pure ())
  exact .asking (.printLine _) (fun answer => answer) id

theorem readText (path : Path) : (Action.readText path).Asks fun asked => ¬asked.IsCall :=
  .asking (.file (.read _)) (fun answer => answer) id

theorem readIds (path : Path) (kind : ResourceKind) : Uncalled (run.readIds path kind) :=
  .act (.bind (readText _) fun _ => .ofExcept _)

theorem readCluster (path : Option Path) : Uncalled (run.readCluster path) := by
  cases path with
  | none => exact .pure []
  | some path =>
    refine .act (.bind (readText _) fun text => ?_)
    cases Json.read text with
    | ok body => exact .bind (.ofExcept _) fun _ => .pure _
    | error error => exact .throw _

theorem namedCluster (text : Option String) : Uncalled (RunContext.namedCluster text) := by
  cases text with
  | none => exact .pure []
  | some text => exact .bind (.ofExcept _) fun _ => .pure _

theorem listedClusters (path : Option Path) : Uncalled (run.listedClusters path) := by
  cases path with
  | none => exact .pure []
  | some path => exact .bind (readIds path .cluster) fun _ => .pure _

end Stateful.Uncalled

/-! ## Moments -/

/-- The exchange that records that a stage is entered. -/
def Stage.entry (stage : Stage) : Exchange :=
  Move.recording ⟨stage, .notStarted, .inProgress⟩

/-- The stage was just entered. -/
def Stage.Entered (stage : Stage) (earlier : List Exchange) : Prop :=
  ∃ front, earlier = front ++ [stage.entry]

/-- The exchange was made, and behind it there was no call. -/
def UncalledSince (marker : Exchange) (earlier : List Exchange) : Prop :=
  ∃ front back, earlier = front ++ marker :: back ∧ ∀ exchange ∈ back, ¬exchange.asked.IsCall

/-- The step leads from one moment of a run to a later one, where it has the value. -/
def Stateful.Leads {α : Type} (step : Step α) (earlier later : List Exchange) (value : α) : Prop :=
  ∃ before trace after, later = earlier ++ trace ∧ Goes step before trace (.ok value) after

namespace UncalledSince

variable {marker : Exchange} {earlier : List Exchange}

theorem last (front : List Exchange) (marker : Exchange) :
    UncalledSince marker (front ++ [marker]) :=
  ⟨front, [], rfl, List.forall_mem_nil _⟩

theorem of_getLast? (made : earlier.getLast? = some marker) : UncalledSince marker earlier := by
  rcases List.getLast?_eq_some_iff.mp made with ⟨front, rfl⟩
  exact last front marker

theorem append {trace : List Exchange} (since : UncalledSince marker earlier)
    (uncalled : ∀ exchange ∈ trace, ¬exchange.asked.IsCall) :
    UncalledSince marker (earlier ++ trace) := by
  rcases since with ⟨front, back, rfl, uncalledBefore⟩
  refine ⟨front, back ++ trace, ?_, List.forall_mem_append.mpr ⟨uncalledBefore, uncalled⟩⟩
  rw [List.append_assoc, List.cons_append]

/-- A step that calls nothing leaves it so. -/
theorem led {α : Type} {step : Step α} {later : List Exchange} {value : α}
    (since : UncalledSince marker earlier) (uncalled : Uncalled step)
    (leads : step.Leads earlier later value) : UncalledSince marker later := by
  rcases leads with ⟨before, trace, after, rfl, goes⟩
  exact since.append (uncalled before trace _ after goes)

end UncalledSince

theorem Stage.Entered.uncalled {stage : Stage} {earlier : List Exchange}
    (entered : stage.Entered earlier) : UncalledSince stage.entry earlier := by
  rcases entered with ⟨front, rfl⟩
  exact .last front stage.entry

end ModelRuns
