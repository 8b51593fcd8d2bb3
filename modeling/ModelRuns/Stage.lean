import ModelRuns.Program.Action

namespace ModelRuns

/-!
# Stages of a run

A run passes through six stages in a fixed order.  A cursor keeps the state of
each, whether the run still resumes an earlier one, and why it failed.

Resuming ends for good when a stage finds nothing to take up: nothing later can
have been created by the interrupted attempt.  A failed stage may be entered
again only while resuming.
-/

/-- A stage of a run. -/
inductive Stage
  | source
  | dataset
  | model
  | testData
  | action
  | report
deriving DecidableEq, Repr

namespace Stage

/-- The stages in their order. -/
def all : List Stage := [.source, .dataset, .model, .testData, .action, .report]

/-- The name of a stage. -/
def text : Stage → String
  | .source => "source"
  | .dataset => "dataset"
  | .model => "model"
  | .testData => "test_data"
  | .action => "action"
  | .report => "report"

def ofText? (name : String) : Option Stage := all.find? (·.text == name)

end Stage

inductive StageState
  | notStarted
  | inProgress
  | completed
  | failed
deriving DecidableEq, Repr

namespace StageState

/-- Every state. -/
def all : List StageState := [.notStarted, .inProgress, .completed, .failed]

/-- The name of a state in events. -/
def text : StageState → String
  | .notStarted => "not_started"
  | .inProgress => "in_progress"
  | .completed => "completed"
  | .failed => "failed"

def ofText? (name : String) : Option StageState := all.find? (·.text == name)

/-- The name of a state in messages. -/
def title : StageState → String
  | .notStarted => "NotStarted"
  | .inProgress => "InProgress"
  | .completed => "Completed"
  | .failed => "Failed"

/-- Whether a stage may pass from one state to another. -/
def allows (resuming : Bool) : StageState → StageState → Bool
  | .notStarted, next => next == .inProgress
  | .inProgress, next => next == .completed || next == .failed
  | .failed, next => resuming && next == .inProgress
  | .completed, _ => false

/-- Refuse a step that is not allowed. -/
def checkStep (resuming : Bool) (current next : StageState) : Except Failure Unit :=
  if allows resuming current next then .ok ()
  else .error (.invalidConfig
    ("illegal stage transition: " ++ current.title ++ " -> " ++ next.title))

end StageState

/-- The progress of a run through its stages. -/
structure Cursor where
  state : Stage → StageState
  resuming : Bool
  failureReason : Option String

namespace Cursor

/-- Before the first stage. -/
def start (resuming : Bool) : Cursor := ⟨fun _ => .notStarted, resuming, none⟩

def set (cursor : Cursor) (stage : Stage) (next : StageState) : Cursor :=
  { cursor with state := fun other => if other = stage then next else cursor.state other }

end Cursor

/-! ## Steps that keep a cursor

A step keeps its part of the state also when it fails, because the state after a
failure is reported. -/

/-- A program that may fail and keeps a state in either case. -/
abbrev Stateful (σ : Type) := ExceptT Failure (StateT σ Program)

/-- A state that holds a cursor. -/
class HasCursor (σ : Type) where
  cursor : σ → Cursor
  withCursor : σ → Cursor → σ

instance : HasCursor Cursor := ⟨id, fun _ cursor => cursor⟩

namespace Stateful

variable {σ α : Type}

/-- An action that leaves the state alone. -/
def act (action : Action α) : Stateful σ α :=
  ExceptT.mk (StateT.lift action.run)

/-- Turn a failure into a value. -/
def attempt (step : Stateful σ α) : Stateful σ (Except Failure α) :=
  ExceptT.lift step.run

variable [HasCursor σ]

def cursor : Stateful σ Cursor := do return HasCursor.cursor (← get)

def changeCursor (change : Cursor → Cursor) : Stateful σ Unit :=
  modify fun state => HasCursor.withCursor state (change (HasCursor.cursor state))

/-- Resuming ends here: there is nothing to take up. -/
def checkpointMissing : Stateful σ Unit := do
  if (← cursor).resuming then act (Action.note "info" "resume.ended" [])
  changeCursor fun cursor => { cursor with resuming := false }

/-- Bring a stage into another state, if that is allowed. -/
def transition (stage : Stage) (next : StageState) : Stateful σ Unit := do
  let cursor ← cursor
  let current := cursor.state stage
  act (Action.ofExcept (StageState.checkStep cursor.resuming current next))
  act (Action.note debugLevel "stage.transition"
    [("stage", .text stage.text), ("from", .text current.text), ("to", .text next.text)])
  changeCursor (·.set stage next)

/-- Run the body of a stage.  The stage is entered before it, and completed or
failed after it; a failure is kept as the reason the run failed. -/
def inStage (stage : Stage) (body : Stateful σ α) : Stateful σ α := do
  match (← cursor).state stage with
  | .completed =>
    throw (.invalidConfig ("stage " ++ stage.text ++ " already completed"))
  | .notStarted => transition stage .inProgress
  | .failed => transition stage .inProgress
  | .inProgress => pure ()
  match ← attempt body with
  | .ok value =>
    transition stage .completed
    return value
  | .error failure =>
    changeCursor fun cursor =>
      { cursor with failureReason := some (stage.text ++ ": " ++ failure.message) }
    transition stage .failed
    throw failure

end Stateful

end ModelRuns
