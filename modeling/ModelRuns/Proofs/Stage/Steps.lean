import ModelRuns.Proofs.Trace.Runs

namespace ModelRuns

open Stateful

/-!
# How a cursor is moved

The steps that look at a cursor or change it are the same for every state that holds one.
Each has one lemma here that says which exchanges it makes and what becomes of the state.

A stage runs in three parts: it is entered, its body goes, and it is left with the outcome
of the body.  What a body does to the cursor is not restricted here.
-/

/-! ## Moves -/

/-- A stage passes from one state to another. -/
structure Move where
  stage : Stage
  current : StageState
  next : StageState
deriving DecidableEq, Repr

/-- The type of the events that record moves. -/
def moveType : String := "stage.transition"

/-- The event that records a move. -/
def Move.event (move : Move) : RunEvent :=
  ⟨debugLevel, moveType, .ofFields [("stage", .text move.stage.text),
    ("from", .text move.current.text), ("to", .text move.next.text)]⟩

/-- The exchange that records a move. -/
def Move.recording (move : Move) : Exchange := ⟨.note move.event, ()⟩

/-- The state in which the outcome of its body leaves a stage. -/
def StageState.behind {α : Type} : Except Failure α → StageState
  | .ok _ => .completed
  | .error _ => .failed

/-! ## Setting a state -/

theorem Cursor.state_set_self (cursor : Cursor) (stage : Stage) (state : StageState) :
    (cursor.set stage state).state stage = state :=
  if_pos rfl

theorem Cursor.state_set_of_ne (cursor : Cursor) {stage other : Stage} (state : StageState)
    (different : other ≠ stage) : (cursor.set stage state).state other = cursor.state other :=
  if_neg different

/-- Setting a stage to the state it is in changes nothing. -/
theorem Cursor.set_of_state (cursor : Cursor) (stage : Stage) (state : StageState)
    (already : cursor.state stage = state) : cursor.set stage state = cursor := by
  rcases cursor with ⟨states, resuming, reason⟩
  have same : (fun other => if other = stage then state else states other) = states := by
    funext other
    by_cases here : other = stage
    · rw [if_pos here, here]
      exact already.symm
    · rw [if_neg here]
  rw [Cursor.set, same]

/-! ## Looking at a cursor and moving it -/

section

variable {σ α : Type} [HasCursor σ] {before after : σ} {trace : List Exchange}

theorem goes_look_iff {outcome : Except Failure Cursor} :
    Goes (Stateful.cursor : Stateful σ Cursor) before trace outcome after ↔
      trace = [] ∧ outcome = .ok (HasCursor.cursor before) ∧ after = before := by
  unfold Stateful.cursor
  rw [goes_map_iff get HasCursor.cursor]
  constructor
  · rintro ⟨first, rfl, goes⟩
    rcases (goes_get_iff _ _ _ _).mp goes with ⟨rfl, rfl, rfl⟩
    exact ⟨rfl, rfl, rfl⟩
  · rintro ⟨rfl, rfl, rfl⟩
    exact ⟨.ok after, rfl, (goes_get_iff _ _ _ _).mpr ⟨rfl, rfl, rfl⟩⟩

/-- A step that looks at the cursor first. -/
theorem goes_look_bind_iff {next : Cursor → Stateful σ α} {outcome : Except Failure α} :
    Goes (Stateful.cursor >>= next) before trace outcome after ↔
      Goes (next (HasCursor.cursor before)) before trace outcome after := by
  rw [goes_bind_iff]
  constructor
  · rintro (⟨failure, goes, rfl⟩ | ⟨front, back, value, middle, rfl, goes, rest⟩)
    · rcases goes_look_iff.mp goes with ⟨_, impossible, _⟩
      cases impossible
    · rcases goes_look_iff.mp goes with ⟨rfl, found, rfl⟩
      cases found
      exact rest
  · intro goes
    exact .inr ⟨[], trace, HasCursor.cursor before, before, rfl,
      goes_look_iff.mpr ⟨rfl, rfl, rfl⟩, goes⟩

/-- A step that changes the cursor first. -/
theorem goes_change_bind_iff {change : Cursor → Cursor} {next : Unit → Stateful σ α}
    {outcome : Except Failure α} :
    Goes (changeCursor change >>= next) before trace outcome after ↔
      Goes (next ()) (HasCursor.withCursor before (change (HasCursor.cursor before)))
        trace outcome after := by
  rw [goes_bind_iff]
  constructor
  · rintro (⟨failure, goes, rfl⟩ | ⟨front, back, value, middle, rfl, goes, rest⟩)
    · rcases (goes_modify_iff _ _ _ _ _).mp goes with ⟨_, impossible, _⟩
      cases impossible
    · rcases (goes_modify_iff _ _ _ _ _).mp goes with ⟨rfl, _, rfl⟩
      exact rest
  · intro goes
    exact .inr ⟨[], trace, (), _, rfl, (goes_modify_iff _ _ _ _ _).mpr ⟨rfl, rfl, rfl⟩, goes⟩

/-- A change of the cursor behind an event. -/
theorem goes_noted_change_iff {event : RunEvent} {change : Cursor → Cursor}
    {outcome : Except Failure Unit} :
    Goes (act (Action.asking (.note event) .ok) >>= fun _ => changeCursor change)
        before trace outcome after ↔
      trace = [⟨.note event, ()⟩] ∧ outcome = .ok () ∧
        after = HasCursor.withCursor before (change (HasCursor.cursor before)) := by
  rw [goes_bind_iff]
  constructor
  · rintro (⟨failure, noted, rfl⟩ | ⟨front, back, _, middle, rfl, noted, changed⟩)
    · rcases (goes_asking_iff (.note _) .ok _ _ _ _).mp noted with ⟨_, _, impossible, _⟩
      cases impossible
    · rcases (goes_asking_iff (.note _) .ok _ _ _ _).mp noted with ⟨answer, rfl, _, rfl⟩
      rcases (goes_modify_iff _ _ _ _ _).mp changed with ⟨rfl, rfl, rfl⟩
      exact ⟨rfl, rfl, rfl⟩
  · rintro ⟨rfl, rfl, rfl⟩
    exact .inr ⟨[⟨.note event, ()⟩], [], (), before, rfl,
      (goes_asking_iff (.note _) .ok _ _ _ _).mpr ⟨(), rfl, rfl, rfl⟩,
      (goes_modify_iff _ _ _ _ _).mpr ⟨rfl, rfl, rfl⟩⟩

/-- A move that is allowed is recorded, and nothing else happens. -/
theorem goes_allowed_transition_iff {stage : Stage} {next : StageState}
    {outcome : Except Failure Unit}
    (allowed : StageState.checkStep (HasCursor.cursor before).resuming
      ((HasCursor.cursor before).state stage) next = .ok ()) :
    Goes (transition stage next) before trace outcome after ↔
      trace = [Move.recording ⟨stage, (HasCursor.cursor before).state stage, next⟩] ∧
        outcome = .ok () ∧
        after = HasCursor.withCursor before ((HasCursor.cursor before).set stage next) := by
  have passed : (Stateful.act (Action.ofExcept (.ok ())) : Stateful σ Unit) = pure () := rfl
  unfold transition
  rw [goes_look_bind_iff]
  simp only [allowed, passed, pure_bind]
  exact goes_noted_change_iff

/-- A step that makes an allowed move first. -/
theorem goes_allowed_transition_bind_iff (before : σ) {stage : Stage} {state : StageState}
    {next : Unit → Stateful σ α} {outcome : Except Failure α}
    (allowed : StageState.checkStep (HasCursor.cursor before).resuming
      ((HasCursor.cursor before).state stage) state = .ok ()) :
    Goes (transition stage state >>= next) before trace outcome after ↔
      ∃ rest, trace =
          Move.recording ⟨stage, (HasCursor.cursor before).state stage, state⟩ :: rest ∧
        Goes (next ()) (HasCursor.withCursor before ((HasCursor.cursor before).set stage state))
          rest outcome after := by
  rw [goes_bind_iff]
  constructor
  · rintro (⟨failure, moving, rfl⟩ | ⟨front, back, value, middle, rfl, moving, goes⟩)
    · rcases (goes_allowed_transition_iff allowed).mp moving with ⟨_, impossible, _⟩
      cases impossible
    · rcases (goes_allowed_transition_iff allowed).mp moving with ⟨rfl, _, rfl⟩
      exact ⟨back, rfl, goes⟩
  · rintro ⟨rest, rfl, goes⟩
    exact .inr ⟨[_], rest, (), _, rfl,
      (goes_allowed_transition_iff allowed).mpr ⟨rfl, rfl, rfl⟩, goes⟩

/-- A move that is not allowed fails, and nothing happens. -/
theorem goes_refused_transition_iff {stage : Stage} {next : StageState} {failure : Failure}
    {outcome : Except Failure Unit}
    (refused : StageState.checkStep (HasCursor.cursor before).resuming
      ((HasCursor.cursor before).state stage) next = .error failure) :
    Goes (transition stage next) before trace outcome after ↔
      trace = [] ∧ outcome = .error failure ∧ after = before := by
  have thrown (rest : Unit → Stateful σ Unit) :
      (Stateful.act (Action.ofExcept (.error failure)) : Stateful σ Unit) >>= rest =
        throw failure := rfl
  unfold transition
  rw [goes_look_bind_iff]
  simp only [refused, thrown]
  exact goes_throw_iff _ _ _ _ _

/-- Resuming ends, and nothing else happens to the cursor. -/
theorem goes_checkpointMissing_iff {outcome : Except Failure Unit} :
    Goes (checkpointMissing : Stateful σ Unit) before trace outcome after ↔
      trace = (if (HasCursor.cursor before).resuming then
          [⟨.note ⟨"info", "resume.ended", .ofFields []⟩, ()⟩] else []) ∧
        outcome = .ok () ∧
        after = HasCursor.withCursor before
          { HasCursor.cursor before with resuming := false } := by
  unfold checkpointMissing
  rw [goes_look_bind_iff]
  cases (HasCursor.cursor before).resuming with
  | false => exact goes_modify_iff _ _ _ _ _
  | true => exact goes_noted_change_iff

end

/-! ## The parts of a stage -/

section

variable {σ : Type} [HasCursor σ]

/-- Enter a stage. -/
def enterStage (stage : Stage) : Stateful σ Unit := do
  match (← Stateful.cursor).state stage with
  | .completed =>
    throw (.invalidConfig ("stage " ++ stage.text ++ " already completed"))
  | .notStarted => transition stage .inProgress
  | .failed => transition stage .inProgress
  | .inProgress => pure ()

/-- Leave a stage with the outcome of its body. -/
def leaveStage {α : Type} (stage : Stage) : Except Failure α → Stateful σ α
  | .ok value => do
    transition stage .completed
    return value
  | .error failure => do
    changeCursor fun cursor =>
      { cursor with failureReason := some (stage.text ++ ": " ++ failure.message) }
    transition stage .failed
    throw failure

variable {α : Type} {stage : Stage} {body : Stateful σ α}

theorem inStage_eq (stage : Stage) (body : Stateful σ α) :
    inStage stage body = enterStage stage >>= fun _ => attempt body >>= leaveStage stage := by
  unfold inStage enterStage
  rw [bind_assoc]
  congr 1
  funext found
  cases found.state stage <;> rfl

variable {before after : σ} {trace : List Exchange} {outcome : Except Failure α}

/-- A stage is entered, its body goes, and then the stage is left. -/
theorem goes_inStage_iff : Goes (inStage stage body) before trace outcome after ↔
    (∃ failure, Goes (enterStage stage) before trace (.error failure) after ∧
      outcome = .error failure) ∨
    ∃ entry inside exit result entered left, trace = entry ++ (inside ++ exit) ∧
      Goes (enterStage stage) before entry (.ok ()) entered ∧
      Goes body entered inside result left ∧
      Goes (leaveStage stage result) left exit outcome after := by
  rw [inStage_eq]
  constructor
  · intro goes
    rcases (goes_bind_iff _ _ _ _ _ _).mp goes with
      failed | ⟨entry, rest, _, entered, rfl, entering, later⟩
    · exact .inl failed
    · rcases (goes_bind_iff _ _ _ _ _ _).mp later with
        ⟨failure, failed, rfl⟩ | ⟨inside, exit, result, left, rfl, attempted, leaving⟩
      · rcases (goes_attempt_iff _ _ _ _ _).mp failed with ⟨result, impossible, _⟩
        cases impossible
      · rcases (goes_attempt_iff _ _ _ _ _).mp attempted with ⟨_, same, going⟩
        cases same
        exact .inr ⟨entry, inside, exit, result, entered, left, rfl, entering, going, leaving⟩
  · rintro (failed | ⟨entry, inside, exit, result, entered, left, rfl, entering, going, leaving⟩)
    · exact (goes_bind_iff _ _ _ _ _ _).mpr (.inl failed)
    · have attempted := (goes_attempt_iff _ _ _ _ _).mpr ⟨result, rfl, going⟩
      have rest := (goes_bind_iff _ _ _ _ _ _).mpr
        (.inr ⟨inside, exit, result, left, rfl, attempted, leaving⟩)
      exact (goes_bind_iff _ _ _ _ _ _).mpr
        (.inr ⟨entry, inside ++ exit, (), entered, rfl, entering, rest⟩)

end

end ModelRuns
