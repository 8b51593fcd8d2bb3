import ModelRuns.Proofs.Stage.Steps

namespace ModelRuns

open Stateful

/-!
# What operations keep of a cursor

A cursor is changed by three operations: a stage is moved, a stage is run with a body, and
resuming ends.  Whatever operations come one after the other, resuming does not begin again,
a completed stage stays completed, and a failed one is left only while resuming.

The body of a stage may end resuming, but the state of every stage is left to the cursor.
Then a run of a stage has only two courses.  A stage that is completed, or has failed while
nothing is resumed, is refused before its body.  Any other stage is in progress while its
body goes, and is completed or failed by the outcome of that body, which is handed on.
-/

/-! ## What is kept -/

/-- A later cursor beside an earlier one. -/
structure Cursor.Keeps (before after : Cursor) : Prop where
  ended : before.resuming = false → after.resuming = false
  completed : ∀ stage, before.state stage = .completed → after.state stage = .completed
  failed : ∀ stage, before.state stage = .failed → after.state stage ≠ .failed →
    before.resuming = true

namespace Cursor.Keeps

variable {before middle after : Cursor}

theorem of_state (states : after.state = before.state)
    (ended : before.resuming = false → after.resuming = false) : before.Keeps after where
  ended := ended
  completed stage done := by rw [states, done]
  failed stage failed left := absurd (states ▸ failed) left

theorem refl (cursor : Cursor) : cursor.Keeps cursor := of_state rfl id

theorem trans (first : before.Keeps middle) (second : middle.Keeps after) :
    before.Keeps after where
  ended := second.ended ∘ first.ended
  completed stage done := second.completed stage (first.completed stage done)
  failed stage failed left := by
    by_cases still : middle.state stage = .failed
    · -- The stage is left behind the first part, and resuming cannot have begun in it.
      have resuming := second.failed stage still left
      cases fresh : before.resuming with
      | true => rfl
      | false => rw [first.ended fresh] at resuming; cases resuming
    · exact first.failed stage failed still

/-- A move that is allowed. -/
theorem set {stage : Stage} {next : StageState}
    (allowed : StageState.allows before.resuming (before.state stage) next = true) :
    before.Keeps (before.set stage next) where
  ended := id
  completed other done := by
    have different : other ≠ stage := by
      rintro rfl
      rw [done] at allowed
      cases allowed
    rw [Cursor.state_set_of_ne before next different, done]
  failed other failed left := by
    by_cases same : other = stage
    · rw [← same, failed] at allowed
      exact (Bool.and_eq_true_iff.mp allowed).1
    · rw [Cursor.state_set_of_ne before next same] at left
      exact absurd failed left

end Cursor.Keeps

/-! ## Moving a stage -/

theorem StageState.checkStep_of_allows {resuming : Bool} {current next : StageState}
    (allowed : allows resuming current next = true) : checkStep resuming current next = .ok () :=
  if_pos allowed

/-- The failure of a move that is not allowed. -/
def StageState.illegal (current next : StageState) : Failure :=
  .invalidConfig ("illegal stage transition: " ++ current.title ++ " -> " ++ next.title)

theorem StageState.checkStep_of_not_allows {resuming : Bool} {current next : StageState}
    (refused : allows resuming current next = false) :
    checkStep resuming current next = .error (illegal current next) :=
  if_neg (Bool.not_eq_true _ ▸ refused)

section

variable {before after : Cursor} {stage : Stage} {next : StageState} {trace : List Exchange}
  {outcome : Except Failure Unit}

/-- A move succeeds if it is allowed, and changes nothing if it is not. -/
theorem outcome_of_transition (goes : Goes (transition stage next) before trace outcome after) :
    (StageState.allows before.resuming (before.state stage) next = true →
      outcome = .ok () ∧ after = before.set stage next) ∧
    (StageState.allows before.resuming (before.state stage) next = false →
      outcome = .error (StageState.illegal (before.state stage) next) ∧ after = before) := by
  constructor
  · intro allowed
    exact ((goes_allowed_transition_iff (StageState.checkStep_of_allows allowed)).mp goes).2
  · intro refused
    exact ((goes_refused_transition_iff (StageState.checkStep_of_not_allows refused)).mp goes).2

theorem keeps_transition (goes : Goes (transition stage next) before trace outcome after) :
    before.Keeps after := by
  cases allowed : StageState.allows before.resuming (before.state stage) next with
  | true =>
    rw [((outcome_of_transition goes).1 allowed).2]
    exact .set allowed
  | false =>
    rw [((outcome_of_transition goes).2 allowed).2]
    exact .refl before

theorem keeps_checkpointMissing
    (goes : Goes (checkpointMissing : Stateful Cursor Unit) before trace outcome after) :
    before.Keeps after := by
  rw [(goes_checkpointMissing_iff.mp goes).2.2]
  exact .of_state rfl fun _ => rfl

end

/-! ## Bodies -/

/-- A body that moves no stage.  It may ask anything, fail, and end resuming. -/
def MovesNoStage {α : Type} (body : Stateful Cursor α) : Prop :=
  ∀ before trace outcome after, Goes body before trace outcome after →
    after.state = before.state ∧ (before.resuming = false → after.resuming = false)

namespace MovesNoStage

variable {α β : Type}

theorem act (action : Action α) : MovesNoStage (act action) := by
  intro before trace outcome after goes
  rw [((goes_act_iff _ _ _ _ _).mp goes).2]
  exact ⟨rfl, id⟩

theorem checkpointMissing : MovesNoStage checkpointMissing := by
  intro before trace outcome after goes
  rw [(goes_checkpointMissing_iff.mp goes).2.2]
  exact ⟨rfl, fun _ => rfl⟩

theorem bind {body : Stateful Cursor β} {next : β → Stateful Cursor α}
    (first : MovesNoStage body) (second : ∀ value, MovesNoStage (next value)) :
    MovesNoStage (body >>= next) := by
  intro before trace outcome after goes
  rcases (goes_bind_iff _ _ _ _ _ _).mp goes with
    ⟨failure, failed, rfl⟩ | ⟨front, back, value, middle, rfl, going, rest⟩
  · exact first _ _ _ _ failed
  · have earlier := first _ _ _ _ going
    have later := second value _ _ _ _ rest
    exact ⟨later.1.trans earlier.1, later.2 ∘ earlier.2⟩

end MovesNoStage

/-! ## Running a stage -/

namespace Cursor

variable (cursor : Cursor) (stage : Stage)

/-- A stage may be run unless it is completed, or has failed while nothing is resumed. -/
def MayRun : Prop :=
  cursor.state stage ≠ .completed ∧ (cursor.state stage = .failed → cursor.resuming = true)

instance : Decidable (cursor.MayRun stage) := inferInstanceAs (Decidable (_ ∧ _))

/-- The failure of a stage that may not be run. -/
def refusal : Failure :=
  if cursor.state stage = .completed then
    .invalidConfig ("stage " ++ stage.text ++ " already completed")
  else StageState.illegal (cursor.state stage) .inProgress

/-- What is recorded when a stage is entered; one in progress is not moved. -/
def entry : List Exchange :=
  if cursor.state stage = .inProgress then []
  else [Move.recording ⟨stage, cursor.state stage, .inProgress⟩]

/-- The cursor behind a stage, with the failure of its body as the reason if it failed. -/
def leave {α : Type} : Except Failure α → Cursor
  | .ok _ => cursor.set stage .completed
  | .error failure =>
    set { cursor with failureReason := some (stage.text ++ ": " ++ failure.message) } stage .failed

theorem state_leave {α : Type} (outcome : Except Failure α) :
    (cursor.leave stage outcome).state = (cursor.set stage (.behind outcome)).state := by
  cases outcome <;> rfl

theorem resuming_leave {α : Type} (outcome : Except Failure α) :
    (cursor.leave stage outcome).resuming = cursor.resuming := by
  cases outcome <;> rfl

variable {cursor stage}

theorem keeps_leave {α : Type} (running : cursor.state stage = .inProgress)
    (outcome : Except Failure α) : cursor.Keeps (cursor.leave stage outcome) := by
  have moved : cursor.Keeps (cursor.set stage (.behind outcome)) := .set (by
    rw [running]
    cases outcome <;> rfl)
  refine moved.trans (.of_state (state_leave cursor stage outcome) ?_)
  rw [resuming_leave]
  exact id

/-- Entering is allowed where the stage has not been entered or may be run again. -/
theorem MayRun.allows (may : cursor.MayRun stage) (entered : cursor.state stage ≠ .inProgress) :
    StageState.allows cursor.resuming (cursor.state stage) .inProgress = true := by
  cases found : cursor.state stage with
  | notStarted => rfl
  | inProgress => exact absurd found entered
  | completed => exact absurd found may.1
  | failed => rw [may.2 found]; rfl

theorem MayRun.keeps_set (may : cursor.MayRun stage) :
    cursor.Keeps (cursor.set stage .inProgress) := by
  by_cases entered : cursor.state stage = .inProgress
  · rw [set_of_state cursor stage _ entered]
    exact .refl cursor
  · exact .set (may.allows entered)

end Cursor

section

variable {α : Type} {stage : Stage} {before after : Cursor} {trace : List Exchange}

theorem goes_enterStage_iff_of_mayRun (may : before.MayRun stage) {outcome : Except Failure Unit} :
    Goes (enterStage stage) before trace outcome after ↔
      trace = before.entry stage ∧ outcome = .ok () ∧ after = before.set stage .inProgress := by
  have moved (entered : before.state stage ≠ .inProgress) :
      Goes (transition stage .inProgress) before trace outcome after ↔
        trace = before.entry stage ∧ outcome = .ok () ∧ after = before.set stage .inProgress := by
    rw [Cursor.entry, if_neg entered]
    exact goes_allowed_transition_iff (StageState.checkStep_of_allows (may.allows entered))
  have looked : HasCursor.cursor before = before := rfl
  unfold enterStage
  rw [goes_look_bind_iff, looked]
  cases found : before.state stage with
  | notStarted => exact moved (by rw [found]; decide)
  | failed => exact moved (by rw [found]; decide)
  | completed => exact absurd found may.1
  | inProgress =>
    rw [Cursor.entry, if_pos found, Cursor.set_of_state _ _ _ found]
    exact goes_pure_iff _ _ _ _ _

theorem goes_enterStage_iff_of_not_mayRun (refused : ¬ before.MayRun stage)
    {outcome : Except Failure Unit} :
    Goes (enterStage stage) before trace outcome after ↔
      trace = [] ∧ outcome = .error (before.refusal stage) ∧ after = before := by
  have looked : HasCursor.cursor before = before := rfl
  unfold enterStage
  rw [goes_look_bind_iff, looked]
  cases found : before.state stage with
  | notStarted => exact absurd ⟨by rw [found]; decide, by rw [found]; nofun⟩ refused
  | inProgress => exact absurd ⟨by rw [found]; decide, by rw [found]; nofun⟩ refused
  | completed =>
    rw [Cursor.refusal, if_pos found]
    exact goes_throw_iff _ _ _ _ _
  | failed =>
    have fresh : before.resuming = false := by
      cases resuming : before.resuming with
      | false => rfl
      | true => exact absurd ⟨by rw [found]; decide, fun _ => resuming⟩ refused
    have illegal : StageState.allows before.resuming (before.state stage) .inProgress = false := by
      rw [fresh, found]
      rfl
    rw [Cursor.refusal, if_neg (by rw [found]; decide)]
    exact goes_refused_transition_iff (StageState.checkStep_of_not_allows illegal)

/-- A stage in progress is left as its body went, and the outcome is handed on. -/
theorem goes_leaveStage_iff {result outcome : Except Failure α}
    (running : before.state stage = .inProgress) :
    Goes (leaveStage stage result) before trace outcome after ↔
      trace = [Move.recording ⟨stage, .inProgress, .behind result⟩] ∧ outcome = result ∧
        after = before.leave stage result := by
  have allowed : StageState.checkStep before.resuming (before.state stage) (.behind result) =
      .ok () := by
    rw [running]
    cases result <;> rfl
  cases result with
  | ok value =>
    refine (goes_allowed_transition_bind_iff before allowed).trans ?_
    constructor
    · rintro ⟨rest, rfl, ends⟩
      rcases (goes_pure_iff _ _ _ _ _).mp ends with ⟨rfl, rfl, rfl⟩
      exact ⟨running ▸ rfl, rfl, rfl⟩
    · rintro ⟨rfl, rfl, rfl⟩
      exact ⟨[], running.symm ▸ rfl, (goes_pure_iff _ _ _ _ _).mpr ⟨rfl, rfl, rfl⟩⟩
  | error failure =>
    refine goes_change_bind_iff.trans
      ((goes_allowed_transition_bind_iff _ allowed).trans ?_)
    constructor
    · rintro ⟨rest, rfl, ends⟩
      rcases (goes_throw_iff _ _ _ _ _).mp ends with ⟨rfl, rfl, rfl⟩
      exact ⟨running ▸ rfl, rfl, rfl⟩
    · rintro ⟨rfl, rfl, rfl⟩
      exact ⟨[], running.symm ▸ rfl, (goes_throw_iff _ _ _ _ _).mpr ⟨rfl, rfl, rfl⟩⟩

end

section

variable {α : Type} {stage : Stage} {body : Stateful Cursor α} {before after : Cursor}
  {trace : List Exchange} {outcome : Except Failure α}

/-- A stage that may not be run is refused, whatever its body. -/
theorem goes_inStage_iff_of_not_mayRun (refused : ¬ before.MayRun stage) :
    Goes (inStage stage body) before trace outcome after ↔
      trace = [] ∧ outcome = .error (before.refusal stage) ∧ after = before := by
  rw [goes_inStage_iff]
  constructor
  · rintro (⟨failure, failed, rfl⟩ | ⟨entry, _, _, _, entered, _, _, entering, _⟩)
    · rcases (goes_enterStage_iff_of_not_mayRun refused).mp failed with ⟨rfl, same, rfl⟩
      cases same
      exact ⟨rfl, rfl, rfl⟩
    · cases ((goes_enterStage_iff_of_not_mayRun refused).mp entering).2.1
  · rintro ⟨rfl, rfl, rfl⟩
    exact .inl ⟨_, (goes_enterStage_iff_of_not_mayRun refused).mpr ⟨rfl, rfl, rfl⟩, rfl⟩

/-- Any other stage is entered, its body goes, and the stage is left with the outcome of
that. -/
theorem goes_inStage_iff_of_mayRun (still : MovesNoStage body) (may : before.MayRun stage) :
    Goes (inStage stage body) before trace outcome after ↔
      ∃ inside left, trace = before.entry stage ++
          (inside ++ [Move.recording ⟨stage, .inProgress, .behind outcome⟩]) ∧
        Goes body (before.set stage .inProgress) inside outcome left ∧
        after = left.leave stage outcome := by
  have running {inside : List Exchange} {result : Except Failure α} {left : Cursor}
      (going : Goes body (before.set stage .inProgress) inside result left) :
      left.state stage = .inProgress := by
    rw [(still _ _ _ _ going).1, Cursor.state_set_self]
  rw [goes_inStage_iff]
  constructor
  · rintro (⟨failure, failed, _⟩ |
      ⟨entry, inside, exit, result, entered, left, rfl, entering, going, leaving⟩)
    · cases ((goes_enterStage_iff_of_mayRun may).mp failed).2.1
    · rcases (goes_enterStage_iff_of_mayRun may).mp entering with ⟨rfl, _, rfl⟩
      rcases (goes_leaveStage_iff (running going)).mp leaving with ⟨rfl, rfl, rfl⟩
      exact ⟨inside, left, rfl, going, rfl⟩
  · rintro ⟨inside, left, rfl, going, rfl⟩
    exact .inr ⟨_, inside, _, outcome, _, left, rfl,
      (goes_enterStage_iff_of_mayRun may).mpr ⟨rfl, rfl, rfl⟩, going,
      (goes_leaveStage_iff (running going)).mpr ⟨rfl, rfl, rfl⟩⟩

/-- A stage that was run is completed or failed as its body went, and no other is moved. -/
theorem state_of_inStage (still : MovesNoStage body) (may : before.MayRun stage)
    (goes : Goes (inStage stage body) before trace outcome after) :
    after.state stage = .behind outcome ∧
      ∀ other, other ≠ stage → after.state other = before.state other := by
  rcases (goes_inStage_iff_of_mayRun still may).mp goes with ⟨inside, left, rfl, going, rfl⟩
  rw [Cursor.state_leave]
  refine ⟨Cursor.state_set_self left stage _, fun other different => ?_⟩
  rw [Cursor.state_set_of_ne left _ different, (still _ _ _ _ going).1,
    Cursor.state_set_of_ne before _ different]

theorem keeps_inStage (still : MovesNoStage body)
    (goes : Goes (inStage stage body) before trace outcome after) : before.Keeps after := by
  by_cases may : before.MayRun stage
  · rcases (goes_inStage_iff_of_mayRun still may).mp goes with ⟨inside, left, rfl, going, rfl⟩
    have body := still _ _ _ _ going
    have running := (congrFun body.1 stage).trans (Cursor.state_set_self before stage _)
    exact may.keeps_set.trans ((Cursor.Keeps.of_state body.1 body.2).trans
      (Cursor.keeps_leave running _))
  · rw [((goes_inStage_iff_of_not_mayRun may).mp goes).2.2]
    exact .refl before

end

/-! ## Operations in a row -/

/-- An operation on a cursor. -/
inductive CursorOperation : Type 1
  | transition (stage : Stage) (next : StageState)
  | run {α : Type} (stage : Stage) (body : Stateful Cursor α) (still : MovesNoStage body)
  | checkpointMissing

/-- An operation leads from one cursor to another, whether it succeeds or fails. -/
def CursorOperation.Leads : CursorOperation → Cursor → Cursor → Prop
  | .transition stage next, before, after =>
    ∃ trace outcome, Goes (Stateful.transition stage next) before trace outcome after
  | .run stage body _, before, after =>
    ∃ trace outcome, Goes (inStage stage body) before trace outcome after
  | .checkpointMissing, before, after =>
    ∃ trace outcome, Goes (Stateful.checkpointMissing : Stateful Cursor Unit) before trace
      outcome after

/-- Operations lead from one cursor to another, one after the other. -/
inductive Reaches : List CursorOperation → Cursor → Cursor → Prop
  | none (cursor : Cursor) : Reaches [] cursor cursor
  | next {operation : CursorOperation} {operations : List CursorOperation}
      {before middle after : Cursor} (leads : operation.Leads before middle)
      (rest : Reaches operations middle after) : Reaches (operation :: operations) before after

theorem CursorOperation.Leads.keeps {operation : CursorOperation} {before after : Cursor}
    (leads : operation.Leads before after) : before.Keeps after := by
  cases operation with
  | transition stage next =>
    rcases leads with ⟨trace, outcome, goes⟩
    exact keeps_transition goes
  | run stage body still =>
    rcases leads with ⟨trace, outcome, goes⟩
    exact keeps_inStage still goes
  | checkpointMissing =>
    rcases leads with ⟨trace, outcome, goes⟩
    exact keeps_checkpointMissing goes

theorem Reaches.keeps {operations : List CursorOperation} {before after : Cursor}
    (reaches : Reaches operations before after) : before.Keeps after := by
  induction reaches with
  | none cursor => exact .refl cursor
  | next leads _ inductionHypothesis => exact leads.keeps.trans inductionHypothesis

/-- What operations do to a cursor, wherever earlier ones have led it.  Any operations in a
row keep what `Cursor.Keeps` says.  A move that is not allowed fails and changes nothing.  A
stage that may not be run fails without its body and changes nothing.  Any other stage ends
with the outcome of its body, which was run while the stage was in progress: completed if the
body succeeded, and failed if it failed. -/
theorem cursor_operations (cursor : Cursor) :
    (∀ operations after, Reaches operations cursor after → cursor.Keeps after) ∧
    (∀ stage next trace outcome after,
      StageState.allows cursor.resuming (cursor.state stage) next = false →
      (Goes (transition stage next) cursor trace outcome after ↔
        trace = [] ∧ outcome = .error (StageState.illegal (cursor.state stage) next) ∧
          after = cursor)) ∧
    (∀ (α : Type) stage (body : Stateful Cursor α) trace outcome after, ¬ cursor.MayRun stage →
      (Goes (inStage stage body) cursor trace outcome after ↔
        trace = [] ∧ outcome = .error (cursor.refusal stage) ∧ after = cursor)) ∧
    (∀ (α : Type) stage (body : Stateful Cursor α) trace outcome after, MovesNoStage body →
      cursor.MayRun stage →
      (Goes (inStage stage body) cursor trace outcome after ↔
        ∃ inside left, trace = cursor.entry stage ++
            (inside ++ [Move.recording ⟨stage, .inProgress, .behind outcome⟩]) ∧
          Goes body (cursor.set stage .inProgress) inside outcome left ∧
          after = left.leave stage outcome) ∧
      (Goes (inStage stage body) cursor trace outcome after →
        after.state stage = .behind outcome ∧
          ∀ other, other ≠ stage → after.state other = cursor.state other)) := by
  refine ⟨fun _ _ reaches => reaches.keeps, ?_, ?_, ?_⟩
  · intro stage next trace outcome after refused
    exact goes_refused_transition_iff (StageState.checkStep_of_not_allows refused)
  · intro α stage body trace outcome after refused
    exact goes_inStage_iff_of_not_mayRun refused
  · intro α stage body trace outcome after still may
    exact ⟨goes_inStage_iff_of_mayRun still may, state_of_inStage still may⟩

/-! ## A failed stage that is not run again -/

/-- A body that ends resuming and fails. -/
def lostBody : Stateful Cursor Unit := do
  checkpointMissing
  act (Action.ofExcept (.error (.api "lost")))

theorem movesNoStage_lostBody : MovesNoStage lostBody :=
  .bind .checkpointMissing fun _ => .act _

/-- The cursor behind a first stage with that body. -/
def lostCursor : Cursor :=
  (Cursor.leave ⟨((Cursor.start true).set .source .inProgress).state, false, none⟩ .source
    (.error (.api "lost") : Except Failure Unit))

/-- Its stage has failed and resuming has ended, so the stage is not run again. -/
theorem cursor_operations_lost :
    Reaches [.run .source lostBody movesNoStage_lostBody] (.start true) lostCursor ∧
    (Cursor.start true).Keeps lostCursor ∧
    StageState.allows lostCursor.resuming (lostCursor.state .source) .inProgress = false ∧
    Goes (transition .source .inProgress) lostCursor []
      (.error (StageState.illegal .failed .inProgress)) lostCursor ∧
    ¬ lostCursor.MayRun .source ∧
    Goes (inStage .source (pure 7 : Stateful Cursor Nat)) lostCursor []
      (.error (lostCursor.refusal .source)) lostCursor ∧
    (Cursor.start true).MayRun .source ∧ lostCursor.state .source = .failed := by
  have may : (Cursor.start true).MayRun .source := by decide
  have closed : ¬ lostCursor.MayRun .source := by decide
  have illegal : StageState.allows lostCursor.resuming (lostCursor.state .source) .inProgress =
      false := rfl
  rcases cursor_operations (.start true) with ⟨kept, _, _, runs⟩
  rcases cursor_operations lostCursor with ⟨_, refuses, skips, _⟩
  have body : Goes lostBody ((Cursor.start true).set .source .inProgress)
      [⟨.note ⟨"info", "resume.ended", .ofFields []⟩, ()⟩] (.error (.api "lost"))
      ⟨((Cursor.start true).set .source .inProgress).state, false, none⟩ :=
    (goes_bind_iff _ _ _ _ _ _).mpr (.inr ⟨_, [], (), _, rfl,
      goes_checkpointMissing_iff.mpr ⟨rfl, rfl, rfl⟩,
      (goes_act_iff _ _ _ _ _).mpr ⟨(Action.yields_ofExcept_iff _ _ _).mpr ⟨rfl, rfl⟩, rfl⟩⟩)
  have run (trace : List Exchange) := runs Unit .source lostBody trace (.error (.api "lost"))
    lostCursor movesNoStage_lostBody may
  have goes := (run _).1.mpr ⟨_, _, rfl, body, rfl⟩
  have reaches : Reaches [.run .source lostBody movesNoStage_lostBody] (.start true) lostCursor :=
    .next ⟨_, _, goes⟩ (.none _)
  exact ⟨reaches, kept _ _ reaches, illegal,
    (refuses .source .inProgress [] _ lostCursor illegal).mpr ⟨rfl, rfl, rfl⟩, closed,
    (skips Nat .source (pure 7) [] _ lostCursor closed).mpr ⟨rfl, rfl, rfl⟩, may, ((run _).2 goes).1⟩

end ModelRuns
