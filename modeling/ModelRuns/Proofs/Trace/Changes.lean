import ModelRuns.Proofs.Trace.Texts

namespace ModelRuns

/-!
# Changes to one file

Most exchanges of a trace leave a given file alone.  `changesAt` keeps the others, and
they alone decide what the file holds afterwards.  So what a long program does to a
short log can be read off a list of one or two exchanges.

A request spares a file when it neither extends nor empties nor removes it.  Results
and the run log are left out of this: they go where the command line says, so that
they stay off a file is a condition on a trace.
-/

namespace Exchange

/-- A granted request changed the file. -/
def changes (path : Path) : Exchange → Bool
  | ⟨.file (.write target _), .ok ()⟩ => target.same path
  | ⟨.file (.append target _), .ok ()⟩ => target.same path
  | ⟨.file (.truncate target), .ok ()⟩ => target.same path
  | ⟨.file (.remove target), .ok ()⟩ => target.same path
  | _ => false

theorem applyTo_of_not_changes {path : Path} {exchange : Exchange}
    (kept : exchange.changes path = false) (text : Option String) :
    exchange.applyTo path text = text := by
  rcases exchange with ⟨asked, answer⟩
  cases asked with
  | file request =>
    cases request with
    | write target written =>
      cases answer with
      | error failure => rfl
      | ok done => exact if_neg (Bool.eq_false_iff.mp kept)
    | append target line =>
      cases answer with
      | error failure => rfl
      | ok done => exact if_neg (Bool.eq_false_iff.mp kept)
    | truncate target =>
      cases answer with
      | error failure => rfl
      | ok done => exact if_neg (Bool.eq_false_iff.mp kept)
    | remove target =>
      cases answer with
      | error failure => rfl
      | ok done => exact if_neg (Bool.eq_false_iff.mp kept)
    | _ => rfl
  | _ => rfl

/-- A result or the run log was asked to go where the file is. -/
def Overwrites (path : Path) : Exchange → Prop
  | ⟨.file (.write target _), _⟩ => target.same path = true
  | ⟨.openRunLog (some target) _, _⟩ => target.same path = true
  | _ => False

end Exchange

instance (path : Path) (exchange : Exchange) : Decidable (exchange.Overwrites path) := by
  unfold Exchange.Overwrites
  split <;> infer_instance

/-- The exchange in which a line was appended. -/
def appending (path : Path) (line : String) : Exchange := ⟨.file (.append path line), .ok ()⟩

/-- The exchange in which a file was emptied. -/
def emptied (path : Path) : Exchange := ⟨.file (.truncate path), .ok ()⟩

theorem changes_appending (path : Path) (line : String) :
    (appending path line).changes path = true := Path.same_self path

theorem changes_emptied (path : Path) : (emptied path).changes path = true := Path.same_self path

/-- A request that does not extend, empty or remove the file. -/
def Request.Spares (path : Path) : Request → Prop
  | .file (.append target _) => target.same path = false
  | .file (.truncate target) => target.same path = false
  | .file (.remove target) => target.same path = false
  | _ => True

theorem Exchange.not_changes_of_spares {path : Path} {exchange : Exchange}
    (spares : exchange.asked.Spares path) (kept : ¬exchange.Overwrites path) :
    exchange.changes path = false := by
  unfold changes
  split
  next => exact Bool.eq_false_iff.mpr kept
  next => exact spares
  next => exact spares
  next => exact spares
  next => rfl

/-! ## Changes along a trace -/

/-- The exchanges of a trace that changed the file. -/
def changesAt (path : Path) (trace : List Exchange) : List Exchange :=
  trace.filter (·.changes path)

section

variable (path : Path)

@[simp] theorem changesAt_nil : changesAt path [] = [] := rfl

theorem changesAt_cons_of_changes {exchange : Exchange} (changed : exchange.changes path = true)
    (trace : List Exchange) :
    changesAt path (exchange :: trace) = exchange :: changesAt path trace :=
  List.filter_cons_of_pos changed

theorem changesAt_cons_of_not_changes {exchange : Exchange}
    (kept : exchange.changes path = false) (trace : List Exchange) :
    changesAt path (exchange :: trace) = changesAt path trace :=
  List.filter_cons_of_neg (Bool.eq_false_iff.mp kept)

@[simp] theorem changesAt_append (front back : List Exchange) :
    changesAt path (front ++ back) = changesAt path front ++ changesAt path back :=
  List.filter_append ..

theorem appending_mem_changesAt_iff (line : String) (trace : List Exchange) :
    appending path line ∈ changesAt path trace ↔ appending path line ∈ trace := by
  rw [changesAt, List.mem_filter, changes_appending]
  exact and_iff_left rfl

theorem textAfter_changesAt (text : Option String) (trace : List Exchange) :
    textAfter path text (changesAt path trace) = textAfter path text trace := by
  induction trace generalizing text with
  | nil => rfl
  | cons exchange rest inductionHypothesis =>
    rw [changesAt, List.filter_cons, textAfter_cons]
    split
    next => exact inductionHypothesis _
    next kept =>
      rw [Exchange.applyTo_of_not_changes (Bool.eq_false_iff.mpr kept)]
      exact inductionHypothesis text

theorem textAfter_of_changesAt_nil {trace : List Exchange} (kept : changesAt path trace = [])
    (text : Option String) : textAfter path text trace = text := by
  rw [← textAfter_changesAt, kept]
  rfl

theorem changesAt_eq_nil {trace : List Exchange}
    (spares : ∀ exchange ∈ trace, exchange.asked.Spares path)
    (kept : ∀ exchange ∈ trace, ¬exchange.Overwrites path) : changesAt path trace = [] := by
  rw [changesAt, List.filter_eq_nil_iff]
  intro exchange member
  have unchanged := Exchange.not_changes_of_spares (spares exchange member) (kept exchange member)
  exact Bool.eq_false_iff.mp unchanged

end

/-! ## What actions ask -/

namespace Action

variable {α β : Type}

@[simp] theorem yields_lift_iff (program : Program α) (trace : List Exchange)
    (outcome : Except Failure α) :
    Yields (ExceptT.lift program) trace outcome ↔
      ∃ value, program.Runs trace value ∧ outcome = .ok value := by
  unfold Yields
  rw [ExceptT.run_lift, map_eq_pure_bind, Program.bind_eq, Program.runs_bind_iff]
  constructor
  · rintro ⟨front, back, value, rfl, runs, rest⟩
    have ended : back = [] ∧ outcome = .ok value := by simpa using rest
    rcases ended with ⟨rfl, rfl⟩
    exact ⟨value, by simpa using runs, rfl⟩
  · rintro ⟨value, runs, rfl⟩
    exact ⟨trace, [], value, by simp, runs, by simp⟩

/-- In every run of the action each request is one of the allowed ones. -/
def Asks (allowed : Request → Prop) (action : Action α) : Prop :=
  ∀ trace outcome, action.Yields trace outcome → ∀ exchange ∈ trace, allowed exchange.asked

namespace Asks

variable {allowed permitted : Request → Prop}

theorem mono {action : Action α} (asks : action.Asks allowed)
    (weaker : ∀ asked, allowed asked → permitted asked) : action.Asks permitted :=
  fun trace outcome yields exchange member => weaker _ (asks trace outcome yields exchange member)

theorem pure (value : α) : Asks allowed (pure value : Action α) := by
  intro trace outcome yields
  rcases (yields_pure_iff _ _ _).mp yields with ⟨rfl, _⟩
  exact List.forall_mem_nil _

theorem throw (failure : Failure) : Asks allowed (throw failure : Action α) := by
  intro trace outcome yields
  rcases (yields_throw_iff _ _ _).mp yields with ⟨rfl, _⟩
  exact List.forall_mem_nil _

theorem ofExcept (result : Except Failure α) : Asks allowed (Action.ofExcept result) := by
  intro trace outcome yields
  rcases (yields_ofExcept_iff _ _ _).mp yields with ⟨rfl, _⟩
  exact List.forall_mem_nil _

theorem bind {action : Action α} {next : α → Action β} (first : action.Asks allowed)
    (second : ∀ value, (next value).Asks allowed) : (action >>= next).Asks allowed := by
  intro trace outcome yields
  rcases (yields_bind_iff _ _ _ _).mp yields with
    ⟨failure, failed, _⟩ | ⟨front, back, value, rfl, begun, ended⟩
  · exact first _ _ failed
  · intro exchange member
    rcases List.mem_append.mp member with before | behind
    · exact first _ _ begun exchange before
    · exact second value _ _ ended exchange behind

/-- An action ends the run, or all that it asked comes before what goes on. -/
theorem yields_bind {action : Action α} {next : α → Action β} (asks : action.Asks allowed)
    {trace : List Exchange} {outcome : Except Failure β}
    (yields : (action >>= next).Yields trace outcome) :
    (∀ exchange ∈ trace, allowed exchange.asked) ∨ ∃ front back value, trace = front ++ back ∧
      (∀ exchange ∈ front, allowed exchange.asked) ∧ action.Yields front (.ok value) ∧
      (next value).Yields back outcome := by
  rcases (yields_bind_iff _ _ _ _).mp yields with
    ⟨failure, failed, _⟩ | ⟨front, back, value, rfl, begun, ended⟩
  · exact .inl (asks _ _ failed)
  · exact .inr ⟨front, back, value, rfl, asks _ _ begun, begun, ended⟩

theorem asking (asked : Request) (finish : asked.Answer → Except Failure α)
    (permits : allowed asked) : Asks allowed (Action.asking asked finish) := by
  intro trace outcome yields
  rcases (yields_asking_iff _ _ _ _).mp yields with ⟨answer, rfl, _⟩
  intro exchange member
  rw [List.mem_singleton.mp member]
  exact permits

/-- Attempting an action asks what the action asks. -/
theorem attempt {action : Action α} (asks : action.Asks allowed) :
    Asks allowed (ExceptT.lift action.attempt) := by
  intro trace outcome yields
  rcases (yields_lift_iff _ _ _).mp yields with ⟨result, runs, _⟩
  exact asks trace result runs

theorem ite {condition : Prop} [Decidable condition] {first second : Action α}
    (whenTrue : first.Asks allowed) (whenFalse : second.Asks allowed) :
    Asks allowed (if condition then first else second) := by
  split
  · exact whenTrue
  · exact whenFalse

theorem when {condition : Bool} {action : Action Unit} (asks : action.Asks allowed) :
    (Action.when condition action).Asks allowed := .ite asks (.pure ())

end Asks

/-- In every run of the action the file gets at most this line, provided that no result
and no run log goes there. -/
def AppendsOnce (path : Path) (line : String) (action : Action α) : Prop :=
  ∀ trace outcome, action.Yields trace outcome →
    (∀ exchange ∈ trace, ¬exchange.Overwrites path) →
    changesAt path trace = [] ∨ changesAt path trace = [appending path line]

namespace AppendsOnce

variable {path : Path} {line : String}

theorem appendLine : (Action.appendLine path line).AppendsOnce path line := by
  intro trace outcome yields kept
  rcases (yields_asking_iff (.file (.append path line)) id _ _).mp yields with ⟨answer, rfl, _⟩
  cases answer with
  | error failure => exact .inl rfl
  | ok done => exact .inr (changesAt_cons_of_changes path (changes_appending path line) [])

/-- The line comes before all that spares the file. -/
theorem before {action : Action α} {next : α → Action β} (first : action.AppendsOnce path line)
    (second : ∀ value, (next value).Asks (Request.Spares path)) :
    (action >>= next).AppendsOnce path line := by
  intro trace outcome yields kept
  rcases (yields_bind_iff _ _ _ _).mp yields with
    ⟨failure, failed, _⟩ | ⟨front, back, value, rfl, begun, ended⟩
  · exact first _ _ failed kept
  · have quiet := changesAt_eq_nil path (second value _ _ ended) fun exchange member =>
      kept exchange (List.mem_append_right front member)
    rw [changesAt_append, quiet, List.append_nil]
    exact first _ _ begun fun exchange member => kept exchange (List.mem_append_left back member)

/-- The line comes behind all that spares the file. -/
theorem behind {action : Action α} {next : α → Action β}
    (first : action.Asks (Request.Spares path))
    (second : ∀ value, (next value).AppendsOnce path line) :
    (action >>= next).AppendsOnce path line := by
  intro trace outcome yields kept
  rcases (yields_bind_iff _ _ _ _).mp yields with
    ⟨failure, failed, _⟩ | ⟨front, back, value, rfl, begun, ended⟩
  · exact .inl (changesAt_eq_nil path (first _ _ failed) kept)
  · have quiet := changesAt_eq_nil path (first _ _ begun) fun exchange member =>
      kept exchange (List.mem_append_left back member)
    rw [changesAt_append, quiet, List.nil_append]
    exact second value _ _ ended fun exchange member =>
      kept exchange (List.mem_append_right front member)

end AppendsOnce

end Action

/-! ## At most one line behind an emptying -/

/-- The file is emptied if anything, and then gets at most this line. -/
def AtMostAppends (path : Path) (line : String) (trace : List Exchange) : Prop :=
  ∃ front back, changesAt path trace = front ++ back ∧
    (∀ exchange ∈ front, exchange = emptied path) ∧ (back = [] ∨ back = [appending path line])

theorem textAfter_emptied {path : Path} {trace : List Exchange}
    (emptying : ∀ exchange ∈ trace, exchange = emptied path) (text : Option String) :
    (textAfter path text trace).getD "" = text.getD "" ∨
      (textAfter path text trace).getD "" = "" := by
  induction trace generalizing text with
  | nil => exact .inl rfl
  | cons exchange rest inductionHypothesis =>
    have first := emptying exchange List.mem_cons_self
    have others := inductionHypothesis
      (fun exchange member => emptying exchange (List.mem_cons_of_mem _ member)) (some "")
    rw [textAfter_cons, first, show (emptied path).applyTo path text = some "" from
      if_pos (Path.same_self path)]
    exact .inr (others.elim id id)

namespace AtMostAppends

variable {path : Path} {line : String} {trace : List Exchange}

/-- A run that is cut short does no more than the whole run. -/
theorem of_cut (appends : AtMostAppends path line trace) {cut : List Exchange}
    (stopped : cut <+: trace) : AtMostAppends path line cut := by
  rcases stopped with ⟨rest, rfl⟩
  rcases appends with ⟨front, back, changes, emptying, last⟩
  have part : changesAt path cut <+: front ++ back :=
    ⟨changesAt path rest, by rw [← changesAt_append, changes]⟩
  have early : changesAt path cut <+: front → AtMostAppends path line cut := fun inside =>
    ⟨_, [], (List.append_nil _).symm,
      fun exchange member => emptying exchange (inside.subset member), .inl rfl⟩
  rcases last with rfl | rfl
  · rw [List.append_nil] at part
    exact early part
  · rcases List.prefix_concat_iff.mp part with whole | inside
    · exact ⟨front, _, whole, emptying, .inr rfl⟩
    · exact early inside

/-- With the line among its exchanges, the run left it behind the old text or alone. -/
theorem text_of_mem (appends : AtMostAppends path line trace) (text : Option String)
    (member : appending path line ∈ trace) :
    ∃ base, (base = text.getD "" ∨ base = "") ∧
      (textAfter path text trace).getD "" = base ++ line ++ "\n" := by
  rcases appends with ⟨front, back, changes, emptying, last⟩
  have listed := (appending_mem_changesAt_iff _ _ _).mpr member
  rw [changes, List.mem_append] at listed
  have behind : appending path line ∈ back := by
    refine listed.resolve_left fun impossible => ?_
    cases emptying _ impossible
  rcases last with rfl | rfl
  · cases behind
  refine ⟨_, textAfter_emptied emptying text, ?_⟩
  rw [← textAfter_changesAt, changes, textAfter_append]
  simp [appending, Exchange.applyTo]

/-- Without the line among its exchanges, the run left the old text or none. -/
theorem text_of_not_mem (appends : AtMostAppends path line trace) (text : Option String)
    (absent : appending path line ∉ trace) :
    (textAfter path text trace).getD "" = text.getD "" ∨
      (textAfter path text trace).getD "" = "" := by
  rcases appends with ⟨front, back, changes, emptying, last⟩
  rw [← textAfter_changesAt, changes]
  rcases last with rfl | rfl
  · rw [List.append_nil]
    exact textAfter_emptied emptying text
  · refine absurd ((appending_mem_changesAt_iff _ _ _).mp ?_) absent
    rw [changes]
    exact List.mem_append_right front List.mem_cons_self

/-- In a file that was empty there is a text exactly if the line was appended. -/
theorem mem_iff_text_ne (appends : AtMostAppends path line trace) :
    appending path line ∈ trace ↔ (textAfter path none trace).getD "" ≠ "" := by
  constructor
  · intro member empty
    rcases appends.text_of_mem none member with ⟨base, _, text⟩
    have feed := congrArg String.toList (text.symm.trans empty)
    simp at feed
  · intro text
    refine Classical.byContradiction fun absent => text ?_
    exact (appends.text_of_not_mem none absent).elim id id

end AtMostAppends

end ModelRuns
