import ModelRuns.Stage

namespace ModelRuns

/-!
# Traces

A trace is the list of the requests a program asks, each with the answer it got.
The answers are arbitrary here: a trace says what a program does when it is
answered in some way, failures included.  Which answers a service or a disk can
give is a condition on the trace, put beside it.

A step of a run keeps a state and may fail.  `Stateful.Goes` relates the states
before and after it and its outcome through a trace.
-/

/-- A request and the answer it got. -/
structure Exchange where
  asked : Request
  answer : asked.Answer

namespace Program

variable {α β : Type}

/-- A program asks the requests of a trace, in its order, and ends with a value. -/
inductive Runs : Program α → List Exchange → α → Prop
  | done (value : α) : Runs (.done value) [] value
  | ask {asked : Request} {next : asked.Answer → Program α} {trace : List Exchange} {value : α}
      (answer : asked.Answer) (rest : Runs (next answer) trace value) :
      Runs (.ask asked next) (⟨asked, answer⟩ :: trace) value

@[simp] theorem runs_done_iff (value result : α) (trace : List Exchange) :
    (Program.done value).Runs trace result ↔ trace = [] ∧ result = value := by
  constructor
  · intro runs
    cases runs
    exact ⟨rfl, rfl⟩
  · rintro ⟨rfl, rfl⟩
    exact .done result

theorem runs_ask_iff (asked : Request) (next : asked.Answer → Program α) (result : α)
    (trace : List Exchange) :
    (Program.ask asked next).Runs trace result ↔
      ∃ answer rest, trace = ⟨asked, answer⟩ :: rest ∧ (next answer).Runs rest result := by
  constructor
  · intro runs
    cases runs with
    | ask answer rest => exact ⟨answer, _, rfl, rest⟩
  · rintro ⟨answer, rest, rfl, runs⟩
    exact .ask answer runs

/-- A trace of two programs in a row is a trace of the first and then one of the
second. -/
theorem runs_bind_iff (program : Program α) (next : α → Program β) (trace : List Exchange)
    (result : β) :
    (program.bind next).Runs trace result ↔
      ∃ front back value, trace = front ++ back ∧ program.Runs front value ∧
        (next value).Runs back result := by
  induction program generalizing trace with
  | done value =>
    constructor
    · intro runs
      exact ⟨[], trace, value, rfl, .done value, runs⟩
    · rintro ⟨front, back, middle, rfl, first, second⟩
      cases first
      exact second
  | ask asked rest inductionHypothesis =>
    rw [ask_bind, runs_ask_iff]
    constructor
    · rintro ⟨answer, later, rfl, runs⟩
      rcases (inductionHypothesis answer later).mp runs with ⟨front, back, value, rfl, first, second⟩
      exact ⟨⟨asked, answer⟩ :: front, back, value, rfl, .ask answer first, second⟩
    · rintro ⟨front, back, value, rfl, first, second⟩
      rcases (runs_ask_iff asked rest value front).mp first with ⟨answer, later, rfl, runs⟩
      refine ⟨answer, later ++ back, rfl, ?_⟩
      exact (inductionHypothesis answer _).mpr ⟨later, back, value, rfl, runs, second⟩

/-- What a program is answered determines how it ends and what it asks. -/
theorem Runs.eq_of_append {program : Program α} {front other back rest : List Exchange}
    {value result : α} (runs : program.Runs front value) (others : program.Runs other result)
    (same : front ++ back = other ++ rest) : front = other ∧ value = result := by
  induction runs generalizing other with
  | done value =>
    cases others
    exact ⟨rfl, rfl⟩
  | ask answer _ inductionHypothesis =>
    cases others with
    | ask answered later =>
      rw [List.cons_append, List.cons_append, List.cons.injEq] at same
      cases same.1
      rcases inductionHypothesis later same.2 with ⟨rfl, rfl⟩
      exact ⟨rfl, rfl⟩

/-- Two runs of a program that both begin one trace are the same. -/
theorem Runs.eq_of_begin {program : Program α} {front other trace : List Exchange}
    {value result : α} (runs : program.Runs front value) (others : program.Runs other result)
    (begins : front <+: trace) (otherBegins : other <+: trace) : front = other ∧ value = result := by
  rcases begins with ⟨back, rfl⟩
  rcases otherBegins with ⟨rest, same⟩
  exact runs.eq_of_append others same.symm

end Program

/-! ## Conditions on a trace -/

/-- Every exchange of a trace is allowed after the earlier ones. -/
def Throughout (allowed : List Exchange → Exchange → Prop) :
    (earlier trace : List Exchange) → Prop
  | _, [] => True
  | earlier, exchange :: rest =>
    allowed earlier exchange ∧ Throughout allowed (earlier ++ [exchange]) rest

namespace Throughout

variable {allowed permitted : List Exchange → Exchange → Prop}

theorem append_iff (earlier front back : List Exchange) :
    Throughout allowed earlier (front ++ back) ↔
      Throughout allowed earlier front ∧ Throughout allowed (earlier ++ front) back := by
  induction front generalizing earlier with
  | nil => simp [Throughout]
  | cons exchange rest inductionHypothesis =>
    simp only [List.cons_append, Throughout, inductionHypothesis, and_assoc,
      List.append_assoc, List.nil_append]

theorem mono (weaker : ∀ earlier exchange, allowed earlier exchange → permitted earlier exchange)
    {earlier trace : List Exchange} (throughout : Throughout allowed earlier trace) :
    Throughout permitted earlier trace := by
  induction trace generalizing earlier with
  | nil => trivial
  | cons exchange rest inductionHypothesis =>
    exact ⟨weaker earlier exchange throughout.1, inductionHypothesis throughout.2⟩

theorem forall_mem {holds : Exchange → Prop}
    (each : ∀ earlier exchange, allowed earlier exchange → holds exchange)
    {earlier trace : List Exchange} (throughout : Throughout allowed earlier trace) :
    ∀ exchange ∈ trace, holds exchange := by
  induction trace generalizing earlier with
  | nil => exact List.forall_mem_nil _
  | cons exchange rest inductionHypothesis =>
    exact List.forall_mem_cons.mpr
      ⟨each earlier exchange throughout.1, inductionHypothesis throughout.2⟩

end Throughout

namespace Program

variable {α : Type}

/-- Run a program against answers that may depend on all earlier exchanges, and keep
its trace. -/
def record (reply : List Exchange → (asked : Request) → asked.Answer) :
    Program α → List Exchange → List Exchange × α
  | .done value, _ => ([], value)
  | .ask asked next, earlier =>
    let answer := reply earlier asked
    let rest := (next answer).record reply (earlier ++ [⟨asked, answer⟩])
    (⟨asked, answer⟩ :: rest.1, rest.2)

theorem runs_record (reply : List Exchange → (asked : Request) → asked.Answer)
    (program : Program α) (earlier : List Exchange) :
    program.Runs (program.record reply earlier).1 (program.record reply earlier).2 := by
  induction program generalizing earlier with
  | done value => exact .done value
  | ask asked next inductionHypothesis => exact .ask _ (inductionHypothesis _ _)

/-- What answers a program determines how it runs. -/
theorem Runs.eq_record {reply : List Exchange → (asked : Request) → asked.Answer}
    {program : Program α} {earlier trace : List Exchange} {value : α}
    (runs : program.Runs trace value)
    (answered : Throughout (fun earlier exchange => exchange.answer = reply earlier exchange.asked)
      earlier trace) : program.record reply earlier = (trace, value) := by
  induction runs generalizing earlier with
  | done value => rfl
  | @ask asked next trace value answer rest inductionHypothesis =>
    rcases answered with ⟨replied, later⟩
    have same : reply earlier asked = answer := replied.symm
    rw [record, same, inductionHypothesis later]

theorem throughout_record (reply : List Exchange → (asked : Request) → asked.Answer)
    (program : Program α) (earlier : List Exchange) :
    Throughout (fun earlier exchange => exchange.answer = reply earlier exchange.asked)
      earlier (program.record reply earlier).1 := by
  induction program generalizing earlier with
  | done value => trivial
  | ask asked next inductionHypothesis => exact ⟨rfl, inductionHypothesis _ _⟩

/-- At any point of a run another answer could have been given, and others after
it. -/
theorem Runs.redirect (reply : List Exchange → (asked : Request) → asked.Answer)
    {program : Program α} {front back : List Exchange} {asked : Request} {answer : asked.Answer}
    {value : α} (runs : program.Runs (front ++ ⟨asked, answer⟩ :: back) value)
    (other : asked.Answer) (earlier : List Exchange) :
    ∃ later result, program.Runs (front ++ ⟨asked, other⟩ :: later) result ∧
      Throughout (fun earlier exchange => exchange.answer = reply earlier exchange.asked)
        (earlier ++ front ++ [⟨asked, other⟩]) later := by
  induction front generalizing program earlier with
  | nil =>
    cases runs with
    | @ask _ next _ _ _ _ =>
      exact ⟨_, _, .ask other (runs_record reply (next other) _), throughout_record reply _ _⟩
  | cons exchange front inductionHypothesis =>
    cases runs with
    | ask answered rest =>
      rcases inductionHypothesis rest (earlier ++ [⟨_, answered⟩]) with ⟨later, result, runs, throughout⟩
      rw [List.append_assoc earlier, List.singleton_append] at throughout
      exact ⟨later, result, .ask answered runs, throughout⟩

/-- Whatever answers the requests of a program, there is a trace with its
answers. -/
theorem exists_runs (reply : List Exchange → (asked : Request) → asked.Answer)
    (program : Program α) (earlier : List Exchange) :
    ∃ trace value, program.Runs trace value ∧
      Throughout (fun earlier exchange => exchange.answer = reply earlier exchange.asked)
        earlier trace :=
  ⟨_, _, runs_record reply program earlier, throughout_record reply program earlier⟩

end Program

/-! ## Actions -/

namespace Action

variable {α β : Type}

/-- An action ends with an outcome over a trace. -/
def Yields (action : Action α) (trace : List Exchange) (outcome : Except Failure α) : Prop :=
  action.run.Runs trace outcome

@[simp] theorem yields_pure_iff (value : α) (trace : List Exchange) (outcome : Except Failure α) :
    Yields (pure value) trace outcome ↔ trace = [] ∧ outcome = .ok value := by
  simp [Yields]

@[simp] theorem yields_throw_iff (failure : Failure) (trace : List Exchange)
    (outcome : Except Failure α) :
    Yields (throw failure) trace outcome ↔ trace = [] ∧ outcome = .error failure := by
  simp [Yields]

@[simp] theorem yields_ofExcept_iff (result outcome : Except Failure α) (trace : List Exchange) :
    Yields (ofExcept result) trace outcome ↔ trace = [] ∧ outcome = result := by
  cases result <;> simp [ofExcept]

/-- Two actions in a row: the first fails, or the second goes on from its value. -/
theorem yields_bind_iff (action : Action α) (next : α → Action β) (trace : List Exchange)
    (outcome : Except Failure β) :
    Yields (action >>= next) trace outcome ↔
      (∃ failure, Yields action trace (.error failure) ∧ outcome = .error failure) ∨
      (∃ front back value, trace = front ++ back ∧ Yields action front (.ok value) ∧
        Yields (next value) back outcome) := by
  unfold Yields
  rw [ExceptT.run_bind, Program.bind_eq, Program.runs_bind_iff]
  constructor
  · rintro ⟨front, back, failure | value, rfl, runs, rest⟩
    · have ended : back = [] ∧ outcome = .error failure := by simpa using rest
      rcases ended with ⟨rfl, rfl⟩
      exact .inl ⟨failure, by simpa using runs, rfl⟩
    · exact .inr ⟨front, back, value, rfl, runs, rest⟩
  · rintro (⟨failure, runs, rfl⟩ | ⟨front, back, value, rfl, runs, rest⟩)
    · exact ⟨trace, [], .error failure, by simp, runs, by simp⟩
    · exact ⟨front, back, .ok value, rfl, runs, rest⟩

/-- An action in a row with a value: the first one had a value, and the second went on from it. -/
theorem yields_bind_ok {action : Action α} {next : α → Action β} {trace : List Exchange} {result : β}
    (yields : Yields (action >>= next) trace (.ok result)) :
    ∃ front back value, trace = front ++ back ∧ Yields action front (.ok value) ∧
      Yields (next value) back (.ok result) := by
  rcases (yields_bind_iff _ _ _ _).mp yields with ⟨_, _, impossible⟩ | parts
  · cases impossible
  · exact parts

/-- One request, with what becomes of its answer. -/
def asking (asked : Request) (finish : asked.Answer → Except Failure α) : Action α :=
  ExceptT.mk (.ask asked fun answer => .done (finish answer))

theorem yields_asking_iff (asked : Request) (finish : asked.Answer → Except Failure α)
    (trace : List Exchange) (outcome : Except Failure α) :
    Yields (asking asked finish) trace outcome ↔
      ∃ answer, trace = [⟨asked, answer⟩] ∧ outcome = finish answer := by
  unfold Yields asking
  rw [ExceptT.run_mk, Program.runs_ask_iff]
  constructor
  · rintro ⟨answer, rest, rfl, runs⟩
    rcases (Program.runs_done_iff _ _ _).mp runs with ⟨rfl, rfl⟩
    exact ⟨answer, rfl, rfl⟩
  · rintro ⟨answer, rfl, rfl⟩
    exact ⟨answer, [], rfl, .done _⟩

/-- A request that cannot fail, and what goes on from its answer. -/
theorem yields_asking_bind_iff (asked : Request) (next : asked.Answer → Action α)
    (trace : List Exchange) (outcome : Except Failure α) :
    Yields (asking asked .ok >>= next) trace outcome ↔
      ∃ answer rest, trace = ⟨asked, answer⟩ :: rest ∧ Yields (next answer) rest outcome := by
  rw [yields_bind_iff]
  constructor
  · rintro (⟨failure, failed, _⟩ | ⟨front, back, value, rfl, asked, rest⟩)
    · rcases (yields_asking_iff _ _ _ _).mp failed with ⟨_, _, impossible⟩
      cases impossible
    · rcases (yields_asking_iff _ _ _ _).mp asked with ⟨answer, rfl, given⟩
      cases given
      exact ⟨value, back, rfl, rest⟩
  · rintro ⟨answer, rest, rfl, goesOn⟩
    have replied : Yields (asking asked .ok) [⟨asked, answer⟩] (.ok answer) :=
      (yields_asking_iff _ _ _ _).mpr ⟨answer, rfl, rfl⟩
    exact .inr ⟨[⟨asked, answer⟩], rest, answer, rfl, replied, goesOn⟩

/-- What is recorded of an action is one of its runs. -/
theorem yields_record (reply : List Exchange → (asked : Request) → asked.Answer)
    (action : Action α) (earlier : List Exchange) {outcome : Except Failure α}
    (ended : (action.run.record reply earlier).2 = outcome) :
    Yields action (action.run.record reply earlier).1 outcome := by
  subst ended
  exact Program.runs_record reply action.run earlier

end Action

/-! ## Steps -/

namespace Stateful

variable {σ α β : Type}

/-- A step leads from one state to another, with an outcome, over a trace. -/
def Goes (step : Stateful σ α) (before : σ) (trace : List Exchange)
    (outcome : Except Failure α) (after : σ) : Prop :=
  (step.run.run before).Runs trace (outcome, after)

@[simp] theorem goes_pure_iff (value : α) (before after : σ) (trace : List Exchange)
    (outcome : Except Failure α) :
    Goes (pure value : Stateful σ α) before trace outcome after ↔
      trace = [] ∧ outcome = .ok value ∧ after = before := by
  simp [Goes]

@[simp] theorem goes_throw_iff (failure : Failure) (before after : σ) (trace : List Exchange)
    (outcome : Except Failure α) :
    Goes (throw failure : Stateful σ α) before trace outcome after ↔
      trace = [] ∧ outcome = .error failure ∧ after = before := by
  simp [Goes]

/-- Two steps in a row: the first fails, or the second goes on from its value and
its state. -/
theorem goes_bind_iff (step : Stateful σ α) (next : α → Stateful σ β) (before after : σ)
    (trace : List Exchange) (outcome : Except Failure β) :
    Goes (step >>= next) before trace outcome after ↔
      (∃ failure, Goes step before trace (.error failure) after ∧ outcome = .error failure) ∨
      (∃ front back value middle, trace = front ++ back ∧ Goes step before front (.ok value) middle ∧
        Goes (next value) middle back outcome after) := by
  unfold Goes
  rw [ExceptT.run_bind, StateT.run_bind, Program.bind_eq, Program.runs_bind_iff]
  constructor
  · rintro ⟨front, back, ⟨first | value, middle⟩, rfl, runs, rest⟩
    · have ended : back = [] ∧ (outcome, after) = (.error first, middle) := by simpa using rest
      rcases ended with ⟨rfl, same⟩
      cases same
      exact .inl ⟨first, by simpa using runs, rfl⟩
    · exact .inr ⟨front, back, value, middle, rfl, runs, rest⟩
  · rintro (⟨failure, runs, rfl⟩ | ⟨front, back, value, middle, rfl, runs, rest⟩)
    · exact ⟨trace, [], (.error failure, after), by simp, runs, by simp⟩
    · exact ⟨front, back, (.ok value, middle), rfl, runs, rest⟩

/-- A step whose value is changed by a function. -/
theorem goes_map_iff (step : Stateful σ α) (change : α → β) (before after : σ)
    (trace : List Exchange) (outcome : Except Failure β) :
    Goes (step >>= fun value => pure (change value)) before trace outcome after ↔
      ∃ first, outcome = first.map change ∧ Goes step before trace first after := by
  rw [goes_bind_iff]
  constructor
  · rintro (⟨failure, goes, rfl⟩ | ⟨front, back, value, middle, rfl, goes, rest⟩)
    · exact ⟨.error failure, rfl, goes⟩
    · rcases (goes_pure_iff _ _ _ _ _).mp rest with ⟨rfl, rfl, rfl⟩
      rw [List.append_nil]
      exact ⟨.ok value, rfl, goes⟩
  · rintro ⟨failure | value, rfl, goes⟩
    · exact .inl ⟨failure, goes, rfl⟩
    · exact .inr ⟨trace, [], value, after, (List.append_nil trace).symm, goes,
        (goes_pure_iff _ _ _ _ _).mpr ⟨rfl, rfl, rfl⟩⟩

section

variable {step : Stateful σ α} {before after : σ} {trace : List Exchange} {result : β}

/-- Two steps in a row with a value: the first one had a value, and the second went on from
it. -/
theorem goes_bind_ok {next : α → Stateful σ β}
    (goes : Goes (step >>= next) before trace (.ok result) after) :
    ∃ front back value middle, trace = front ++ back ∧
      Goes step before front (.ok value) middle ∧ Goes (next value) middle back (.ok result) after := by
  rcases (goes_bind_iff _ _ _ _ _ _).mp goes with ⟨_, _, impossible⟩ | parts
  · cases impossible
  · exact parts

theorem goes_map_ok (change : α → β)
    (goes : Goes (step >>= fun value => pure (change value)) before trace (.ok result) after) :
    ∃ value, result = change value ∧ Goes step before trace (.ok value) after := by
  rcases (goes_map_iff _ change _ _ _ _).mp goes with ⟨failure | value, same, going⟩
  · cases same
  · exact ⟨value, Except.ok.inj same, going⟩

end

/-- An action leaves the state alone. -/
@[simp] theorem goes_act_iff (action : Action α) (before after : σ) (trace : List Exchange)
    (outcome : Except Failure α) :
    Goes (act action : Stateful σ α) before trace outcome after ↔
      action.Yields trace outcome ∧ after = before := by
  unfold Goes act Action.Yields
  rw [ExceptT.run_mk, StateT.run_lift, Program.bind_eq, Program.runs_bind_iff]
  constructor
  · rintro ⟨front, back, result, rfl, runs, rest⟩
    have ended : back = [] ∧ outcome = result ∧ after = before := by simpa using rest
    rcases ended with ⟨rfl, rfl, rfl⟩
    exact ⟨by simpa using runs, rfl⟩
  · rintro ⟨runs, rfl⟩
    exact ⟨trace, [], outcome, by simp, runs, by simp⟩

theorem goes_asking_iff (asked : Request) (finish : asked.Answer → Except Failure α)
    (before after : σ) (trace : List Exchange) (outcome : Except Failure α) :
    Goes (act (Action.asking asked finish) : Stateful σ α) before trace outcome after ↔
      ∃ answer, trace = [⟨asked, answer⟩] ∧ outcome = finish answer ∧ after = before := by
  rw [goes_act_iff, Action.yields_asking_iff]
  constructor
  · rintro ⟨⟨answer, listed, finished⟩, same⟩
    exact ⟨answer, listed, finished, same⟩
  · rintro ⟨answer, listed, finished, same⟩
    exact ⟨⟨answer, listed, finished⟩, same⟩

@[simp] theorem goes_get_iff (before after : σ) (trace : List Exchange)
    (outcome : Except Failure σ) :
    Goes (get : Stateful σ σ) before trace outcome after ↔
      trace = [] ∧ outcome = .ok before ∧ after = before := by
  change (Program.done (Except.ok before, before)).Runs trace (outcome, after) ↔ _
  simp

@[simp] theorem goes_modify_iff (change : σ → σ) (before after : σ) (trace : List Exchange)
    (outcome : Except Failure Unit) :
    Goes (modify change : Stateful σ Unit) before trace outcome after ↔
      trace = [] ∧ outcome = .ok () ∧ after = change before := by
  change (Program.done (Except.ok (), change before)).Runs trace (outcome, after) ↔ _
  simp

/-- An attempt succeeds with whatever the outcome of the step is. -/
@[simp] theorem goes_attempt_iff (step : Stateful σ α) (before after : σ) (trace : List Exchange)
    (outcome : Except Failure (Except Failure α)) :
    Goes (attempt step) before trace outcome after ↔
      ∃ result, outcome = .ok result ∧ Goes step before trace result after := by
  unfold Goes attempt
  rw [ExceptT.run_lift, StateT.run_map, ← bind_pure_comp, Program.bind_eq, Program.runs_bind_iff]
  constructor
  · rintro ⟨front, back, ⟨result, middle⟩, rfl, runs, rest⟩
    have ended : back = [] ∧ outcome = .ok result ∧ after = middle := by simpa using rest
    rcases ended with ⟨rfl, rfl, rfl⟩
    exact ⟨result, rfl, by simpa using runs⟩
  · rintro ⟨result, rfl, runs⟩
    exact ⟨trace, [], (result, after), by simp, runs, by simp⟩

/-! ## Actions as steps -/

theorem act_pure (value : α) : (act (pure value) : Stateful σ α) = pure value := rfl

theorem act_bind (action : Action α) (next : α → Action β) :
    (act (action >>= next) : Stateful σ β) = act action >>= fun value => act (next value) := by
  apply ExceptT.ext
  apply StateT.ext
  intro state
  simp only [act, ExceptT.run_mk, ExceptT.run_bind, StateT.run_lift, StateT.run_bind, bind_assoc]
  congr 1
  funext result
  cases result <;> simp

/-! ## Steps against given answers -/

/-- A step from a state, run against answers that may depend on all earlier exchanges. -/
def recorded (reply : List Exchange → (asked : Request) → asked.Answer) (step : Stateful σ α)
    (before : σ) (earlier : List Exchange) : List Exchange × Except Failure α × σ :=
  (step.run.run before).record reply earlier

/-- What is recorded of a step is one of its runs. -/
theorem goes_recorded (reply : List Exchange → (asked : Request) → asked.Answer)
    (step : Stateful σ α) (before : σ) (earlier : List Exchange) {outcome : Except Failure α}
    (ended : (recorded reply step before earlier).2.1 = outcome) :
    Goes step before (recorded reply step before earlier).1 outcome
      (recorded reply step before earlier).2.2 := by
  subst ended
  exact Program.runs_record reply _ earlier

theorem throughout_recorded {allowed : List Exchange → Exchange → Prop}
    {reply : List Exchange → (asked : Request) → asked.Answer}
    (answers : ∀ earlier exchange, exchange.answer = reply earlier exchange.asked →
      allowed earlier exchange)
    (step : Stateful σ α) (before : σ) (earlier : List Exchange) :
    Throughout allowed earlier (recorded reply step before earlier).1 :=
  (Program.throughout_record reply _ earlier).mono answers

end Stateful

end ModelRuns
