import ModelRuns.Program.Request

namespace ModelRuns

/-!
# Programs

A program is done with a value, or asks a request and goes on with the answer.
It is a value without effects of its own, so that every order of answers,
failures included, can be considered.  `Program.run` lets a state answer;
`Program.perform` lets the world outside answer.

Programs form a lawful monad.
-/

/-- A computation that asks requests. -/
inductive Program (α : Type) : Type
  | done (value : α)
  | ask (request : Request) (next : request.Answer → Program α)

namespace Program

variable {α β γ σ : Type}

/-- Go on with the value of a program. -/
def bind (program : Program α) (next : α → Program β) : Program β :=
  match program with
  | .done value => next value
  | .ask request rest => .ask request (fun answer => (rest answer).bind next)

instance : Monad Program where
  pure := .done
  bind := bind

def request (asked : Request) : Program asked.Answer := .ask asked .done

def run (answer : (asked : Request) → σ → asked.Answer × σ) : Program α → σ → α × σ
  | .done value, state => (value, state)
  | .ask asked next, state =>
    let (reply, state) := answer asked state
    (next reply).run answer state

def perform {m : Type → Type} [Monad m] (answer : (asked : Request) → m asked.Answer) :
    Program α → m α
  | .done value => pure value
  | .ask asked next => do
    let reply ← answer asked
    (next reply).perform answer

/-! ## Laws -/

@[simp] theorem pure_eq (value : α) : (pure value : Program α) = .done value := rfl

@[simp] theorem bind_eq (program : Program α) (next : α → Program β) :
    program >>= next = program.bind next := rfl

@[simp] theorem done_bind (value : α) (next : α → Program β) :
    (Program.done value).bind next = next value := rfl

@[simp] theorem ask_bind (asked : Request) (rest : asked.Answer → Program α)
    (next : α → Program β) :
    (Program.ask asked rest).bind next = .ask asked (fun answer => (rest answer).bind next) := rfl

theorem bind_done (program : Program α) : program.bind .done = program := by
  induction program with
  | done value => rfl
  | ask asked rest inductionHypothesis => simp [inductionHypothesis]

theorem bind_assoc (program : Program α) (next : α → Program β) (after : β → Program γ) :
    (program.bind next).bind after = program.bind fun value => (next value).bind after := by
  induction program with
  | done value => rfl
  | ask asked rest inductionHypothesis => simp [inductionHypothesis]

instance : LawfulMonad Program :=
  LawfulMonad.mk' Program
    (fun program => bind_done program)
    (fun _ _ => rfl)
    (fun program next after => bind_assoc program next after)

end Program

end ModelRuns
