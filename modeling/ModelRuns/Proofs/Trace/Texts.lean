import ModelRuns.Proofs.Trace.Runs

namespace ModelRuns

/-!
# Texts of files along a trace

A trace tells what becomes of a file: each request that writes to it and is
answered with success changes its text, and a request that fails changes nothing.
Two spellings of a path name the same file.

`Reports` says that the answers about files are those of files with given texts
at the start.  It leaves open which requests fail, except that a file that is
there can be read.
-/

namespace Exchange

/-- The text of a file after an exchange; there is none when there is no file. -/
def applyTo (path : Path) (text : Option String) : Exchange → Option String
  | ⟨.file (.write target written), .ok ()⟩ =>
    if target.same path then some written else text
  | ⟨.file (.append target line), .ok ()⟩ =>
    if target.same path then some (text.getD "" ++ line ++ "\n") else text
  | ⟨.file (.truncate target), .ok ()⟩ => if target.same path then some "" else text
  | ⟨.file (.remove target), .ok ()⟩ => if target.same path then none else text
  | _ => text

end Exchange

/-- The text of a file after a trace. -/
def textAfter (path : Path) (text : Option String) (trace : List Exchange) : Option String :=
  trace.foldl (fun text exchange => exchange.applyTo path text) text

@[simp] theorem textAfter_nil (path : Path) (text : Option String) :
    textAfter path text [] = text := rfl

@[simp] theorem textAfter_cons (path : Path) (text : Option String) (exchange : Exchange)
    (trace : List Exchange) :
    textAfter path text (exchange :: trace) =
      textAfter path (exchange.applyTo path text) trace := rfl

theorem textAfter_append (path : Path) (text : Option String) (front back : List Exchange) :
    textAfter path text (front ++ back) = textAfter path (textAfter path text front) back :=
  List.foldl_append

@[simp] theorem Path.same_self (path : Path) : path.same path = true := by
  simp [Path.same]

/-- A resource whose job is done, with nothing said about it. -/
def Resource.finished (id : ResourceId) : Resource :=
  ⟨id, ⟨ResourceStatus.finishedCode, "", 1.0⟩, .null⟩

/-- The exchange tells the truth about files that began with the given texts. -/
def Exchange.Reports (files : Path → Option String) (earlier : List Exchange) :
    Exchange → Prop
  | ⟨.file (.read path), answer⟩ =>
    ∀ text, textAfter path (files path) earlier = some text → answer = .ok text
  | ⟨.file (.fileExists path), answer⟩ =>
    answer = (textAfter path (files path) earlier).isSome
  | _ => True

/-- The answer that grants a request.  What the service knows and what files hold
is left open by it. -/
def Request.granted : (asked : Request) → asked.Answer
  | .file (.read _) => .ok ""
  | .file (.write _ _) => .ok ()
  | .file (.append _ _) => .ok ()
  | .file (.truncate _) => .ok ()
  | .file (.makeDirectory _) => .ok ()
  | .file (.remove _) => .ok ()
  | .file (.list _) => .ok []
  | .file (.fileExists _) => true
  | .api (.create creation) => .ok (Resource.finished ⟨creation.kind, ""⟩)
  | .api (.get id _) => .ok (Resource.finished id)
  | .api (.update id _) => .ok (Resource.finished id)
  | .api (.download _) => .ok ""
  | .api (.uploadReport url _) => .ok url
  | .connect _ => .ok ()
  | .now => ⟨0⟩
  | .sleepUntil _ => ()
  | .printLine _ => .ok ()
  | .printErrorLine _ => .ok ()
  | .printHelp => ()
  | .openRunLog _ _ => .ok ()
  | .note _ => ()

/-- The answer that tells the truth about files, and grants every other request. -/
def reportedAnswer (files : Path → Option String) (earlier : List Exchange) :
    (asked : Request) → asked.Answer
  | .file (.read path) =>
    match textAfter path (files path) earlier with
    | some text => .ok text
    | none => .error (.io "no such file")
  | .file (.fileExists path) => (textAfter path (files path) earlier).isSome
  | asked => asked.granted

theorem reports_of_reportedAnswer (files : Path → Option String) (earlier : List Exchange)
    (exchange : Exchange)
    (answered : exchange.answer = reportedAnswer files earlier exchange.asked) :
    exchange.Reports files earlier := by
  rcases exchange with ⟨asked, answer⟩
  cases asked with
  | file request =>
    cases request with
    | read path =>
      intro text known
      have answered : answer = reportedAnswer files earlier (.file (.read path)) := answered
      rw [answered, reportedAnswer, known]
    | fileExists path => exact answered
    | _ => trivial
  | _ => trivial

/-- The same answers with a clock that shows one time. -/
def timedAnswer (files : Path → Option String) (time : Instant) (earlier : List Exchange) :
    (asked : Request) → asked.Answer
  | .now => time
  | asked => reportedAnswer files earlier asked

theorem reports_of_timedAnswer (files : Path → Option String) (time : Instant)
    (earlier : List Exchange) (exchange : Exchange)
    (answered : exchange.answer = timedAnswer files time earlier exchange.asked) :
    exchange.Reports files earlier := by
  rcases exchange with ⟨asked, answer⟩
  cases asked with
  | now => trivial
  | _ => exact reports_of_reportedAnswer files earlier _ answered

/-- An action can be run against files as they are, with every other request granted. -/
theorem Action.exists_yields {α : Type} (action : Action α) (files : Path → Option String)
    (earlier : List Exchange) :
    ∃ trace outcome, action.Yields trace outcome ∧
      Throughout (Exchange.Reports files) earlier trace := by
  rcases Program.exists_runs (reportedAnswer files) action.run earlier with
    ⟨trace, outcome, runs, answered⟩
  exact ⟨trace, outcome, runs, answered.mono (reports_of_reportedAnswer files)⟩

end ModelRuns
