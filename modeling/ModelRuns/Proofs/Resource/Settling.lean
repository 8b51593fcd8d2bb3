import ModelRuns.Proofs.Resource.Looks
import ModelRuns.Proofs.Trace.Texts

namespace ModelRuns

/-!
# How waiting ends

What waiting for a resource comes to is decided by what the looks at it find, in
their order: the first look that finds an end, good or bad, is the last one, and
without one among those allowed the waiting is given up.  What is found is an
arbitrary stream here, and so is the clock that the pauses are taken from.

Each look that finds no end is followed by one pause.  So the number of pauses
says at which look the waiting stands, and the course of a whole wait follows by
induction on the looks that remain.
-/

/-! ## Looks and pauses of a trace -/

/-- The exchange looks at a resource. -/
def Exchange.isLook (exchange : Exchange) : Bool :=
  match exchange.asked with
  | .api (.get _ _) => true
  | _ => false

/-- The exchange waits until an instant. -/
def Exchange.isPause (exchange : Exchange) : Bool :=
  match exchange.asked with
  | .sleepUntil _ => true
  | _ => false

/-- The number of looks in a trace. -/
def lookCount (trace : List Exchange) : Nat := trace.countP Exchange.isLook

/-- The number of pauses in a trace. -/
def pauseCount (trace : List Exchange) : Nat := trace.countP Exchange.isPause

/-- The looks find what a stream of outcomes has for them, one after the other, and the time
is what a clock says at that point of the trace. -/
def Exchange.Finds (stream : Nat → Except Failure Resource) (clock : List Exchange → Instant)
    (earlier : List Exchange) : Exchange → Prop
  | ⟨.api (.get _ _), found⟩ => found = stream (lookCount earlier)
  | ⟨.now, time⟩ => time = clock earlier
  | _ => True

/-- What the service is asked is to look at the resource, and a pause lasts for the interval
from the time that the clock says right before it. -/
def Exchange.Polls (intervalMs : Nat) (id : ResourceId) (query : Option String)
    (clock : List Exchange → Instant) (earlier : List Exchange) : Exchange → Prop
  | ⟨.api request, _⟩ => request = .get id query
  | ⟨.sleepUntil deadline, _⟩ => ∃ before, earlier = before ++ [⟨.now, clock before⟩] ∧
      deadline = ⟨(clock before).nanoseconds + intervalMs * 1000000⟩
  | _ => True

/-! ## What a look finds -/

/-- How waiting ends with what a look finds, if it does: a refusal is passed on, a finished
resource is the result, and a failed job is reported with its message, or with its code if
the message is blank. -/
def ending? (id : ResourceId) : Except Failure Resource → Option (Except Failure Resource)
  | .error failure => some (.error failure)
  | .ok resource =>
    if resource.status.code = 5 then some (.ok resource)
    else if resource.status.code = -1 ∨ resource.status.code = -2 then
      some (.error (.remote id.text
        (if allBlank resource.status.message then
          "remote job ended with status " ++ toString resource.status.code
        else resource.status.message)))
    else none

section

variable {id : ResourceId} {resource : Resource}

theorem ending?_of_finished (ended : resource.status.isFinished = true) :
    ending? id (.ok resource) = some (.ok resource) := by
  have code : resource.status.code = 5 := beq_iff_eq.mp ended
  exact if_pos code

theorem ending?_of_failed (unfinished : resource.status.isFinished = false)
    (ended : resource.status.isFailed = true) :
    ending? id (.ok resource) =
      some (.error (.remote id.text resource.status.failureText)) := by
  have other : resource.status.code ≠ 5 := beq_eq_false_iff_ne.mp unfinished
  have code : resource.status.code = -1 ∨ resource.status.code = -2 := by
    simpa [ResourceStatus.isFailed, ResourceStatus.faultyCode, ResourceStatus.unknownCode]
      using ended
  simp [ending?, other, code, ResourceStatus.failureText]

theorem ending?_of_pending (unfinished : resource.status.isFinished = false)
    (unfailed : resource.status.isFailed = false) : ending? id (.ok resource) = none := by
  have other : resource.status.code ≠ 5 := beq_eq_false_iff_ne.mp unfinished
  have code : ¬(resource.status.code = -1 ∨ resource.status.code = -2) := by
    simpa [ResourceStatus.isFailed, ResourceStatus.faultyCode, ResourceStatus.unknownCode]
      using unfailed
  simp [ending?, other, code]

/-- Only a finished resource ends the waiting well, and it is the one that was found. -/
theorem ending?_eq_ok {found : Except Failure Resource}
    (ends : ending? id found = some (.ok resource)) :
    found = .ok resource ∧ resource.status.code = 5 := by
  cases found with
  | error failure => cases ends
  | ok looked =>
    unfold ending? at ends
    dsimp only at ends
    split at ends
    next code =>
      cases ends
      exact ⟨rfl, code⟩
    next => split at ends <;> cases ends

end

/-! ## The course of a wait -/

/-- The exchanges of a look that finds no end, and of the pause behind it. -/
def pausing (intervalMs : Nat) (id : ResourceId) (query : Option String)
    (stream : Nat → Except Failure Resource) (clock : List Exchange → Instant)
    (earlier : List Exchange) : List Exchange :=
  let look : Exchange := ⟨.api (.get id query), stream (lookCount earlier)⟩
  let time := clock (earlier ++ [look])
  [look, ⟨.now, time⟩, ⟨.sleepUntil (time.after intervalMs), ()⟩]

section

variable {intervalMs : Nat} {id : ResourceId} {query : Option String} {looked left : Nat}
  {stream : Nat → Except Failure Resource} {clock : List Exchange → Instant}
  {earlier trace : List Exchange} {outcome : Except Failure Resource}

theorem polls_pausing :
    Throughout (Exchange.Polls intervalMs id query clock) earlier
      (pausing intervalMs id query stream clock earlier) :=
  ⟨rfl, trivial, ⟨_, rfl, rfl⟩, trivial⟩

/-- A look ends the waiting with what it finds, without a pause, or finds no end. -/
theorem Look.ends_or_pauses (look : Look intervalMs id query looked left trace outcome)
    (finds : Throughout (Exchange.Finds stream clock) earlier trace) :
    (ending? id (stream (lookCount earlier)) = some outcome ∧
        lookCount trace = 1 ∧ pauseCount trace = 0 ∧
        Throughout (Exchange.Polls intervalMs id query clock) earlier trace) ∨
      ∃ rest, trace = pausing intervalMs id query stream clock earlier ++ rest ∧
        ending? id (stream (lookCount earlier)) = none ∧
        (pollResource intervalMs id query (looked + 1) left).Yields rest outcome := by
  cases look with
  | refused failure =>
    have found : Except.error failure = stream (lookCount earlier) := finds.1
    rw [← found]
    exact .inl ⟨rfl, rfl, rfl, rfl, trivial⟩
  | finished resource ended =>
    have found : Except.ok resource = stream (lookCount earlier) := finds.1
    rw [← found]
    exact .inl ⟨ending?_of_finished ended, rfl, rfl, rfl, trivial, trivial⟩
  | failed resource unfinished ended =>
    have found : Except.ok resource = stream (lookCount earlier) := finds.1
    rw [← found]
    exact .inl ⟨ending?_of_failed unfinished ended, rfl, rfl, rfl, trivial, trivial⟩
  | @pending resource unfinished unfailed time rest _ again =>
    have found : Except.ok resource = stream (lookCount earlier) := finds.1
    have read : time = clock (earlier ++ [⟨.api (.get id query), .ok resource⟩]) := finds.2.1
    refine .inr ⟨rest, ?_, ?_, again⟩
    · rw [read]
      unfold pausing
      rw [← found]
      rfl
    · rw [← found]
      exact ending?_of_pending unfinished unfailed

/-- After earlier looks, the waiting goes on for as many pauses as looks find no end.  Either
the next look finds one, or none is left. -/
theorem pollResource_course
    (yields : (pollResource intervalMs id query looked left).Yields trace outcome)
    (finds : Throughout (Exchange.Finds stream clock) earlier trace) :
    Throughout (Exchange.Polls intervalMs id query clock) earlier trace ∧
      (∀ index < pauseCount trace, ending? id (stream (lookCount earlier + index)) = none) ∧
      (pauseCount trace < left ∧ lookCount trace = pauseCount trace + 1 ∧
          ending? id (stream (lookCount earlier + pauseCount trace)) = some outcome ∨
        pauseCount trace = left ∧ lookCount trace = left ∧
          outcome = .error (.timeout id.text)) := by
  induction left generalizing looked earlier trace with
  | zero =>
    rcases (Action.yields_throw_iff _ _ _).mp yields with ⟨rfl, rfl⟩
    refine ⟨trivial, ?_, .inr ⟨rfl, rfl, rfl⟩⟩
    intro index impossible
    cases impossible
  | succ left inductionHypothesis =>
    have look := look_of_yields intervalMs id query looked left trace outcome yields
    rcases look.ends_or_pauses finds with
      ⟨ends, looks, pauses, polls⟩ | ⟨rest, rfl, goesOn, again⟩
    · rw [pauses, looks]
      refine ⟨polls, ?_, .inl ⟨Nat.succ_pos left, rfl, ends⟩⟩
      intro index impossible
      cases impossible
    · rcases (Throughout.append_iff _ _ _).mp finds with ⟨_, later⟩
      rcases inductionHypothesis again later with ⟨polls, before, course⟩
      have looks : lookCount (earlier ++ pausing intervalMs id query stream clock earlier) =
          lookCount earlier + 1 := List.countP_append
      have looksOn : lookCount (pausing intervalMs id query stream clock earlier ++ rest) =
          1 + lookCount rest := List.countP_append
      have pausesOn : pauseCount (pausing intervalMs id query stream clock earlier ++ rest) =
          1 + pauseCount rest := List.countP_append
      rw [looks] at before course
      refine ⟨(Throughout.append_iff _ _ _).mpr ⟨polls_pausing, polls⟩, ?_, ?_⟩
      · intro index within
        rw [pausesOn] at within
        cases index with
        | zero => exact goesOn
        | succ index =>
          have next := before index (by omega)
          rwa [Nat.add_assoc, Nat.add_comm 1 index] at next
      · rw [looksOn, pausesOn]
        rcases course with ⟨within, same, ends⟩ | ⟨all, same, timedOut⟩
        · rw [Nat.add_assoc] at ends
          exact .inl ⟨by omega, by omega, ends⟩
        · exact .inr ⟨by omega, by omega, timedOut⟩

end

/-! ## The whole wait -/

/-- What a wait comes to when its looks find a stream of outcomes. -/
structure Settles (policy : WaitPolicy) (id : ResourceId) (query : Option String)
    (stream : Nat → Except Failure Resource) (clock : List Exchange → Instant)
    (trace : List Exchange) (outcome : Except Failure Resource) : Prop where
  /-- The first look that finds an end, among those allowed, is the last. -/
  ends : ∀ index ending, index < policy.maxPolls →
    (∀ before < index, ending? id (stream before) = none) →
    ending? id (stream index) = some ending →
    lookCount trace = index + 1 ∧ pauseCount trace = index ∧ outcome = ending
  /-- Without one, all looks are made, each with its pause. -/
  givesUp : (∀ index < policy.maxPolls, ending? id (stream index) = none) →
    lookCount trace = policy.maxPolls ∧ pauseCount trace = policy.maxPolls ∧
      outcome = .error (.timeout id.text)
  /-- Nothing but this resource is looked at, and each pause is the interval from its start. -/
  polls : Throughout (Exchange.Polls policy.intervalMs id query clock) [] trace
  /-- Only a finished resource is a result. -/
  finished : ∀ resource, outcome = .ok resource → resource.status.code = 5

/-- Answers to the looks from a stream of outcomes, and times from a clock. -/
def streamedAnswer (stream : Nat → Except Failure Resource) (clock : List Exchange → Instant)
    (earlier : List Exchange) : (asked : Request) → asked.Answer
  | .api (.get _ _) => stream (lookCount earlier)
  | .now => clock earlier
  | asked => asked.granted

theorem finds_of_streamedAnswer (stream : Nat → Except Failure Resource)
    (clock : List Exchange → Instant) (earlier : List Exchange) (exchange : Exchange)
    (answered : exchange.answer = streamedAnswer stream clock earlier exchange.asked) :
    exchange.Finds stream clock earlier := by
  rcases exchange with ⟨asked, answer⟩
  cases asked with
  | api request =>
    cases request with
    | get id query => exact answered
    | _ => trivial
  | now => exact answered
  | _ => trivial

/-- Whatever the looks at a resource find and whatever the clock says, the wait for it comes
to an end, and how it ends is decided by the first look that finds an end. -/
theorem WaitPolicy.await_settles (policy : WaitPolicy) (id : ResourceId) (query : Option String)
    (stream : Nat → Except Failure Resource) (clock : List Exchange → Instant) :
    (∃ trace outcome, (policy.await id query).Yields trace outcome ∧
        Throughout (Exchange.Finds stream clock) [] trace) ∧
      ∀ trace outcome, (policy.await id query).Yields trace outcome →
        Throughout (Exchange.Finds stream clock) [] trace →
        Settles policy id query stream clock trace outcome := by
  constructor
  · rcases Program.exists_runs (streamedAnswer stream clock) (policy.await id query).run [] with
      ⟨trace, outcome, runs, answered⟩
    exact ⟨trace, outcome, runs, answered.mono (finds_of_streamedAnswer stream clock)⟩
  · intro trace outcome yields finds
    rcases pollResource_course yields finds with ⟨polls, before, course⟩
    have start : ∀ index, lookCount [] + index = index := Nat.zero_add
    simp only [start] at before course
    refine ⟨?_, ?_, polls, ?_⟩
    · intro index ending within unended ends
      have notBefore : ¬index < pauseCount trace := by
        intro early
        rw [before index early] at ends
        cases ends
      rcases course with ⟨_, looks, last⟩ | ⟨all, _, _⟩
      · have notBehind : ¬pauseCount trace < index := by
          intro late
          rw [unended _ late] at last
          cases last
        have same : index = pauseCount trace := by omega
        rw [← same] at last looks ⊢
        exact ⟨looks, rfl, Option.some.inj (last.symm.trans ends)⟩
      · exact absurd within (by omega)
    · intro unended
      rcases course with ⟨within, _, last⟩ | ⟨all, looks, timedOut⟩
      · rw [unended _ within] at last
        cases last
      · exact ⟨looks, all, timedOut⟩
    · rintro resource rfl
      rcases course with ⟨_, _, last⟩ | ⟨_, _, timedOut⟩
      · exact (ending?_eq_ok last).2
      · cases timedOut

/-- A dataset as it is found at a look: twice in progress, and finished from then on. -/
def slowDataset (look : Nat) : Except Failure Resource :=
  let found := Resource.finished ⟨.dataset, "5143a51a37203f2cf7000971"⟩
  .ok { found with status := ⟨if look < 2 then 3 else 5, "", 0.0⟩ }

/-- With three looks the last one finds it finished, and with two it is not waited for. -/
theorem WaitPolicy.await_settles_slowDataset (clock : List Exchange → Instant) :
    (∃ trace resource,
      (WaitPolicy.await ⟨10, 3⟩ ⟨.dataset, "5143a51a37203f2cf7000971"⟩ none).Yields trace
        (.ok resource) ∧
      lookCount trace = 3 ∧ pauseCount trace = 2 ∧ resource.status.code = 5) ∧
    ∃ trace,
      (WaitPolicy.await ⟨10, 2⟩ ⟨.dataset, "5143a51a37203f2cf7000971"⟩ none).Yields trace
        (.error (.timeout "dataset/5143a51a37203f2cf7000971")) ∧
      lookCount trace = 2 ∧ pauseCount trace = 2 := by
  constructor
  · rcases WaitPolicy.await_settles ⟨10, 3⟩ ⟨.dataset, "5143a51a37203f2cf7000971"⟩ none slowDataset
      clock with ⟨⟨trace, outcome, yields, finds⟩, settles⟩
    have settled := settles trace outcome yields finds
    rcases settled.ends 2 (slowDataset 2) (by decide) (by decide) rfl with ⟨looks, pauses, rfl⟩
    exact ⟨trace, _, yields, looks, pauses, settled.finished _ rfl⟩
  · rcases WaitPolicy.await_settles ⟨10, 2⟩ ⟨.dataset, "5143a51a37203f2cf7000971"⟩ none slowDataset
      clock with ⟨⟨trace, outcome, yields, finds⟩, settles⟩
    rcases (settles trace outcome yields finds).givesUp (by decide) with ⟨looks, pauses, rfl⟩
    exact ⟨trace, yields, looks, pauses⟩

end ModelRuns
