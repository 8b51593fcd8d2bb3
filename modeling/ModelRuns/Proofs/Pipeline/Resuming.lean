import ModelRuns.Proofs.Pipeline.Obtaining
import ModelRuns.Proofs.Pipeline.Structure

namespace ModelRuns

open Stateful

/-!
# Interrupted runs create what an undisturbed run creates

A run is attempted again and again: first afresh, then resuming, in the same
directory and against the same service.  Calls fail wherever they like.  The
creations of all attempts together are always those an undisturbed run begins
with, in its order, and they are all of them as soon as one attempt has
succeeded.  Nothing is created twice, nothing is skipped, and resuming a run that
has succeeded creates nothing.
-/

/-- Steps that are built alike keep up with each other. -/
theorem RunContext.Parallel.refines {run : RunContext} {invocation : Invocation} {outside : Outside}
    (apart : run.KeepsApart invocation) {α : Type} {start stop : Nat} {related : α → α → Prop}
    {left right : Step α}
    (parallel : run.Parallel invocation start stop related left right) :
    run.Refines invocation outside start stop related left right := by
  induction parallel with
  | pure ordered alike => exact .pure ordered alike
  | fail ordered left right => exact .fail ordered left right
  | bind reflexive first second firstHypothesis secondHypothesis =>
    exact .bind reflexive firstHypothesis secondHypothesis
  | ask ordered asked other finish conclude allowed allowedOther granted =>
    exact .ask ordered asked other finish conclude allowed allowedOther granted
  | askLeft asked finish allowed rest restHypothesis =>
    exact .askLeft asked finish allowed restHypothesis
  | askRight asked finish allowed granted rest restHypothesis =>
    exact .askRight asked finish allowed granted restHypothesis
  | read ordered path input => exact .read apart ordered path input
  | await ordered id => exact .await ordered id
  | meet ordered stage id => exact .meet ordered stage id
  | progress ordered => exact .progress ordered
  | inStage stage body bodyHypothesis => exact .inStage bodyHypothesis
  | obtainOne stage checkpoint creation sent after before =>
    exact .obtainOne apart sent after before
  | obtainMany stage checkpoint creations sent after before =>
    exact .obtainMany apart sent after before

/-! ## Attempts -/

/-- The attempts at a run: all their exchanges, and whether one has succeeded.  The
first attempt is a fresh one, and the others resume. -/
inductive Outside.Attempts (outside : Outside) (run : RunContext) (invocation : Invocation) :
    (succeeded : Bool) → List Exchange → Prop
  | first {trace : List Exchange} {outcome : Except Failure Unit} {after : Progress}
      (goes : Goes (run.runPipeline invocation) (Progress.start false) trace outcome after)
      (agrees : Throughout (outside.Agrees run) [] trace) :
      Attempts outside run invocation outcome.isOk trace
  | again {succeeded : Bool} {earlier trace : List Exchange} {outcome : Except Failure Unit}
      {after : Progress} (attempts : Attempts outside run invocation succeeded earlier)
      (goes : Goes (run.runPipeline invocation) (Progress.start true) trace outcome after)
      (agrees : Throughout (outside.Agrees run) earlier trace) :
      Attempts outside run invocation (succeeded || outcome.isOk) (earlier ++ trace)

/-- What attempts have created lies within what the undisturbed run creates, and is
all of it once one has succeeded. -/
structure Reached (done held : List Entry) (succeeded : Bool) (result : Except Failure Unit) :
    Prop where
  inside : held <+: done
  complete : succeeded = true → held = done ∧ result.isOk = true

theorem Reached.next {done held made : List Entry} {succeeded : Bool} {resuming : Bool}
    {result outcome : Except Failure Unit} {last after : Progress}
    (reached : Reached done held succeeded result)
    (follows : Follows Eq resuming held made done last result outcome after) :
    Reached done (held ++ made) (succeeded || outcome.isOk) result := by
  cases follows with
  | done same alike abreast inStep tookUp =>
    have whole : held ++ made = done := by
      rcases inStep with ⟨stillResuming, passed⟩ | ⟨_, level⟩
      · rw [(tookUp stillResuming).2, List.append_nil] at passed ⊢
        exact (passed.eq_of_length_le reached.inside.length_le).symm
      · exact level
    subst same
    exact ⟨whole ▸ List.prefix_rfl, fun _ => ⟨whole, rfl⟩⟩
  | failed within =>
    have inside : held ++ made <+: done := by
      rcases within with rfl | within
      · rw [List.append_nil]
        exact reached.inside
      · exact within
    refine ⟨inside, fun succeeded => ?_⟩
    rw [Except.isOk, Except.toBool, Bool.or_false] at succeeded
    rcases reached.complete succeeded with ⟨rfl, ok⟩
    exact ⟨inside.eq_of_length_le (by simp), ok⟩

section

variable {outside : Outside} {run : RunContext} {invocation : Invocation} {done : List Entry}
  {last after : Progress} {result outcome : Except Failure Unit} {trace : List Exchange}
  (keepsUp : run.KeepsUp invocation outside Eq (run.runPipeline invocation) [] done
    (Progress.start false) last result)

include keepsUp

/-- A first attempt follows the undisturbed run. -/
theorem RunContext.KeepsUp.first
    (goes : Goes (run.runPipeline invocation) (Progress.start false) trace outcome after)
    (agrees : Throughout (outside.Agrees run) [] trace) :
    ∃ made, run.Journal invocation trace made ∧
      Follows Eq false [] made done last result outcome after :=
  keepsUp [] [] _ _ _ _ .nil trivial ⟨rfl, rfl⟩ goes agrees (.inr ⟨rfl, rfl⟩)
    (.inl List.nil_prefix)

/-- So does an attempt that takes up what was created within that. -/
theorem RunContext.KeepsUp.again {earlier : List Exchange} {held : List Entry}
    (journal : run.Journal invocation earlier held)
    (agreed : Throughout (outside.Agrees run) [] earlier) (inside : held <+: done)
    (goes : Goes (run.runPipeline invocation) (Progress.start true) trace outcome after)
    (agrees : Throughout (outside.Agrees run) earlier trace) :
    ∃ made, run.Journal invocation trace made ∧
      Follows Eq true held made done last result outcome after :=
  keepsUp _ _ (Progress.start true) _ _ _ journal agreed ⟨rfl, rfl⟩ goes agrees
    (.inl ⟨rfl, List.nil_prefix⟩) (.inl inside)

/-- However often a run is attempted, it creates what the undisturbed run creates. -/
theorem Outside.Attempts.reached {succeeded : Bool}
    (attempts : outside.Attempts run invocation succeeded trace) :
    ∃ held, run.Journal invocation trace held ∧ Throughout (outside.Agrees run) [] trace ∧
      Reached done held succeeded result := by
  induction attempts with
  | first goes agrees =>
    rcases keepsUp.first goes agrees with ⟨made, journal, follows⟩
    have start : Reached done [] false result :=
      ⟨List.nil_prefix, fun impossible => nomatch impossible⟩
    exact ⟨made, journal, agrees, start.next follows⟩
  | again _ goes agrees inductionHypothesis =>
    rcases inductionHypothesis with ⟨held, journal, agreed, reached⟩
    rcases keepsUp.again journal agreed reached.inside goes agrees with
      ⟨made, journalMade, follows⟩
    exact ⟨held ++ made, journal.append journalMade,
      (Throughout.append_iff _ _ _).mpr ⟨agreed, agrees⟩, reached.next follows⟩

end

/-- An exchange that asks to create something, whether it succeeds or not. -/
def Exchange.IsCreation (exchange : Exchange) : Prop :=
  ∃ creation, exchange.asked = .api (.create creation)

/-- What a step asks to create, it could have created: the same run could have been answered
with success there. -/
theorem asked_of_created (allowed : Creation → Prop) {outside : Outside} {run : RunContext}
    {step : Step Unit} {position : Progress} {earlier : List Exchange}
    (each : ∀ trace outcome after, Goes step position trace outcome after →
      Throughout (outside.Agrees run) earlier trace → ∀ made ∈ created trace, allowed made.1)
    {trace : List Exchange} {outcome : Except Failure Unit} {after : Progress}
    (goes : Goes step position trace outcome after)
    (agrees : Throughout (outside.Agrees run) earlier trace) {creation : Creation}
    {answer : Except Failure Resource}
    (member : (⟨.api (.create creation), answer⟩ : Exchange) ∈ trace) : allowed creation := by
  rcases List.append_of_mem member with ⟨front, back, rfl⟩
  let resource := Resource.finished (outside.allocate (requested (earlier ++ front) ++ [creation]))
  rcases goes.redirect (outside.reply run) (.ok resource) earlier with
    ⟨later, ⟨result, last⟩, goesOn, undisturbed⟩
  have agreesFront := ((Throughout.append_iff _ _ _).mp agrees).1
  have agreesHere : outside.Agrees run (earlier ++ front)
      ⟨.api (.create creation), .ok resource⟩ := by
    intro given same
    cases same
    rfl
  have agreesLater := undisturbed.mono fun _ _ exchange => Outside.Undisturbed.agrees exchange
  refine each _ result last goesOn
    ((Throughout.append_iff _ _ _).mpr ⟨agreesFront, agreesHere, agreesLater⟩)
    (creation, resource.id) ?_
  rw [created_append]
  exact List.mem_append_right _ List.mem_cons_self

/-- If nothing can be created by a step, however it is answered, then nothing is asked
to be created. -/
theorem not_isCreation_of_created {outside : Outside} {run : RunContext} {step : Step Unit}
    {position : Progress} {earlier : List Exchange}
    (nothing : ∀ trace outcome after, Goes step position trace outcome after →
      Throughout (outside.Agrees run) earlier trace → created trace = [])
    {trace : List Exchange} {outcome : Except Failure Unit} {after : Progress}
    (goes : Goes step position trace outcome after)
    (agrees : Throughout (outside.Agrees run) earlier trace) :
    ∀ exchange ∈ trace, ¬ exchange.IsCreation := by
  rintro ⟨asked, answer⟩ member ⟨creation, rfl⟩
  refine asked_of_created (fun _ => False) ?_ goes agrees member
  intro trace outcome after goes agrees made listed
  rw [nothing trace outcome after goes agrees] at listed
  cases listed

/-- What attempts ask to create is what the undisturbed run creates. -/
theorem Outside.Attempts.exists_entry {outside : Outside} {run : RunContext}
    {invocation : Invocation} {done : List Entry} {last : Progress} {result : Except Failure Unit}
    (keepsUp : run.KeepsUp invocation outside Eq (run.runPipeline invocation) [] done
      (Progress.start false) last result)
    {succeeded : Bool} {trace : List Exchange}
    (attempts : outside.Attempts run invocation succeeded trace) {creation : Creation}
    {answer : Except Failure Resource}
    (member : (⟨.api (.create creation), answer⟩ : Exchange) ∈ trace) :
    ∃ entry ∈ done, entry.creation = creation := by
  let allowed (creation : Creation) : Prop := ∃ entry ∈ done, entry.creation = creation
  have listed : ∀ {succeeded trace}, outside.Attempts run invocation succeeded trace →
      ∀ made ∈ created trace, allowed made.1 := by
    intro succeeded trace attempts made member
    rcases attempts.reached keepsUp with ⟨held, journal, _, reached⟩
    rw [journal.created] at member
    rcases List.mem_map.mp member with ⟨entry, inside, rfl⟩
    exact ⟨entry, reached.inside.subset inside, rfl⟩
  induction attempts with
  | first goes agrees =>
    exact asked_of_created allowed (fun _ _ _ goes agrees => listed (.first goes agrees)) goes
      agrees member
  | again attempts goes agrees inductionHypothesis =>
    rcases List.mem_append.mp member with before | now
    · exact inductionHypothesis before
    · refine asked_of_created allowed (fun _ _ _ goes agrees made inside => ?_) goes agrees now
      refine listed (.again attempts goes agrees) made ?_
      rw [created_append]
      exact List.mem_append_right _ inside

/-- There is an undisturbed run with which every attempt keeps up. -/
theorem Outside.exists_keepsUp (outside : Outside) (run : RunContext) (invocation : Invocation)
    (apart : run.KeepsApart invocation) :
    ∃ whole result last done,
      Goes (run.runPipeline invocation) (Progress.start false) whole result last ∧
      Throughout (outside.Undisturbed run) [] whole ∧ run.Journal invocation whole done ∧
      run.KeepsUp invocation outside Eq (run.runPipeline invocation) [] done
        (Progress.start false) last result := by
  rcases Program.exists_runs (outside.reply run)
    ((run.runPipeline invocation).run.run (Progress.start false)) [] with
    ⟨whole, ⟨result, last⟩, goes, undisturbed⟩
  have parallel : run.Parallel invocation 0 12 Eq (run.runPipeline invocation)
    (run.runPipeline invocation) := .runPipeline
  have steady : Steady (Progress.start false) := ⟨rfl, fun _ impossible => nomatch impossible⟩
  rcases parallel.refines apart [] [] _ _ _ _ .nil (List.forall_mem_nil _) steady goes undisturbed
    with ⟨done, journal, _, keepsUp⟩
  exact ⟨whole, result, last, done, goes, undisturbed, journal, keepsUp⟩

/-- There is an undisturbed run with which every sequence of attempts agrees.  What
the attempts create is what it creates first, and all of it once one of them has
succeeded; the undisturbed run succeeds then as well.  To resume again after that
does not even ask to create anything. -/
theorem Outside.attempts_create_undisturbed (outside : Outside) (run : RunContext)
    (invocation : Invocation) (apart : run.KeepsApart invocation) :
    ∃ whole result last,
      Goes (run.runPipeline invocation) (Progress.start false) whole result last ∧
      Throughout (outside.Undisturbed run) [] whole ∧
      ∀ succeeded trace, outside.Attempts run invocation succeeded trace →
        created trace <+: created whole ∧
        (succeeded = true → result = .ok () ∧ created trace = created whole ∧
          ∀ more outcome after,
            Goes (run.runPipeline invocation) (Progress.start true) more outcome after →
            Throughout (outside.Agrees run) trace more →
            ∀ exchange ∈ more, ¬ exchange.IsCreation) := by
  rcases outside.exists_keepsUp run invocation apart with
    ⟨whole, result, last, done, goes, undisturbed, journal, keepsUp⟩
  refine ⟨whole, result, last, goes, undisturbed, fun succeeded trace attempts => ?_⟩
  rcases attempts.reached keepsUp with ⟨held, journalHeld, _, reached⟩
  rw [journal.created, journalHeld.created]
  refine ⟨reached.inside.map Entry.made, ?_⟩
  rintro rfl
  rcases reached.complete rfl with ⟨rfl, ok⟩
  refine ⟨?_, rfl, fun more outcome after => not_isCreation_of_created ?_⟩
  · cases result with
    | ok value => rfl
    | error failure => cases ok
  · intro more outcome after goesAgain agreesAgain
    rcases (Attempts.again attempts goesAgain agreesAgain).reached keepsUp with
      ⟨all, journalAll, _, reachedAgain⟩
    have whole := journalAll.created
    rw [(reachedAgain.complete rfl).1, created_append, journalHeld.created] at whole
    exact List.self_eq_append_right.mp whole.symm

/-! ## An attempt that breaks down and is taken up again -/

theorem Outside.attempts_first {outside : Outside} {run : RunContext} {invocation : Invocation}
    {succeeded : Bool} (limit : Nat)
    (ended : (outside.attempt run invocation false limit []).2.1.isOk = succeeded) :
    outside.Attempts run invocation succeeded (outside.attempt run invocation false limit []).1 := by
  subst ended
  exact .first (Outside.goes_attempt outside run invocation false limit [])
    (Outside.agrees_attempt outside run invocation false limit [])

theorem Outside.Attempts.next {outside : Outside} {run : RunContext} {invocation : Invocation}
    {earlier : List Exchange} {succeeded : Bool}
    (attempts : outside.Attempts run invocation false earlier) (limit : Nat)
    (ended : (outside.attempt run invocation true limit earlier).2.1.isOk = succeeded) :
    outside.Attempts run invocation succeeded
      (earlier ++ (outside.attempt run invocation true limit earlier).1) := by
  subst ended
  exact .again attempts (Outside.goes_attempt outside run invocation true limit earlier)
    (Outside.agrees_attempt outside run invocation true limit earlier)

/-- The first attempt to find centroids, which breaks down behind the source. -/
def centroidsBrokenOff : List Exchange :=
  (Outside.numbered.attempt centroidRun centroidInvocation false 1 []).1

theorem attempts_centroidsBrokenOff :
    Outside.numbered.Attempts centroidRun centroidInvocation false centroidsBrokenOff :=
  Outside.attempts_first 1 (by decide +kernel)

theorem centroids_takenUp :
    (Outside.numbered.attempt centroidRun centroidInvocation true 3 centroidsBrokenOff).2.1.isOk =
        true ∧
      (created (centroidsBrokenOff ++
        (Outside.numbered.attempt centroidRun centroidInvocation true 3 centroidsBrokenOff).1)).length
          = 3 := by
  decide +kernel

/-- An attempt that breaks down behind the first of three creations, and one that takes
it up, create what the undisturbed run creates. -/
theorem Outside.attempts_create_undisturbed_centroids :
    ∃ whole last first both,
      Goes (centroidRun.runPipeline centroidInvocation) (Progress.start false) whole (.ok ()) last ∧
      Outside.numbered.Attempts centroidRun centroidInvocation false first ∧
      Outside.numbered.Attempts centroidRun centroidInvocation true both ∧
      (created first).length = 1 ∧ (created both).length = 3 ∧
      created first <+: created whole ∧ created both = created whole := by
  rcases Outside.attempts_create_undisturbed Outside.numbered centroidRun centroidInvocation
    centroidRun_keepsApart with ⟨whole, result, last, goes, _, attempts⟩
  have takenUp := attempts_centroidsBrokenOff.next 3 centroids_takenUp.1
  rcases (attempts true _ takenUp).2 rfl with ⟨rfl, same, _⟩
  refine ⟨whole, last, centroidsBrokenOff, _, goes, attempts_centroidsBrokenOff, takenUp, ?_,
    centroids_takenUp.2, (attempts false _ attempts_centroidsBrokenOff).1, same⟩
  decide +kernel

end ModelRuns
