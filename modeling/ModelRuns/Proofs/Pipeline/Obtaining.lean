import ModelRuns.Proofs.Command.Resumable
import ModelRuns.Proofs.Pipeline.Refinement

namespace ModelRuns

open Stateful

/-!
# Obtaining resources beside the undisturbed run

The undisturbed run creates every resource it obtains.  An attempt takes up those
whose identifiers stand in the checkpoint and creates the rest.  What is held is
either a front part of what the undisturbed run has created when it comes to this
checkpoint, or goes beyond it; in both cases the identifiers in the checkpoint
are the first of those the undisturbed run creates here.
-/

/-! ## Reading a checkpoint -/

namespace Checkpoint

variable {output : Path} {checkpoint : Checkpoint}

/-- A missing checkpoint reads like an empty one. -/
theorem read_eq : read output checkpoint =
    readIfThere (path output checkpoint) >>= fun text =>
      Action.ofExcept (ofText (path output checkpoint) text) := by
  unfold read readIfThere
  rw [bind_assoc]
  dsimp only
  congr 1
  funext present
  cases present <;> rfl

/-- Reading a checkpoint gives the identifiers of its text. -/
theorem yields_read {files : Path → Option String} {earlier trace : List Exchange}
    {outcome : Except Failure (List ResourceId)}
    (yields : (read output checkpoint).Yields trace outcome)
    (reports : Throughout (Exchange.Reports files) earlier trace) :
    outcome = ofText (path output checkpoint) ((textAfter (path output checkpoint)
      (files (path output checkpoint)) earlier).getD "") := by
  rw [read_eq] at yields
  rcases (Action.yields_bind_iff _ _ _ _).mp yields with
    ⟨failure, failed, _⟩ | ⟨front, back, text, rfl, first, rest⟩
  · cases (Action.yields_readIfThere _ _ failed reports).1
  · have reportsFirst := ((Throughout.append_iff _ _ _).mp reports).1
    cases (Action.yields_readIfThere _ _ first reportsFirst).1
    exact ((Action.yields_ofExcept_iff _ _ _).mp rest).2

end Checkpoint

section

variable {run : RunContext} {invocation : Invocation} {outside : Outside} {checkpoint : Checkpoint}

/-- A checkpoint gives back the identifiers that were recorded in it. -/
theorem yields_readCheckpoint {earlier trace : List Exchange}
    {outcome : Except Failure (List ResourceId)} (ids : List ResourceId)
    (held : textAfter (Checkpoint.path run.paths.output checkpoint) none earlier =
      Checkpoint.recorded none ids)
    (valid : ∀ id ∈ ids, id.Valid)
    (yields : (Checkpoint.read run.paths.output checkpoint).Yields trace outcome)
    (agrees : Throughout (outside.Agrees run) earlier trace) : outcome = .ok ids := by
  unfold Checkpoint.read at yields
  rcases (Action.yields_asking_bind_iff (.file (.fileExists _)) _ _ _).mp yields with
    ⟨found, back, rfl, rest⟩
  have there : found = (Checkpoint.recorded none ids).isSome := by
    rw [← held]
    exact agrees.1 checkpoint rfl
  cases ids with
  | nil =>
    rw [there] at rest
    exact ((Action.yields_pure_iff _ _ _).mp rest).2
  | cons id others =>
    rw [there] at rest
    rcases (Action.yields_bind_iff _ _ _ _).mp rest with
      ⟨failure, reads, _⟩ | ⟨reading, last, text, rfl, reads, ends⟩
    · rcases (Action.yields_asking_iff (.file (.read _)) (fun answer => answer) _ _).mp reads with
        ⟨answer, rfl, given⟩
      have truth := agrees.2.1.1 checkpoint rfl _ ((textAfter_append _ _ _ _).trans held)
      cases given.trans truth
    · rcases (Action.yields_asking_iff (.file (.read _)) (fun answer => answer) _ _).mp reads with
        ⟨answer, rfl, given⟩
      have truth := agrees.2.1.1 checkpoint rfl _ ((textAfter_append _ _ _ _).trans held)
      cases given.trans truth
      rw [((Action.yields_ofExcept_iff _ _ _).mp ends).2]
      exact Checkpoint.ofText_withFeeds _ _ valid

/-! ## Taking up -/

theorem goes_checkpointMissing {before after : Progress} {trace : List Exchange}
    {outcome : Except Failure Unit}
    (goes : Goes (checkpointMissing : Step Unit) before trace outcome after) :
    after = { before with cursor := { before.cursor with resuming := false } } :=
  (goes_checkpointMissing_iff.mp goes).2.2

/-- A run that does not resume takes nothing up. -/
theorem goes_takeUp_fresh {count : Nat} {before after : Progress} {trace : List Exchange}
    {outcome : Except Failure (List ResourceId)} (fresh : before.cursor.resuming = false)
    (goes : Goes (run.takeUp checkpoint count) before trace outcome after) :
    trace = [] ∧ outcome = .ok [] ∧ after = before := by
  unfold RunContext.takeUp at goes
  rw [goes_cursor_bind_iff] at goes
  simp only [fresh, Bool.false_eq_true, if_false] at goes
  exact (goes_pure_iff _ _ _ _ _).mp goes

/-- A run that resumes takes up the first identifiers that it reads from a checkpoint,
and ends resuming if there are too few. -/
theorem goes_takeUp_reads (invocation : Invocation) {count : Nat} {before after : Progress}
    {trace : List Exchange} {known : List ResourceId} (resuming : before.cursor.resuming = true)
    (goes : Goes (run.takeUp checkpoint count) before trace (.ok known) after) :
    ∃ front back ids, trace = front ++ back ∧
      (Checkpoint.read run.paths.output checkpoint).Yields front (.ok ids) ∧
      known = ids.take count ∧
      after = { before with
        cursor := { before.cursor with resuming := decide (count ≤ known.length) } } := by
  unfold RunContext.takeUp at goes
  rw [goes_cursor_bind_iff] at goes
  simp only [resuming, if_true] at goes
  rcases (goes_bind_iff _ _ _ _ _ _).mp goes with
    ⟨failure, _, impossible⟩ | ⟨front, back, ids, middle, rfl, reads, rest⟩
  · cases impossible
  rcases (goes_act_iff _ _ _ _ _).mp reads with ⟨yields, rfl⟩
  refine ⟨front, back, ids, rfl, yields, ?_⟩
  rcases (goes_bind_iff _ _ _ _ _ _).mp rest with
    ⟨failure, _, impossible⟩ | ⟨said, later, _, between, rfl, told, ends⟩
  · cases impossible
  have minor : run.Minor invocation ((ids.take count).forM run.sayReusing) := .sayReusing _
  rcases minor _ _ _ _ told with ⟨rfl, _⟩
  by_cases short : (ids.take count).length < count
  · simp only [short, if_true] at ends
    rcases (goes_bind_iff _ _ _ _ _ _).mp ends with
      ⟨failure, _, impossible⟩ | ⟨missing, last, _, reached, rfl, missed, ended⟩
    · cases impossible
    rcases (goes_pure_iff _ _ _ _ _).mp ended with ⟨_, same, rfl⟩
    cases same
    rw [goes_checkpointMissing missed, decide_eq_false (Nat.not_le_of_lt short)]
    exact ⟨rfl, rfl⟩
  · simp only [short, if_false] at ends
    rcases (goes_pure_iff _ _ _ _ _).mp ends with ⟨_, same, rfl⟩
    cases same
    rw [decide_eq_true (Nat.le_of_not_lt short), ← resuming]
    exact ⟨rfl, rfl⟩

/-- An attempt that resumes takes up the first identifiers that were recorded. -/
theorem goes_takeUp_resuming (invocation : Invocation) {count : Nat} {before after : Progress}
    {earlier trace : List Exchange} {known : List ResourceId} (ids : List ResourceId)
    (held : textAfter (Checkpoint.path run.paths.output checkpoint) none earlier =
      Checkpoint.recorded none ids)
    (valid : ∀ id ∈ ids, id.Valid) (resuming : before.cursor.resuming = true)
    (goes : Goes (run.takeUp checkpoint count) before trace (.ok known) after)
    (agrees : Throughout (outside.Agrees run) earlier trace) :
    known = ids.take count ∧
      after = { before with
        cursor := { before.cursor with resuming := decide (count ≤ known.length) } } := by
  rcases goes_takeUp_reads invocation resuming goes with ⟨front, back, read, rfl, yields, taken⟩
  cases yields_readCheckpoint ids held valid yields ((Throughout.append_iff _ _ _).mp agrees).1
  exact taken

/-! ## The undisturbed run -/

/-- What the undisturbed run creates when it obtains resources. -/
structure CreatesAll (outside : Outside) (run : RunContext) (invocation : Invocation)
    (checkpoint : Checkpoint) (creations : List Creation) (listed : List Entry)
    (whole : List Exchange) (done : List Entry) : Prop where
  journal : run.Journal invocation whole done
  placed : ∀ entry ∈ done, entry.checkpoint = checkpoint
  requests : done.map Entry.creation = creations
  allocated : outside.Allocated (listed.map Entry.creation) done

theorem CreatesAll.length {creations : List Creation} {listed done : List Entry}
    {whole : List Exchange}
    (all : CreatesAll outside run invocation checkpoint creations listed whole done) :
    done.length = creations.length := by
  rw [← all.requests, List.length_map]

theorem goes_obtainIds_undisturbed {stage : Stage} {creations : List Creation}
    (sent : ∀ creation ∈ creations, run.Sends invocation checkpoint creation)
    {before whole : List Exchange} {listed : List Entry} {position last : Progress}
    {result : Except Failure (List ResourceId)}
    (journal : run.Journal invocation before listed) (steady : Steady position)
    (goes : Goes (run.obtainIds stage checkpoint creations) position whole result last)
    (undisturbed : Throughout (outside.Undisturbed run) before whole) :
    last = position ∧ ∃ done, CreatesAll outside run invocation checkpoint creations listed whole done ∧
      result = .ok (done.map Entry.id) := by
  have agrees := undisturbed.mono fun _ _ exchange => Outside.Undisturbed.agrees exchange
  rcases (goes_bind_iff _ _ _ _ _ _).mp goes with
    ⟨failure, failed, rfl⟩ | ⟨front, back, known, middle, rfl, took, rest⟩
  · rcases goes_takeUp_fresh steady.fresh failed with ⟨_, impossible, _⟩
    cases impossible
  rcases goes_takeUp_fresh steady.fresh took with ⟨rfl, nothing, rfl⟩
  cases nothing
  rcases (goes_map_iff _ (fun created => [] ++ created) _ _ _ _).mp rest with ⟨made, rfl, creating⟩
  rcases RunContext.goes_createAll sent creating with ⟨rfl, done, creates⟩
  have journalDone := creates.accounts.journal_of_agrees agrees
  have allocated := journalDone.allocated agrees
  rw [journal.requested] at allocated
  cases made with
  | error failure =>
    exact absurd (creates.refused failure rfl) (RunContext.not_refused_of_undisturbed undisturbed)
  | ok ids =>
    rcases creates.complete ids rfl with ⟨rfl, requests⟩
    exact ⟨rfl, done, ⟨journalDone, creates.placed, requests, allocated⟩, rfl⟩

/-! ## What an attempt takes up -/

/-- The identifiers in a checkpoint are the first ones the undisturbed run creates
there, as many as are held. -/
theorem take_idsAt {held listed done : List Entry} (behind : listed <+: held)
    (elsewhere : ∀ entry ∈ listed, entry.checkpoint ≠ checkpoint)
    (placed : ∀ entry ∈ done, entry.checkpoint = checkpoint)
    (within : held <+: listed ++ done ∨ listed ++ done <+: held) :
    ∃ count ≤ done.length,
      (Entry.idsAt checkpoint held).take done.length = (done.take count).map Entry.id ∧
      ((count = done.length ∧ listed ++ done <+: held) ∨
        (count < done.length ∧ held = listed ++ done.take count)) := by
  rcases behind with ⟨ahead, rfl⟩
  rw [Entry.idsAt_append, Entry.idsAt_of_elsewhere elsewhere, List.nil_append]
  rw [List.prefix_append_right_inj, List.prefix_append_right_inj] at within
  by_cases passed : done <+: ahead
  · rcases passed with ⟨beyond, rfl⟩
    refine ⟨done.length, Nat.le_refl _, ?_, .inl ⟨rfl, ?_⟩⟩
    · rw [Entry.idsAt_append, Entry.idsAt_of_placed placed, List.take_left' (by simp),
        List.take_length]
    · exact (List.prefix_append_right_inj listed).mpr (List.prefix_append done beyond)
  · have inside := within.resolve_right passed
    have front := List.prefix_iff_eq_take.mp inside
    have shorter : ahead.length < done.length := by
      apply Nat.lt_of_le_of_ne inside.length_le
      intro same
      exact passed (inside.eq_of_length same ▸ List.prefix_rfl)
    have placedAhead : ∀ entry ∈ ahead, entry.checkpoint = checkpoint := fun entry member =>
      placed entry (inside.subset member)
    refine ⟨ahead.length, Nat.le_of_lt shorter, ?_, .inr ⟨shorter, ?_⟩⟩
    · rw [Entry.idsAt_of_placed placedAhead, ← front]
      exact List.take_of_length_le (by simpa using Nat.le_of_lt shorter)
    · rw [← front]

/-- An attempt takes up the first resources the undisturbed run creates.  It goes on
resuming only if it is past all of them. -/
theorem goes_takeUp_beside (apart : run.KeepsApart invocation) {creations : List Creation}
    {earlier trace whole : List Exchange} {held listed done : List Entry} {here after : Progress}
    {known : List ResourceId}
    (all : CreatesAll outside run invocation checkpoint creations listed whole done)
    (elsewhere : ∀ entry ∈ listed, entry.checkpoint ≠ checkpoint)
    (journal : run.Journal invocation earlier held)
    (agreed : Throughout (outside.Agrees run) [] earlier)
    (goes : Goes (run.takeUp checkpoint creations.length) here trace (.ok known) after)
    (agrees : Throughout (outside.Agrees run) earlier trace)
    (inStep : InStep here.cursor.resuming held listed)
    (within : held <+: listed ++ done ∨ listed ++ done <+: held) :
    ∃ count ≤ creations.length, known = (done.take count).map Entry.id ∧
      Abreast after here ∧
      ((count = creations.length ∧ after.cursor.resuming = true ∧ here.cursor.resuming = true ∧
          listed ++ done <+: held) ∨
        (after.cursor.resuming = false ∧ held = listed ++ done.take count)) := by
  rcases inStep with ⟨resuming, behind⟩ | ⟨fresh, rfl⟩
  · have valid : ∀ id ∈ Entry.idsAt checkpoint held, id.Valid := by
      intro id member
      rcases Entry.mem_of_mem_idsAt member with ⟨entry, listedEntry, _, rfl⟩
      apply Outside.valid_of_agrees agreed entry.made
      rw [journal.created]
      exact List.mem_map_of_mem listedEntry
    rcases goes_takeUp_resuming invocation _ (journal.held apart checkpoint) valid resuming goes
      agrees with ⟨taken, rfl⟩
    rcases take_idsAt behind elsewhere all.placed within with ⟨count, bound, ids, reached⟩
    rw [← all.length, ids] at taken
    have length : known.length = count := by
      rw [taken, List.length_map, List.length_take, Nat.min_eq_left bound]
    rw [all.length] at bound reached
    refine ⟨count, bound, taken, ⟨rfl, rfl⟩, ?_⟩
    rcases reached with ⟨rfl, passed⟩ | ⟨short, level⟩
    · refine .inl ⟨rfl, ?_, resuming, passed⟩
      rw [length]
      exact decide_eq_true (Nat.le_refl _)
    · refine .inr ⟨?_, level⟩
      rw [length]
      exact decide_eq_false (Nat.not_le_of_lt short)
  · rcases goes_takeUp_fresh fresh goes with ⟨_, nothing, rfl⟩
    cases nothing
    exact ⟨0, Nat.zero_le _, rfl, ⟨rfl, rfl⟩, .inr ⟨fresh, (List.append_nil _).symm⟩⟩

/-! ## Obtaining identifiers -/

/-- Once an attempt is level with the undisturbed run, it creates what that creates. -/
theorem creates_level {creations : List Creation} {trace whole : List Exchange}
    {held listed done made : List Entry} {count : Nat}
    {outcome : Except Failure (List ResourceId)} {after last : Progress} {resuming : Bool}
    (all : CreatesAll outside run invocation checkpoint creations listed whole done)
    (level : held = listed ++ done.take count)
    (creates : run.Creates invocation checkpoint (creations.drop count) trace outcome made)
    (allocated : outside.Allocated (held.map Entry.creation) made)
    (abreast : Abreast after last) (ended : after.cursor.resuming = false) :
    Follows Eq resuming held made (listed ++ done) last (.ok (done.map Entry.id))
      (outcome.map fun created => (done.take count).map Entry.id ++ created) after := by
  have split : done.take count ++ done.drop count = done := List.take_append_drop count done
  have requests : (done.drop count).map Entry.creation = creations.drop count := by
    rw [List.map_drop, all.requests]
  have allocatedRest : outside.Allocated (held.map Entry.creation) (done.drop count) := by
    have whole := all.allocated
    rw [← split, Outside.Allocated.append_iff, ← List.map_append, ← level] at whole
    exact whole.2
  have inside : made <+: done.drop count :=
    allocated.prefix_of allocatedRest creates.placed
      (fun entry member => all.placed entry (List.mem_of_mem_drop member))
      (requests ▸ creates.inOrder)
  cases outcome with
  | error failure =>
    refine .failed (.inr ?_)
    rw [level, List.append_assoc, List.prefix_append_right_inj]
    nth_rewrite 2 [← split]
    exact (List.prefix_append_right_inj _).mpr inside
  | ok created =>
    rcases creates.complete created rfl with ⟨rfl, complete⟩
    have length : made.length = (done.drop count).length := by
      have lengths := congrArg List.length (complete.trans requests.symm)
      rwa [List.length_map, List.length_map] at lengths
    have whole : made = done.drop count := inside.eq_of_length length
    subst whole
    have ids : (done.take count).map Entry.id ++ (done.drop count).map Entry.id =
        done.map Entry.id := by
      rw [← List.map_append, split]
    refine .done rfl ids abreast (.inr ⟨ended, ?_⟩) fun resuming => ?_
    · rw [level, List.append_assoc, split]
    · rw [ended] at resuming
      cases resuming

/-- Past what the undisturbed run has created, an attempt creates nothing. -/
theorem creates_nothing {creations : List Creation} {trace : List Exchange}
    {held listed done made : List Entry} {outcome : Except Failure (List ResourceId)}
    {after last : Progress}
    (creates : run.Creates invocation checkpoint (creations.drop creations.length) trace outcome
      made)
    (length : done.length = creations.length) (passed : listed ++ done <+: held)
    (abreast : Abreast after last) (resuming : after.cursor.resuming = true) :
    Follows Eq true held made (listed ++ done) last (.ok (done.map Entry.id))
      (outcome.map fun created => (done.take creations.length).map Entry.id ++ created) after := by
  have nothing : made = [] := by
    have none := creates.inOrder
    rw [List.drop_length, List.prefix_nil, List.map_eq_nil_iff] at none
    exact none
  subst nothing
  cases outcome with
  | error failure => exact .failed (.inl rfl)
  | ok created =>
    rcases creates.complete created rfl with ⟨rfl, _⟩
    refine .done rfl ?_ abreast (.inl ⟨resuming, ?_⟩) fun _ => ⟨rfl, rfl⟩
    · rw [← length, List.take_length]
      exact List.append_nil _
    · rw [List.append_nil]
      exact passed

theorem RunContext.Refines.obtainIds (apart : run.KeepsApart invocation) {start stop : Nat}
    {stage : Stage} {creations : List Creation}
    (sent : ∀ creation ∈ creations, run.Sends invocation checkpoint creation)
    (after : start ≤ checkpoint.turn) (before : checkpoint.turn < stop) :
    run.Refines invocation outside start stop Eq (run.obtainIds stage checkpoint creations)
      (run.obtainIds stage checkpoint creations) := by
  intro earlierWhole listed position whole result last journal turns steady goes undisturbed
  rcases goes_obtainIds_undisturbed sent journal steady goes undisturbed with
    ⟨rfl, done, all, rfl⟩
  refine ⟨done, all.journal, fun _ _ => ⟨steady, ?_⟩, ?_⟩
  · intro entry member
    rcases List.mem_append.mp member with earlier | new
    · exact Nat.lt_of_lt_of_le (turns entry earlier) (Nat.le_of_lt (Nat.lt_of_le_of_lt after before))
    · rw [all.placed entry new]
      exact before
  have elsewhere : ∀ entry ∈ listed, entry.checkpoint ≠ checkpoint := by
    rintro entry member rfl
    exact absurd (turns entry member) (Nat.not_lt_of_le after)
  intro earlier held here trace outcome stopped journalHeld agreed abreast goesLeft agrees inStep within
  have reached : held <+: listed ++ done ∨ listed ++ done <+: held := within.imp_right And.right
  rcases (goes_bind_iff _ _ _ _ _ _).mp goesLeft with
    ⟨failure, failed, rfl⟩ | ⟨front, back, known, middle, rfl, took, rest⟩
  · have quiet : run.Quiet invocation (run.takeUp checkpoint creations.length) := .takeUp _ _
    exact ⟨[], .of_aside (quiet _ _ _ _ failed), .failed (.inl rfl)⟩
  rcases (Throughout.append_iff _ _ _).mp agrees with ⟨agreesFront, agreesBack⟩
  have quiet : run.Journal invocation front [] :=
    .of_aside (RunContext.Quiet.takeUp checkpoint creations.length _ _ _ _ took)
  have journalMiddle := journalHeld.followed quiet
  rcases goes_takeUp_beside apart all elsewhere journalHeld agreed took agreesFront inStep reached with
    ⟨count, bound, rfl, taken, standing⟩
  rcases (goes_map_iff _ (fun created => (done.take count).map Entry.id ++ created) _ _ _ _).mp rest
    with ⟨made, rfl, creating⟩
  have length : ((done.take count).map Entry.id).length = count := by
    rw [List.length_map, List.length_take, all.length, Nat.min_eq_left bound]
  rw [length] at creating
  have remaining : ∀ creation ∈ creations.drop count, run.Sends invocation checkpoint creation :=
    fun creation member => sent creation (List.mem_of_mem_drop member)
  rcases RunContext.goes_createAll remaining creating with ⟨rfl, entries, creates⟩
  have journalMade := creates.accounts.journal_of_agrees agreesBack
  refine ⟨entries, quiet.append journalMade, ?_⟩
  have stillAbreast := taken.trans abreast
  rcases standing with ⟨rfl, stillResuming, resuming, passed⟩ | ⟨ended, level⟩
  · rw [resuming]
    exact creates_nothing creates all.length passed stillAbreast stillResuming
  · have allocated := journalMade.allocated agreesBack
    rw [journalMiddle.requested] at allocated
    exact creates_level all level creates allocated stillAbreast ended

/-! ## Waiting for what was obtained -/

namespace RunContext.Refines

variable {start stop : Nat}

theorem awaitOne (ordered : start ≤ stop) (stage : Stage) (id : ResourceId) :
    run.Refines invocation outside start stop Resource.Alike (run.await stage id)
      (run.await stage id) := by
  refine bind .refl (await (Nat.le_refl start) id) fun resource other alike => ?_
  rw [alike.id]
  exact bind (fun _ => rfl) (meet (Nat.le_refl start) stage other.id) fun _ _ _ =>
    pure ordered alike

theorem awaitAll (ordered : start ≤ stop) (stage : Stage) (ids : List ResourceId) :
    run.Refines invocation outside start stop Resource.AllAlike (run.awaitAll stage ids)
      (run.awaitAll stage ids) := by
  induction ids with
  | nil => exact pure ordered .nil
  | cons id rest inductionHypothesis =>
    refine bind .refl (awaitOne (Nat.le_refl start) stage id) fun first other alike => ?_
    refine bind .refl inductionHypothesis fun resources others allAlike => ?_
    exact pure (Nat.le_refl stop) (.cons alike allAlike)

/-- The resources an attempt obtains are those the undisturbed run obtains. -/
theorem obtainMany (apart : run.KeepsApart invocation) {stage : Stage}
    {creations : List Creation}
    (sent : ∀ creation ∈ creations, run.Sends invocation checkpoint creation)
    (after : start ≤ checkpoint.turn) (before : checkpoint.turn < stop) :
    run.Refines invocation outside start stop Resource.AllAlike
      (run.obtainMany stage checkpoint creations) (run.obtainMany stage checkpoint creations) := by
  rw [RunContext.obtainMany_eq]
  refine bind (fun _ => rfl) (obtainIds apart sent after before)
    fun ids others same => ?_
  rw [same]
  exact awaitAll (Nat.le_refl stop) stage others

theorem obtainOne (apart : run.KeepsApart invocation) {stage : Stage} {creation : Creation}
    (sent : run.Sends invocation checkpoint creation)
    (after : start ≤ checkpoint.turn) (before : checkpoint.turn < stop) :
    run.Refines invocation outside start stop Resource.Alike
      (run.obtainOne stage checkpoint creation) (run.obtainOne stage checkpoint creation) := by
  have alone : ∀ other ∈ [creation], run.Sends invocation checkpoint other := by
    intro other member
    rw [List.mem_singleton.mp member]
    exact sent
  intro earlierWhole listed position whole result last journal turns steady goes undisturbed
  rcases obtainMany apart alone after before _ _ _ _ _ _ journal turns steady
    (RunContext.goes_obtainMany_of_single goes) undisturbed with
    ⟨done, journalDone, reaching, keepsUp⟩
  refine ⟨done, journalDone, ?_, ?_⟩
  · rintro value rfl
    exact reaching [value] rfl
  intro earlier held here trace outcome stopped journalHeld agreed same goesLeft agrees inStep within
  have reached : ∀ value, result = .ok value →
      ∃ list, result.map (fun resource => [resource]) = .ok list := by
    rintro value rfl
    exact ⟨[value], rfl⟩
  rcases keepsUp _ _ _ _ _ _ journalHeld agreed same (RunContext.goes_obtainMany_of_single goesLeft)
    agrees inStep (within.mono _ reached) with ⟨made, journalMade, follows⟩
  refine ⟨made, journalMade, ?_⟩
  cases outcome with
  | error failure =>
    cases follows with
    | failed inside => exact .failed inside
  | ok value =>
    cases result with
    | error failure =>
      cases follows with
      | done impossible => cases impossible
    | ok other =>
      cases follows with
      | done found alike abreast inStepLast tookUp =>
        cases found
        cases alike with
        | cons alike _ => exact .done rfl alike abreast inStepLast tookUp

end RunContext.Refines

end

end ModelRuns
