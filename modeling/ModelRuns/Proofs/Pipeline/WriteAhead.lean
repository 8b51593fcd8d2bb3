import ModelRuns.Proofs.Pipeline.Structure
import ModelRuns.Proofs.Pipeline.Outside

namespace ModelRuns

open Stateful

/-!
# Identifiers are recorded before anything else is asked

Whatever the service and the disk answer, a run writes the line of an identifier
directly behind the creation that gave it, and asks nothing further when that is
refused.  So at every point of a run the checkpoints hold what was created so
far, but for the last creation.

A line is only a line of its own behind a line break.  A checkpoint that held a
text without one at its end, such as an input that a fresh run keeps, swallows
the first identifier.  `WritesAhead` therefore holds of exactly those runs whose
checkpoints began with terminated texts.
-/

namespace RunContext

/-! ## Steps that account for what they create -/

/-- Whatever a step is answered, its trace accounts for what it created. -/
def Accounted (run : RunContext) (invocation : Invocation) {α : Type} (step : Step α) : Prop :=
  ∀ before trace outcome after, Goes step before trace outcome after →
    ∃ entries, run.Accounts invocation trace outcome entries

namespace Accounted

variable {run : RunContext} {invocation : Invocation} {α β : Type}

theorem quiet {step : Step α} (quiet : run.Quiet invocation step) :
    run.Accounted invocation step := by
  intro before trace outcome after goes
  exact ⟨[], .whole (.of_aside (quiet before trace outcome after goes))⟩

theorem bind {step : Step α} {next : α → Step β} (first : run.Accounted invocation step)
    (second : ∀ value, run.Accounted invocation (next value)) :
    run.Accounted invocation (step >>= next) := by
  intro before trace outcome after goes
  rcases (goes_bind_iff step next before after trace outcome).mp goes with
    ⟨failure, failed, rfl⟩ | ⟨front, back, value, middle, rfl, done, rest⟩
  · rcases first before trace _ after failed with ⟨entries, accounts⟩
    exact ⟨entries, accounts.handedOn⟩
  · rcases first before front _ middle done with ⟨entries, accounts⟩
    rcases second value middle back outcome after rest with ⟨later, accountsLater⟩
    exact ⟨entries ++ later, .after accounts.journal accountsLater⟩

/-- A request that a run may ask. -/
theorem asking (asked : Request) (finish : asked.Answer → Except Failure α)
    (allowed : run.MayAsk invocation asked) :
    run.Accounted invocation (Stateful.act (Action.asking asked finish)) :=
  quiet (.asking asked finish (aside_of_mayAsk allowed))

theorem inStage {stage : Stage} {body : Step α} (inside : run.Accounted invocation body) :
    run.Accounted invocation (inStage stage body) := by
  intro before trace outcome after goes
  rcases goes_inStage goes with ⟨failure, failed, rfl⟩ |
    ⟨entry, middle, exit, result, entered, left, rfl, entering, going, leaving⟩
  · have quiet : run.Accounts invocation [] (.error failure : Except Failure α) [] := .whole .nil
    exact ⟨[], quiet.noted (notes_enterStage failed)⟩
  · have accountsEntry : run.Journal invocation entry [] :=
      .of_notes (notes_enterStage entering)
    rcases inside entered middle result left going with ⟨entries, accounts⟩
    refine ⟨entries, .after accountsEntry ?_⟩
    cases result with
    | error failure =>
      rcases goes_leaveStage_error leaving with ⟨noted, last, rfl⟩
      exact accounts.noted noted
    | ok value =>
      exact .whole (accounts.journal.followed (.of_notes (goes_leaveStage_ok leaving).1))

theorem obtainMany {stage : Stage} {checkpoint : Checkpoint} {creations : List Creation}
    (sent : ∀ creation ∈ creations, run.Sends invocation checkpoint creation) :
    run.Accounted invocation (run.obtainMany stage checkpoint creations) := by
  refine bind (quiet (.takeUp checkpoint _)) fun known => ?_
  refine bind ?_ fun created => quiet (.awaitAll stage _)
  intro before trace outcome after goes
  have remaining : ∀ creation ∈ creations.drop known.length,
      run.Sends invocation checkpoint creation :=
    fun creation member => sent creation (List.mem_of_mem_drop member)
  rcases goes_createAll remaining goes with ⟨_, entries, creates⟩
  exact ⟨entries, creates.accounts⟩

theorem obtainOne {stage : Stage} {checkpoint : Checkpoint} {creation : Creation}
    (sent : run.Sends invocation checkpoint creation) :
    run.Accounted invocation (run.obtainOne stage checkpoint creation) := by
  intro before trace outcome after goes
  have alone : ∀ other ∈ [creation], run.Sends invocation checkpoint other := by
    intro other member
    rw [List.mem_singleton.mp member]
    exact sent
  rcases obtainMany alone before trace _ after (goes_obtainMany_of_single goes) with
    ⟨entries, accounts⟩
  cases outcome with
  | error failure => exact ⟨entries, accounts.handedOn⟩
  | ok resource => exact ⟨entries, .whole accounts.journal⟩

end Accounted

/-- Both of two parallel steps account for what they create. -/
theorem Parallel.accounted {run : RunContext} {invocation : Invocation} {α : Type}
    {start stop : Nat} {related : α → α → Prop} {left right : Step α}
    (parallel : Parallel run invocation start stop related left right) :
    run.Accounted invocation left ∧ run.Accounted invocation right := by
  induction parallel with
  | pure ordered alike => exact ⟨.quiet (.pure _), .quiet (.pure _)⟩
  | fail ordered left right => exact ⟨.quiet (.throw _), .quiet (.throw _)⟩
  | bind reflexive first second firstHypothesis secondHypothesis =>
    exact ⟨.bind firstHypothesis.1 fun value => (secondHypothesis value value (reflexive value)).1,
      .bind firstHypothesis.2 fun value => (secondHypothesis value value (reflexive value)).2⟩
  | ask ordered asked other finish conclude allowed allowedOther granted =>
    exact ⟨.asking asked finish allowed, .asking other conclude allowedOther⟩
  | askLeft asked finish allowed rest restHypothesis =>
    exact ⟨.bind (.asking asked finish allowed) fun _ => restHypothesis.1, restHypothesis.2⟩
  | askRight asked finish allowed granted rest restHypothesis =>
    exact ⟨restHypothesis.1, .bind (.asking asked finish allowed) fun _ => restHypothesis.2⟩
  | read ordered path input =>
    have reading : run.Accounted invocation (Stateful.act (Action.readText path)) :=
      .quiet (.asking (.file (.read path)) (fun answer => answer) fun _ => trivial)
    exact ⟨reading, reading⟩
  | await ordered id => exact ⟨.quiet (.poll _ id none 0 _), .quiet (.poll _ id none 0 _)⟩
  | meet ordered stage id => exact ⟨.quiet (.changing _), .quiet (.changing _)⟩
  | progress ordered => exact ⟨.quiet .state, .quiet .state⟩
  | inStage stage body bodyHypothesis =>
    exact ⟨.inStage bodyHypothesis.1, .inStage bodyHypothesis.2⟩
  | obtainOne stage checkpoint creation sent after before =>
    exact ⟨.obtainOne sent, .obtainOne sent⟩
  | obtainMany stage checkpoint creations sent after before =>
    exact ⟨.obtainMany sent, .obtainMany sent⟩

/-! ## Creations and their lines -/

/-- Directly behind every creation the line of its identifier is written to the
checkpoint of the request.  If that is refused, nothing but notes follows. -/
def RecordsAtOnce (run : RunContext) (invocation : Invocation) (trace : List Exchange) : Prop :=
  ∀ front creation resource back, trace = front ++ creating creation resource :: back →
    ∃ checkpoint answer rest, run.Sends invocation checkpoint creation ∧
      back = run.recording checkpoint resource.id answer :: rest ∧
      ∀ failure, answer = .error failure → ∀ exchange ∈ rest, exchange.IsNote

/-- What is set aside at a point of a run: the last creation, when its line is still
to be written, or was refused. -/
inductive SetAside (run : RunContext) : (front counted : List Exchange) → Prop
  | nothing (front : List Exchange) : SetAside run front front
  | last (earlier : List Exchange) (creation : Creation) (resource : Resource) :
      SetAside run (earlier ++ [creating creation resource]) earlier
  | refused (earlier : List Exchange) (creation : Creation) (resource : Resource)
      (checkpoint : Checkpoint) (refusal : Failure) (notes : List Exchange)
      (noted : ∀ exchange ∈ notes, exchange.IsNote) :
      SetAside run (earlier ++ creating creation resource ::
        run.recording checkpoint resource.id (.error refusal) :: notes) earlier

/-- The lines of a checkpoint after a trace. -/
def checkpointLines (run : RunContext) (files : Path → Option String) (checkpoint : Checkpoint)
    (trace : List Exchange) : List String :=
  lines ((textAfter (Checkpoint.path run.paths.output checkpoint)
    (files (Checkpoint.path run.paths.output checkpoint)) trace).getD "")

/-- At every point of a run, the identifiers of all creations that are not set aside
stand in order as the last lines of the checkpoints of their requests. -/
def WritesAhead (run : RunContext) (invocation : Invocation) (files : Path → Option String)
    (trace : List Exchange) : Prop :=
  ∀ front, front <+: trace → ∃ counted entries, run.SetAside front counted ∧
    created counted = entries.map Entry.made ∧
    (∀ entry ∈ entries, run.Sends invocation entry.checkpoint entry.creation) ∧
    ∀ checkpoint, run.checkpointLines files checkpoint front =
      run.checkpointLines files checkpoint [] ++
        (Entry.idsAt checkpoint entries).map ResourceId.text

namespace Accounts

variable {run : RunContext} {invocation : Invocation} {α : Type}

theorem recordsAtOnce {trace : List Exchange} {outcome : Except Failure α} {entries : List Entry}
    (accounts : run.Accounts invocation trace outcome entries) :
    run.RecordsAtOnce invocation trace := by
  intro front creation resource back point
  cases accounts with
  | whole journal =>
    rcases journal.recorded_next point with ⟨checkpoint, rest, sent, rfl⟩
    exact ⟨checkpoint, .ok (), rest, sent, rfl, fun _ impossible => nomatch impossible⟩
  | broken breaks =>
    rcases breaks with ⟨earlier, checkpoint, made, given, refusal, notes, rfl, sent, journal, noted⟩
    rcases List.append_eq_append_iff.mp point with ⟨more, rfl, rest⟩ | ⟨more, rfl, rest⟩
    · cases more with
      | nil =>
        cases rest
        exact ⟨checkpoint, .error refusal, notes, sent, rfl, fun _ _ => noted⟩
      | cons exchange more =>
        -- A creation behind the refused line would have to be a note.
        have member : creating creation resource ∈
            run.recording checkpoint given.id (.error refusal) :: notes := by
          rw [(List.cons.inj rest).2]
          exact List.mem_append_right more List.mem_cons_self
        rcases List.mem_cons.mp member with impossible | note
        · cases impossible
        · exact absurd (noted _ note) id
    · cases more with
      | nil =>
        cases rest
        exact ⟨checkpoint, .error refusal, notes, sent, rfl, fun _ _ => noted⟩
      | cons exchange more =>
        cases rest
        rcases journal.recorded_next rfl with ⟨other, rest, sentOther, rfl⟩
        exact ⟨other, .ok (), _, sentOther, rfl, fun _ impossible => nomatch impossible⟩

/-- At every point of a trace that accounts for its creations, those not set aside
have a journal. -/
theorem point {trace front : List Exchange} {outcome : Except Failure α} {entries : List Entry}
    (accounts : run.Accounts invocation trace outcome entries) (before : front <+: trace) :
    ∃ counted listed, run.SetAside front counted ∧ counted <+: trace ∧
      run.Journal invocation counted listed := by
  have within : ∀ whole entries, run.Journal invocation whole entries → whole <+: trace →
      front <+: whole → ∃ counted listed, run.SetAside front counted ∧ counted <+: trace ∧
        run.Journal invocation counted listed := by
    intro whole entries journal inside before
    rcases journal.front before with ⟨listed, _, journal | ⟨earlier, _, creation, resource, rfl, _,
      journal⟩⟩
    · exact ⟨front, listed, .nothing front, before.trans inside, journal⟩
    · exact ⟨earlier, listed, .last earlier creation resource,
        (List.prefix_append earlier _).trans (before.trans inside), journal⟩
  cases accounts with
  | whole journal => exact within trace entries journal List.prefix_rfl before
  | broken breaks =>
    rcases breaks with ⟨earlier, checkpoint, creation, resource, refusal, notes, rfl, sent, journal,
      noted⟩
    have inside : earlier <+: earlier ++ creating creation resource ::
        run.recording checkpoint resource.id (.error refusal) :: notes := List.prefix_append _ _
    rcases List.prefix_or_prefix_of_prefix before inside with shorter | ⟨more, rfl⟩
    · exact within earlier entries journal inside shorter
    · have beyond := (List.prefix_append_right_inj earlier).mp before
      rcases List.prefix_cons_iff.mp beyond with rfl | ⟨later, rfl, further⟩
      · rw [List.append_nil]
        exact ⟨earlier, entries, .nothing earlier, inside, journal⟩
      rcases List.prefix_cons_iff.mp further with rfl | ⟨last, rfl, noting⟩
      · exact ⟨earlier, entries, .last earlier creation resource, inside, journal⟩
      · exact ⟨earlier, entries, .refused earlier creation resource checkpoint refusal last
          fun exchange member => noted exchange (noting.subset member), inside, journal⟩

end Accounts

/-! ## Points of a run -/

variable {run : RunContext} {invocation : Invocation}

/-- What is set aside changes no file. -/
theorem SetAside.textAfter {front counted : List Exchange} (aside : run.SetAside front counted)
    (path : Path) (text : Option String) :
    ModelRuns.textAfter path text front = ModelRuns.textAfter path text counted := by
  cases aside with
  | nothing => rfl
  | last earlier creation resource => rw [textAfter_append]; rfl
  | refused earlier creation resource checkpoint refusal notes noted =>
    rw [textAfter_append]
    exact textAfter_notes noted path _

/-- A line that was written is not set aside. -/
theorem SetAside.mem_recording {front counted : List Exchange}
    (aside : run.SetAside front counted) {checkpoint : Checkpoint} {id : ResourceId}
    (member : run.recording checkpoint id (.ok ()) ∈ front) :
    run.recording checkpoint id (.ok ()) ∈ counted := by
  cases aside with
  | nothing => exact member
  | last earlier creation resource =>
    rcases List.mem_append.mp member with before | behind
    · exact before
    · cases List.mem_singleton.mp behind
  | refused earlier creation resource other refusal notes noted =>
    rcases List.mem_append.mp member with before | behind
    · exact before
    rcases List.mem_cons.mp behind with impossible | later
    · cases impossible
    rcases List.mem_cons.mp later with equal | note
    · cases (recording_inj equal).2
    · exact absurd (noted _ note) fun impossible => impossible

theorem SetAside.checkpointLines {front counted : List Exchange}
    (aside : run.SetAside front counted) (files : Path → Option String) (checkpoint : Checkpoint) :
    run.checkpointLines files checkpoint front = run.checkpointLines files checkpoint counted := by
  rw [RunContext.checkpointLines, aside.textAfter]
  rfl

theorem Journal.checkpointLines {counted : List Exchange} {entries : List Entry}
    (journal : run.Journal invocation counted entries)
    (logOff : run.OffCheckpoints run.log.path) (writesOff : run.WritesOff counted)
    (files : Path → Option String) (checkpoint : Checkpoint) :
    run.checkpointLines files checkpoint counted =
      lines ((Checkpoint.recorded (files (Checkpoint.path run.paths.output checkpoint))
        (Entry.idsAt checkpoint entries)).getD "") := by
  rw [RunContext.checkpointLines, journal.textAfter logOff writesOff]

theorem Journal.valid {trace : List Exchange} {entries : List Entry}
    (journal : run.Journal invocation trace entries)
    (valid : ∀ made ∈ ModelRuns.created trace, made.2.Valid) (checkpoint : Checkpoint) :
    ∀ id ∈ Entry.idsAt checkpoint entries, id.Valid := by
  intro id member
  rcases Entry.mem_of_mem_idsAt member with ⟨entry, listed, _, rfl⟩
  apply valid entry.made
  rw [journal.created]
  exact List.mem_map_of_mem listed

/-- A run records each identifier at once, and it writes ahead if and only if each
checkpoint it wrote to began with a terminated text. -/
theorem writesAhead_iff (run : RunContext) (invocation : Invocation) (resuming : Bool)
    (trace : List Exchange) (outcome : Except Failure Unit) (after : Progress)
    (files : Path → Option String)
    (goes : Goes (run.runPipeline invocation) (Progress.start resuming) trace outcome after)
    (logOff : run.OffCheckpoints run.log.path) (writesOff : run.WritesOff trace)
    (valid : ∀ made ∈ created trace, made.2.Valid) :
    run.RecordsAtOnce invocation trace ∧
      (run.WritesAhead invocation files trace ↔
        ∀ checkpoint id, run.recording checkpoint id (.ok ()) ∈ trace →
          Terminated ((files (Checkpoint.path run.paths.output checkpoint)).getD "")) := by
  have parallel : Parallel run invocation 0 12 Eq (run.runPipeline invocation)
    (run.runPipeline invocation) := Parallel.runPipeline
  rcases parallel.accounted.1 _ _ _ _ goes with ⟨entries, accounts⟩
  have validIn : ∀ counted, counted <+: trace → ∀ made ∈ created counted, made.2.Valid := by
    rintro counted ⟨rest, rfl⟩ made member
    apply valid
    rw [created_append]
    exact List.mem_append_left _ member
  have writesOffIn : ∀ counted, counted <+: trace → run.WritesOff counted := by
    rintro counted ⟨rest, rfl⟩
    exact (WritesOff.append_iff.mp writesOff).1
  refine ⟨accounts.recordsAtOnce, ?_, ?_⟩
  · intro ahead checkpoint id member
    rcases accounts.point List.prefix_rfl with ⟨counted, listed, aside, inside, journal⟩
    have present : Entry.idsAt checkpoint listed ≠ [] :=
      (journal.mem_recording_iff logOff checkpoint).mp ⟨id, aside.mem_recording member⟩
    rcases ahead trace List.prefix_rfl with ⟨_, others, _, _, _, stands⟩
    apply Checkpoint.terminated_of_recorded _ _ present
      (journal.valid (validIn counted inside) checkpoint)
    rw [← journal.checkpointLines logOff (writesOffIn counted inside) files checkpoint,
      ← aside.checkpointLines files checkpoint, stands checkpoint]
    exact List.prefix_append _ _
  · intro terminated front before
    rcases accounts.point before with ⟨counted, listed, aside, inside, journal⟩
    refine ⟨counted, listed, aside, journal.created, journal.sent, fun checkpoint => ?_⟩
    rw [aside.checkpointLines files checkpoint,
      journal.checkpointLines logOff (writesOffIn counted inside)]
    apply Checkpoint.lines_recorded
    · by_cases none : Entry.idsAt checkpoint listed = []
      · exact .inl none
      · rcases (journal.mem_recording_iff logOff checkpoint).mpr none with ⟨id, member⟩
        exact .inr (terminated checkpoint id (inside.subset member))
    · exact journal.valid (validIn counted inside) checkpoint

/-- What a fresh run that finds centroids asks and is answered. -/
def centroidsFound : List Exchange :=
  (Outside.numbered.attempt centroidRun centroidInvocation false 3 []).1

theorem exists_journal_centroidsFound :
    ∃ entries, centroidRun.Journal centroidInvocation centroidsFound entries ∧
      entries.length = 3 := by
  have parallel : Parallel centroidRun centroidInvocation 0 12 Eq
    (centroidRun.runPipeline centroidInvocation) (centroidRun.runPipeline centroidInvocation) :=
    Parallel.runPipeline
  rcases parallel.accounted.1 _ _ _ _
    (Outside.goes_attempt Outside.numbered centroidRun centroidInvocation false 3 []) with
    ⟨entries, accounts⟩
  have journal := accounts.journal_of_agrees
    (Outside.agrees_attempt Outside.numbered centroidRun centroidInvocation false 3 [])
  have three : (created centroidsFound).length = 3 := by decide +kernel
  refine ⟨entries, journal, ?_⟩
  rw [← three, centroidsFound, journal.created, List.length_map]

/-- A run that finds centroids writes ahead in a fresh directory, but not behind the
last line of texts without a line break. -/
theorem writesAhead_centroids :
    centroidRun.RecordsAtOnce centroidInvocation centroidsFound ∧
      centroidRun.WritesAhead centroidInvocation (fun _ => none) centroidsFound ∧
      ¬ centroidRun.WritesAhead centroidInvocation
        (fun _ => some "dataset/000000000000000000000001") centroidsFound := by
  rcases exists_journal_centroidsFound with ⟨entries, journal, three⟩
  have ahead := fun files => writesAhead_iff centroidRun centroidInvocation false centroidsFound
    _ _ files (Outside.goes_attempt Outside.numbered centroidRun centroidInvocation false 3 [])
    centroidRun_keepsApart.log (journal.writesOff centroidRun_keepsApart)
    (Outside.valid_of_agrees
      (Outside.agrees_attempt Outside.numbered centroidRun centroidInvocation false 3 []))
  refine ⟨(ahead fun _ => none).1, (ahead _).2.mpr fun _ _ _ => terminated_empty, fun within => ?_⟩
  cases entries with
  | nil => cases three
  | cons entry rest =>
    have present : Entry.idsAt entry.checkpoint (entry :: rest) ≠ [] := by simp [Entry.idsAt]
    rcases (journal.mem_recording_iff centroidRun_keepsApart.log _).mpr present with ⟨id, member⟩
    exact absurd ((ahead _).2.mp within entry.checkpoint id member) (by decide)

end RunContext

end ModelRuns
