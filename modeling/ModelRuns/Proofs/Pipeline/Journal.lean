import ModelRuns.Proofs.Checkpoint.Recorded
import ModelRuns.Proofs.Pipeline.Requests
import ModelRuns.Proofs.Trace.Changes

namespace ModelRuns

/-!
# The journal of a run

A journal lists what a run created, with the checkpoint each identifier went to.
In a trace with a journal, every successful creation is followed at once by the
line of its identifier, and nothing else changes a checkpoint.  So the journal
tells both what the service was asked to create and what the checkpoints hold.

The one trace of a run that has no journal is broken off: the line of its last
creation could not be written, and nothing but notes comes after that.
-/

/-- What a successful creation sent, and the identifier it was given. -/
def Exchange.created? : Exchange → Option (Creation × ResourceId)
  | ⟨.api (.create creation), .ok resource⟩ => some (creation, resource.id)
  | _ => none

/-- The successful creations of a trace, in their order. -/
def created (trace : List Exchange) : List (Creation × ResourceId) :=
  trace.filterMap Exchange.created?

@[simp] theorem created_nil : created [] = [] := rfl

theorem created_append (front back : List Exchange) :
    created (front ++ back) = created front ++ created back :=
  List.filterMap_append

/-- An exchange that records an event. -/
def Exchange.IsNote : Exchange → Prop
  | ⟨.note _, _⟩ => True
  | _ => False

/-- Notes change no file. -/
theorem textAfter_notes {notes : List Exchange} (noted : ∀ exchange ∈ notes, exchange.IsNote)
    (path : Path) (text : Option String) : textAfter path text notes = text := by
  induction notes with
  | nil => rfl
  | cons exchange rest inductionHypothesis =>
    have unchanged : exchange.applyTo path text = text := by
      have isNote := noted exchange List.mem_cons_self
      rcases exchange with ⟨asked, answer⟩
      cases asked with
      | note event => rfl
      | _ => exact absurd isNote id
    rw [textAfter_cons, unchanged]
    exact inductionHypothesis fun other member => noted other (List.mem_cons_of_mem exchange member)

/-- A created resource, and the checkpoint its identifier goes to. -/
structure Entry where
  checkpoint : Checkpoint
  creation : Creation
  id : ResourceId

namespace Entry

/-- What the service was sent for an entry, and the identifier it gave. -/
def made (entry : Entry) : Creation × ResourceId := (entry.creation, entry.id)

/-- The identifiers of the entries of one checkpoint. -/
def idsAt (checkpoint : Checkpoint) (entries : List Entry) : List ResourceId :=
  (entries.filter fun entry => entry.checkpoint = checkpoint).map Entry.id

@[simp] theorem idsAt_nil (checkpoint : Checkpoint) : idsAt checkpoint [] = [] := rfl

theorem idsAt_append (checkpoint : Checkpoint) (front back : List Entry) :
    idsAt checkpoint (front ++ back) = idsAt checkpoint front ++ idsAt checkpoint back := by
  rw [idsAt, List.filter_append, List.map_append]
  rfl

theorem idsAt_singleton (checkpoint : Checkpoint) (entry : Entry) :
    idsAt checkpoint [entry] = if entry.checkpoint = checkpoint then [entry.id] else [] := by
  by_cases same : entry.checkpoint = checkpoint <;> simp [idsAt, same]

theorem idsAt_of_placed {checkpoint : Checkpoint} {entries : List Entry}
    (placed : ∀ entry ∈ entries, entry.checkpoint = checkpoint) :
    idsAt checkpoint entries = entries.map Entry.id := by
  rw [idsAt, List.filter_eq_self.mpr fun entry member => decide_eq_true (placed entry member)]

theorem idsAt_of_elsewhere {checkpoint : Checkpoint} {entries : List Entry}
    (elsewhere : ∀ entry ∈ entries, entry.checkpoint ≠ checkpoint) :
    idsAt checkpoint entries = [] := by
  rw [idsAt, List.filter_eq_nil_iff.mpr fun entry member => by simpa using elsewhere entry member]
  rfl

theorem mem_of_mem_idsAt {checkpoint : Checkpoint} {entries : List Entry} {id : ResourceId}
    (member : id ∈ idsAt checkpoint entries) :
    ∃ entry ∈ entries, entry.checkpoint = checkpoint ∧ entry.id = id := by
  rcases List.mem_map.mp member with ⟨entry, inside, rfl⟩
  rcases List.mem_filter.mp inside with ⟨listed, same⟩
  exact ⟨entry, listed, of_decide_eq_true same, rfl⟩

end Entry

namespace RunContext

/-- An exchange of a run that creates nothing and writes to no checkpoint. -/
def Aside (run : RunContext) (invocation : Invocation) : Exchange → Prop
  | ⟨.api (.create _), answer⟩ => ∃ failure, answer = .error failure
  | ⟨.api (.get _ _), _⟩ => True
  | ⟨.file (.read _), _⟩ => True
  | ⟨.file (.fileExists _), _⟩ => True
  | ⟨.sleepUntil _, _⟩ => True
  | ⟨asked, _⟩ => run.MayAsk invocation asked

theorem aside_of_mayAsk {run : RunContext} {invocation : Invocation} {asked : Request}
    (allowed : run.MayAsk invocation asked) (answer : asked.Answer) :
    run.Aside invocation ⟨asked, answer⟩ := by
  cases asked with
  | file request =>
    cases request with
    | read path => trivial
    | fileExists path => trivial
    | _ => exact allowed
  | api request =>
    cases request with
    | create creation => exact absurd allowed id
    | get id query => trivial
    | _ => exact allowed
  | sleepUntil deadline => trivial
  | _ => exact allowed

/-- The exchange that creates a resource. -/
def creating (creation : Creation) (resource : Resource) : Exchange :=
  ⟨.api (.create creation), .ok resource⟩

/-- The exchange that writes the line of an identifier to its checkpoint. -/
def recording (run : RunContext) (checkpoint : Checkpoint) (id : ResourceId)
    (answer : Except Failure Unit) : Exchange :=
  ⟨.file (.append (Checkpoint.path run.paths.output checkpoint) id.text), answer⟩

theorem recording_inj {run : RunContext} {checkpoint other : Checkpoint} {id another : ResourceId}
    {answer result : Except Failure Unit}
    (equal : run.recording checkpoint id answer = run.recording other another result) :
    checkpoint = other ∧ answer = result := by
  injection equal with asked answered
  injection asked with request
  injection request with paths
  exact ⟨Checkpoint.path_injective _ _ _ paths, answered⟩

/-- A trace has a journal. -/
inductive Journal (run : RunContext) (invocation : Invocation) :
    List Exchange → List Entry → Prop
  | nil : Journal run invocation [] []
  | aside {exchange : Exchange} {trace : List Exchange} {entries : List Entry}
      (aside : run.Aside invocation exchange) (rest : Journal run invocation trace entries) :
      Journal run invocation (exchange :: trace) entries
  | entry {trace : List Exchange} {entries : List Entry} (checkpoint : Checkpoint)
      (creation : Creation) (resource : Resource) (sent : run.Sends invocation checkpoint creation)
      (rest : Journal run invocation trace entries) :
      Journal run invocation
        (creating creation resource :: run.recording checkpoint resource.id (.ok ()) :: trace)
        (⟨checkpoint, creation, resource.id⟩ :: entries)

namespace Journal

variable {run : RunContext} {invocation : Invocation}

theorem append {front back : List Exchange} {entries later : List Entry}
    (first : run.Journal invocation front entries) (second : run.Journal invocation back later) :
    run.Journal invocation (front ++ back) (entries ++ later) := by
  induction first with
  | nil => exact second
  | aside aside _ inductionHypothesis => exact .aside aside inductionHypothesis
  | entry checkpoint creation resource sent _ inductionHypothesis =>
    exact .entry checkpoint creation resource sent inductionHypothesis

theorem of_aside {trace : List Exchange}
    (aside : ∀ exchange ∈ trace, run.Aside invocation exchange) :
    run.Journal invocation trace [] := by
  induction trace with
  | nil => exact .nil
  | cons exchange rest inductionHypothesis =>
    exact .aside (aside exchange List.mem_cons_self) (inductionHypothesis fun other member =>
      aside other (List.mem_cons_of_mem exchange member))

/-- What is asked behind a trace, if it creates nothing. -/
theorem followed {front back : List Exchange} {entries : List Entry}
    (journal : run.Journal invocation front entries) (quiet : run.Journal invocation back []) :
    run.Journal invocation (front ++ back) entries := by
  have both := journal.append quiet
  rw [List.append_nil] at both
  exact both

theorem of_notes {trace : List Exchange} (noted : ∀ exchange ∈ trace, exchange.IsNote) :
    run.Journal invocation trace [] := by
  refine of_aside fun exchange member => ?_
  have isNote := noted exchange member
  rcases exchange with ⟨asked, answer⟩
  cases asked with
  | note event => trivial
  | _ => exact absurd isNote id

theorem sent {trace : List Exchange} {entries : List Entry}
    (journal : run.Journal invocation trace entries) :
    ∀ entry ∈ entries, run.Sends invocation entry.checkpoint entry.creation := by
  induction journal with
  | nil => exact List.forall_mem_nil _
  | aside _ _ inductionHypothesis => exact inductionHypothesis
  | entry checkpoint creation resource sent _ inductionHypothesis =>
    intro entry member
    rcases List.mem_cons.mp member with rfl | later
    · exact sent
    · exact inductionHypothesis entry later

theorem created?_of_aside {exchange : Exchange} (aside : run.Aside invocation exchange) :
    exchange.created? = none := by
  rcases exchange with ⟨asked, answer⟩
  cases asked with
  | api request =>
    cases request with
    | create creation =>
      rcases aside with ⟨failure, rfl⟩
      rfl
    | _ => rfl
  | _ => rfl

/-- A journal lists the creations of its trace. -/
theorem created {trace : List Exchange} {entries : List Entry}
    (journal : run.Journal invocation trace entries) :
    ModelRuns.created trace = entries.map Entry.made := by
  induction journal with
  | nil => rfl
  | aside aside _ inductionHypothesis =>
    rw [ModelRuns.created, List.filterMap_cons_none (created?_of_aside aside)]
    exact inductionHypothesis
  | entry checkpoint creation resource sent _ inductionHypothesis =>
    rw [List.map_cons, ← inductionHypothesis]
    rfl

/-- A trace has no more than one journal. -/
theorem unique {trace : List Exchange} {entries others : List Entry}
    (first : run.Journal invocation trace entries)
    (second : run.Journal invocation trace others) : entries = others := by
  induction first generalizing others with
  | nil =>
    cases second
    rfl
  | aside aside _ inductionHypothesis =>
    cases second with
    | aside _ rest => exact inductionHypothesis rest
    | entry =>
      rcases aside with ⟨failure, impossible⟩
      cases impossible
  | entry checkpoint creation resource sent _ inductionHypothesis =>
    generalize exchange : run.recording checkpoint resource.id (.ok ()) = recorded at second
    cases second with
    | aside aside _ =>
      rcases aside with ⟨failure, impossible⟩
      cases impossible
    | entry other _ _ _ rest =>
      rw [(recording_inj exchange).1, inductionHypothesis rest]

end Journal

/-! ## What the checkpoints hold -/

/-- A path is not that of a checkpoint. -/
def OffCheckpoints (run : RunContext) (path : Path) : Prop :=
  ∀ checkpoint, path.same (Checkpoint.path run.paths.output checkpoint) = false

/-- The results of a trace are not written over checkpoints. -/
def WritesOff (run : RunContext) (trace : List Exchange) : Prop :=
  ∀ path text answer, (⟨.file (.write path text), answer⟩ : Exchange) ∈ trace →
    run.OffCheckpoints path

theorem WritesOff.append_iff {run : RunContext} {front back : List Exchange} :
    run.WritesOff (front ++ back) ↔ run.WritesOff front ∧ run.WritesOff back := by
  simp only [WritesOff, List.mem_append, or_imp, forall_and]

/-- What is asked aside extends no file but the session log. -/
theorem spares_of_aside {run : RunContext} {invocation : Invocation} {path : Path}
    {exchange : Exchange} (aside : run.Aside invocation exchange)
    (logOff : run.log.path.same path = false) : exchange.asked.Spares path := by
  rcases exchange with ⟨asked, answer⟩
  cases asked with
  | file request =>
    cases request with
    | append target line =>
      have logged : target = run.log.path := aside
      subst logged
      exact logOff
    | truncate target => exact absurd aside id
    | remove target => exact absurd aside id
    | _ => trivial
  | _ => trivial

namespace Journal

variable {run : RunContext} {invocation : Invocation}

/-- Writing the line of an identifier changes its own checkpoint and no other. -/
theorem applyTo_recording (checkpoint other : Checkpoint) (id : ResourceId)
    (text : Option String) :
    (run.recording checkpoint id (.ok ())).applyTo (Checkpoint.path run.paths.output other) text =
      Checkpoint.recorded text (if checkpoint = other then [id] else []) := by
  by_cases same : checkpoint = other
  · subst same
    simp only [recording, Exchange.applyTo, Path.same_self, if_true]
    exact (Checkpoint.recorded_singleton text id).symm
  · have missed : (Checkpoint.path run.paths.output checkpoint).same
        (Checkpoint.path run.paths.output other) = false :=
      Bool.eq_false_iff.mpr fun reached =>
        same ((Checkpoint.path_same_iff run.paths.output checkpoint other).mp reached)
    simp only [recording, Exchange.applyTo, missed, same, Bool.false_eq_true, if_false,
      Checkpoint.recorded_nil]

/-- What goes over a file is a result of the run. -/
theorem writes_of_overwrites {trace : List Exchange} {entries : List Entry}
    (journal : run.Journal invocation trace entries) {path : Path} :
    ∀ exchange ∈ trace, exchange.Overwrites path → ∃ target text answer,
      exchange = ⟨.file (.write target text), answer⟩ ∧ run.Writes invocation target ∧
        target.same path = true := by
  induction journal with
  | nil => exact List.forall_mem_nil _
  | @aside first _ _ aside _ inductionHypothesis =>
    refine List.forall_mem_cons.mpr ⟨fun covers => ?_, inductionHypothesis⟩
    rcases first with ⟨asked, answer⟩
    cases asked with
    | file request =>
      cases request with
      | write target text => exact ⟨target, text, answer, rfl, aside, covers⟩
      | _ => exact absurd covers id
    | openRunLog file debug => exact absurd aside id
    | _ => exact absurd covers id
  | entry _ _ _ _ _ inductionHypothesis =>
    exact List.forall_mem_cons.mpr ⟨fun covers => absurd covers id,
      List.forall_mem_cons.mpr ⟨fun covers => absurd covers id, inductionHypothesis⟩⟩

/-- A checkpoint that no result goes over holds what the journal lists, behind what it
held before. -/
theorem textAfter_of_spared {trace : List Exchange} {entries : List Entry}
    (journal : run.Journal invocation trace entries)
    (logOff : run.OffCheckpoints run.log.path) (checkpoint : Checkpoint)
    (spared : ∀ exchange ∈ trace,
      ¬exchange.Overwrites (Checkpoint.path run.paths.output checkpoint))
    (text : Option String) :
    ModelRuns.textAfter (Checkpoint.path run.paths.output checkpoint) text trace =
      Checkpoint.recorded text (Entry.idsAt checkpoint entries) := by
  induction journal generalizing text with
  | nil => rfl
  | aside aside _ inductionHypothesis =>
    rcases List.forall_mem_cons.mp spared with ⟨here, later⟩
    have quiet := Exchange.not_changes_of_spares (spares_of_aside aside (logOff checkpoint)) here
    rw [textAfter_cons, Exchange.applyTo_of_not_changes quiet]
    exact inductionHypothesis later text
  | @entry trace entries at' creation resource sent _ inductionHypothesis =>
    have later := (List.forall_mem_cons.mp (List.forall_mem_cons.mp spared).2).2
    have split : (⟨at', creation, resource.id⟩ :: entries : List Entry) =
        [⟨at', creation, resource.id⟩] ++ entries := rfl
    rw [textAfter_cons, textAfter_cons, applyTo_recording, split, Entry.idsAt_append,
      Entry.idsAt_singleton, ← Checkpoint.recorded_append]
    exact inductionHypothesis later _

/-- The checkpoints hold what the journal lists, behind what they held before. -/
theorem textAfter {trace : List Exchange} {entries : List Entry}
    (journal : run.Journal invocation trace entries)
    (logOff : run.OffCheckpoints run.log.path) (writesOff : run.WritesOff trace)
    (checkpoint : Checkpoint) (text : Option String) :
    ModelRuns.textAfter (Checkpoint.path run.paths.output checkpoint) text trace =
      Checkpoint.recorded text (Entry.idsAt checkpoint entries) := by
  refine journal.textAfter_of_spared logOff checkpoint (fun exchange member covers => ?_) text
  rcases journal.writes_of_overwrites exchange member covers with
    ⟨target, written, answer, rfl, _, same⟩
  rw [writesOff target written answer member checkpoint] at same
  cases same

/-- A line that was written to a checkpoint is that of an entry. -/
theorem mem_recording_iff {trace : List Exchange} {entries : List Entry}
    (journal : run.Journal invocation trace entries)
    (logOff : run.OffCheckpoints run.log.path) (checkpoint : Checkpoint) :
    (∃ id, run.recording checkpoint id (.ok ()) ∈ trace) ↔ Entry.idsAt checkpoint entries ≠ [] := by
  induction journal with
  | nil => simp
  | @aside exchange trace entries aside _ inductionHypothesis =>
    rw [← inductionHypothesis]
    constructor
    · rintro ⟨id, member⟩
      rcases List.mem_cons.mp member with rfl | later
      · have logged : Checkpoint.path run.paths.output checkpoint = run.log.path := aside
        have off := logOff checkpoint
        rw [← logged, Path.same_self] at off
        cases off
      · exact ⟨id, later⟩
    · rintro ⟨id, member⟩
      exact ⟨id, List.mem_cons_of_mem _ member⟩
  | @entry trace entries at' creation resource sent _ inductionHypothesis =>
    have split : (⟨at', creation, resource.id⟩ :: entries : List Entry) =
        [⟨at', creation, resource.id⟩] ++ entries := rfl
    rw [split, Entry.idsAt_append, Entry.idsAt_singleton]
    by_cases same : at' = checkpoint
    · subst same
      simp only [if_true]
      exact iff_of_true ⟨resource.id, List.mem_cons_of_mem _ List.mem_cons_self⟩ (by simp)
    · simp only [same, if_false, List.nil_append]
      rw [← inductionHypothesis]
      constructor
      · rintro ⟨id, member⟩
        rcases List.mem_cons.mp member with impossible | recorded
        · cases impossible
        rcases List.mem_cons.mp recorded with equal | later
        · exact absurd (recording_inj equal).1.symm same
        · exact ⟨id, later⟩
      · rintro ⟨id, member⟩
        exact ⟨id, List.mem_cons_of_mem _ (List.mem_cons_of_mem _ member)⟩

/-! ## Points of a run -/

/-- The line of an identifier is written as soon as the service has given it. -/
theorem recorded_next {trace front back : List Exchange} {entries : List Entry}
    (journal : run.Journal invocation trace entries) {creation : Creation} {resource : Resource}
    (point : trace = front ++ creating creation resource :: back) :
    ∃ checkpoint rest, run.Sends invocation checkpoint creation ∧
      back = run.recording checkpoint resource.id (.ok ()) :: rest := by
  induction journal generalizing front with
  | nil => exact absurd point.symm (List.append_ne_nil_of_right_ne_nil _ (List.cons_ne_nil _ _))
  | aside aside _ inductionHypothesis =>
    cases front with
    | nil =>
      cases point
      rcases aside with ⟨failure, impossible⟩
      cases impossible
    | cons exchange front =>
      cases point
      exact inductionHypothesis rfl
  | entry checkpoint made given sent _ inductionHypothesis =>
    cases front with
    | nil =>
      cases point
      exact ⟨checkpoint, _, sent, rfl⟩
    | cons exchange front =>
      cases front with
      | nil => cases point
      | cons recorded front =>
        cases point
        exact inductionHypothesis rfl

/-- Up to any point a trace has a journal, unless the point lies between a
creation and the line of its identifier. -/
theorem front {trace front : List Exchange} {entries : List Entry}
    (journal : run.Journal invocation trace entries) (before : front <+: trace) :
    ∃ listed, listed <+: entries ∧ (run.Journal invocation front listed ∨
      ∃ earlier checkpoint creation resource, front = earlier ++ [creating creation resource] ∧
        run.Sends invocation checkpoint creation ∧ run.Journal invocation earlier listed) := by
  induction journal generalizing front with
  | nil =>
    cases List.prefix_nil.mp before
    exact ⟨[], List.prefix_rfl, .inl .nil⟩
  | aside aside _ inductionHypothesis =>
    rcases List.prefix_cons_iff.mp before with rfl | ⟨rest, rfl, shorter⟩
    · exact ⟨[], List.nil_prefix, .inl .nil⟩
    rcases inductionHypothesis shorter with ⟨listed, first, whole | ⟨earlier, at', made, given,
      rfl, sent, whole⟩⟩
    · exact ⟨listed, first, .inl (.aside aside whole)⟩
    · exact ⟨listed, first, .inr ⟨_, at', made, given, rfl, sent, .aside aside whole⟩⟩
  | entry checkpoint creation resource sent _ inductionHypothesis =>
    rcases List.prefix_cons_iff.mp before with rfl | ⟨rest, rfl, shorter⟩
    · exact ⟨[], List.nil_prefix, .inl .nil⟩
    rcases List.prefix_cons_iff.mp shorter with rfl | ⟨later, rfl, further⟩
    · exact ⟨[], List.nil_prefix, .inr ⟨[], checkpoint, creation, resource, rfl, sent, .nil⟩⟩
    rcases inductionHypothesis further with ⟨listed, first, whole | ⟨earlier, at', made, given,
      rfl, sentLater, whole⟩⟩
    · exact ⟨_, List.prefix_cons_inj _ |>.mpr first,
        .inl (.entry checkpoint creation resource sent whole)⟩
    · exact ⟨_, List.prefix_cons_inj _ |>.mpr first, .inr ⟨_, at', made, given, rfl, sentLater,
        .entry checkpoint creation resource sent whole⟩⟩

/-- A result is written behind some of the entries and before the others. -/
theorem at_write {trace front back : List Exchange} {entries : List Entry}
    (journal : run.Journal invocation trace entries) {target : Path} {text : String}
    {answer : Except Failure Unit}
    (point : trace = front ++ ⟨.file (.write target text), answer⟩ :: back) :
    ∃ before after, entries = before ++ after ∧ run.Journal invocation front before ∧
      run.Journal invocation back after := by
  induction journal generalizing front with
  | nil => exact absurd point.symm (List.append_ne_nil_of_right_ne_nil _ (List.cons_ne_nil _ _))
  | @aside exchange trace entries aside rest inductionHypothesis =>
    cases front with
    | nil =>
      cases point
      exact ⟨[], entries, rfl, .nil, rest⟩
    | cons first front =>
      cases point
      rcases inductionHypothesis rfl with ⟨before, after, rfl, early, late⟩
      exact ⟨before, after, rfl, .aside aside early, late⟩
  | entry checkpoint creation resource sent _ inductionHypothesis =>
    cases front with
    | nil => cases point
    | cons first front =>
      cases front with
      | nil => cases point
      | cons second front =>
        cases point
        rcases inductionHypothesis rfl with ⟨before, after, rfl, early, late⟩
        exact ⟨_ :: before, after, rfl, .entry checkpoint creation resource sent early, late⟩

end Journal

/-! ## Runs that are broken off -/

/-- A trace ends with a creation whose line could not be written, apart from
notes. -/
def BreaksOff (run : RunContext) (invocation : Invocation) (trace : List Exchange)
    (entries : List Entry) : Prop :=
  ∃ front checkpoint creation resource refusal notes,
    trace = front ++ creating creation resource ::
      run.recording checkpoint resource.id (.error refusal) :: notes ∧
    run.Sends invocation checkpoint creation ∧ run.Journal invocation front entries ∧
    ∀ exchange ∈ notes, exchange.IsNote

/-- The trace of a step has a journal, or the step failed because it was broken
off. -/
inductive Accounts (run : RunContext) (invocation : Invocation) {α : Type} :
    List Exchange → Except Failure α → List Entry → Prop
  | whole {trace : List Exchange} {outcome : Except Failure α} {entries : List Entry}
      (journal : run.Journal invocation trace entries) :
      Accounts run invocation trace outcome entries
  | broken {trace : List Exchange} {failure : Failure} {entries : List Entry}
      (breaks : run.BreaksOff invocation trace entries) :
      Accounts run invocation trace (.error failure) entries

namespace Accounts

variable {run : RunContext} {invocation : Invocation} {α β : Type}

/-- A step that succeeds was not broken off. -/
theorem journal {trace : List Exchange} {value : α} {entries : List Entry}
    (accounts : run.Accounts invocation trace (.ok value : Except Failure α) entries) :
    run.Journal invocation trace entries := by
  cases accounts with
  | whole journal => exact journal

theorem after {front back : List Exchange} {outcome : Except Failure α}
    {entries later : List Entry} (first : run.Journal invocation front entries)
    (second : run.Accounts invocation back outcome later) :
    run.Accounts invocation (front ++ back) outcome (entries ++ later) := by
  cases second with
  | whole journal => exact .whole (first.append journal)
  | broken breaks =>
    rcases breaks with ⟨middle, checkpoint, creation, resource, refusal, notes, rfl, sent, journal,
      noted⟩
    exact .broken ⟨front ++ middle, checkpoint, creation, resource, refusal, notes, by simp, sent,
      first.append journal, noted⟩

/-- A failure is handed on, whatever was to come. -/
theorem handedOn {trace : List Exchange} {failure : Failure} {entries : List Entry}
    (accounts : run.Accounts invocation trace (.error failure : Except Failure α) entries) :
    run.Accounts invocation trace (.error failure : Except Failure β) entries := by
  cases accounts with
  | whole journal => exact .whole journal
  | broken breaks => exact .broken breaks

/-- Notes behind a failure. -/
theorem noted {trace notes : List Exchange} {failure other : Failure} {entries : List Entry}
    (accounts : run.Accounts invocation trace (.error failure : Except Failure α) entries)
    (noted : ∀ exchange ∈ notes, exchange.IsNote) :
    run.Accounts invocation (trace ++ notes) (.error other : Except Failure β) entries := by
  cases accounts with
  | whole journal => exact .whole (journal.followed (.of_notes noted))
  | broken breaks =>
    rcases breaks with ⟨front, checkpoint, creation, resource, refusal, more, rfl, sent, journal,
      earlier⟩
    refine .broken ⟨front, checkpoint, creation, resource, refusal, more ++ notes, by simp, sent,
      journal, fun exchange member => ?_⟩
    exact (List.mem_append.mp member).elim (earlier exchange) (noted exchange)

end Accounts

end RunContext

end ModelRuns
