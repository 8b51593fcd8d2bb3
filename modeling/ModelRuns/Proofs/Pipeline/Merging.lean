import ModelRuns.Proofs.Pipeline.Samples
import ModelRuns.Proofs.Pipeline.Sending

namespace ModelRuns

open Stateful

/-!
# Merging the datasets that are named

A user can name several datasets to train on, one with a flag and more in a file, and have
them merged.  The stage of the datasets waits for each of them in turn, so that it holds them
in the order in which they are named, and sends one request for all of them.

New fields are added before the merge, to the first of the datasets.  What comes out stands
for all of them, and there is nothing left to merge: the other datasets are in no request.
-/

/-! ## What was read from a file -/

/-- The text of an exchange that reads a file. -/
def Exchange.textRead? (path : Path) : Exchange → Option String
  | ⟨.file (.read target), .ok text⟩ => if target = path then some text else none
  | _ => none

/-- The text that a trace first reads from a file. -/
def textRead? (path : Path) (trace : List Exchange) : Option String :=
  trace.findSome? (Exchange.textRead? path)

theorem textRead?_append (path : Path) (front back : List Exchange) :
    textRead? path (front ++ back) = (textRead? path front).or (textRead? path back) :=
  List.findSome?_append

/-- A request that reads no file. -/
def Request.Readless (asked : Request) : Prop := ∀ path, asked ≠ .file (.read path)

theorem textRead?_of_readless {trace : List Exchange}
    (readless : ∀ exchange ∈ trace, exchange.asked.Readless) (path : Path) :
    textRead? path trace = none := by
  refine List.findSome?_eq_none_iff.mpr fun exchange member => ?_
  rcases exchange with ⟨asked, answer⟩
  cases asked with
  | file request =>
    cases request with
    | read target => exact absurd rfl (readless _ member target)
    | _ => rfl
  | _ => rfl

theorem asks_fetch_readless {run : RunContext} {stage : Stage} (id : ResourceId) :
    Asks Request.Readless (run.fetch stage (.unresolved id)) := by
  refine .bind (.act (.bind (.asking .now .ok nofun) fun time => ?_)) fun _ => ?_
  · refine .bind (.asking (.file (.append _ _)) (fun answer => answer) nofun) fun _ =>
      .ite ?_ (.pure ())
    exact .asking (.printLine _) (fun answer => answer) nofun
  · refine .bind (.act ((asks_poll _ id none 0 _).mono ?_)) fun _ => ?_
    · rintro asked polls path rfl
      cases polls
    · exact .bind (.changing _) fun _ => .pure _

namespace RunContext

variable {run : RunContext} {stage : Stage} {kind : ResourceKind} {before after : Progress}
  {trace : List Exchange} {resources : List Resource}

/-! ## Datasets that are named -/

/-- The identifiers that a flag and a file name, as a trace shows the file. -/
def namedIds (run : RunContext) (kind : ResourceKind) (text : Option String)
    (path : Option Path) (trace : List Exchange) : List ResourceId :=
  (text.bind fun text => (ResourceId.parseKind text kind).toOption).toList ++
    ((path.bind fun path => textRead? (run.resolvePath path) trace).bind
      fun text => (idsOfText kind text).toOption).getD []

theorem ids_of_fetchNamed {text : Option String}
    (goes : Goes (run.fetchNamed stage kind text) before trace (.ok resources) after)
    (faithful : ∀ exchange ∈ trace, exchange.Faithful) :
    resources.map Resource.id =
      (text.bind fun text => (ResourceId.parseKind text kind).toOption).toList := by
  cases text with
  | none =>
    rcases (goes_pure_iff _ _ _ _ _).mp goes with ⟨_, same, _⟩
    cases same
    rfl
  | some text =>
    rcases goes_bind_ok goes with ⟨parsing, rest, id, _, rfl, parses, fetches⟩
    rcases goes_map_ok (fun resource => [resource]) fetches with ⟨resource, rfl, fetched⟩
    have parsed := ((Action.yields_ofExcept_iff _ _ _).mp ((goes_act_iff _ _ _ _ _).mp parses).1).2
    have same := id_of_fetch fetched fun exchange member =>
      faithful exchange (List.mem_append_right parsing member)
    rw [Option.bind_some, ← parsed, List.map_singleton, same]
    rfl

theorem readless_of_fetchNamed {text : Option String} {outcome : Except Failure (List Resource)}
    (goes : Goes (run.fetchNamed stage kind text) before trace outcome after) :
    ∀ exchange ∈ trace, exchange.asked.Readless := by
  have asks : Asks Request.Readless (run.fetchNamed stage kind text) := by
    cases text with
    | none => exact .pure []
    | some text =>
      exact .bind (.ofExcept _) fun id => .bind (asks_fetch_readless id) fun _ => .pure _
  exact asks _ _ _ _ goes

/-- The first that the step reads is the list of identifiers. -/
theorem ids_of_fetchListed {path : Option Path}
    (goes : Goes (run.fetchListed stage kind path) before trace (.ok resources) after)
    (faithful : ∀ exchange ∈ trace, exchange.Faithful) :
    (path.isSome = true → ∃ text, (path.bind fun path =>
      textRead? (run.resolvePath path) trace) = some text) ∧
    resources.map Resource.id = ((path.bind fun path => textRead? (run.resolvePath path) trace).bind
      fun text => (idsOfText kind text).toOption).getD [] := by
  cases path with
  | none =>
    rcases (goes_pure_iff _ _ _ _ _).mp goes with ⟨_, same, _⟩
    cases same
    exact ⟨nofun, rfl⟩
  | some path =>
    rcases goes_bind_ok goes with ⟨reading, rest, ids, _, rfl, reads, fetches⟩
    rcases Action.yields_bind_ok ((goes_act_iff _ _ _ _ _).mp reads).1 with
      ⟨front, back, text, rfl, read, parses⟩
    rcases (Action.yields_asking_iff (.file (.read _)) (fun answer => answer) _ _).mp read with
      ⟨answer, rfl, same⟩
    subst same
    rcases (Action.yields_ofExcept_iff _ _ _).mp parses with ⟨rfl, parsed⟩
    have shown : textRead? (run.resolvePath path)
        (([⟨.file (.read (run.resolvePath path)), .ok text⟩] ++ []) ++ rest) = some text := by
      simp [textRead?, Exchange.textRead?]
    have found := ids_of_fetchAll fetches fun exchange member =>
      faithful exchange (List.mem_append_right _ member)
    rw [List.map_map] at found
    rw [Option.bind_some, shown]
    refine ⟨fun _ => ⟨text, rfl⟩, ?_⟩
    rw [Option.bind_some, ← parsed]
    exact found.trans (List.map_id' ids)

/-- What is given is what is named, in the same order, whatever is read later. -/
theorem ids_of_fetchGiven {text : Option String} {path : Option Path}
    (goes : Goes (run.fetchGiven stage kind text path) before trace (.ok resources) after)
    (faithful : ∀ exchange ∈ trace, exchange.Faithful) (later : List Exchange) :
    resources.map Resource.id = run.namedIds kind text path (trace ++ later) := by
  rcases goes_bind_ok goes with ⟨naming, listing, named, _, rfl, names, lists⟩
  rcases goes_map_ok (fun listed => named ++ listed) lists with ⟨listed, rfl, given⟩
  rcases ids_of_fetchListed given fun exchange member =>
    faithful exchange (List.mem_append_right naming member) with ⟨shown, found⟩
  have first : (path.bind fun path =>
        textRead? (run.resolvePath path) (naming ++ listing ++ later)) =
      path.bind fun path => textRead? (run.resolvePath path) listing := by
    cases path with
    | none => rfl
    | some path =>
      rcases shown rfl with ⟨text, read⟩
      rw [Option.bind_some] at read
      rw [Option.bind_some, Option.bind_some, textRead?_append, textRead?_append,
        textRead?_of_readless (readless_of_fetchNamed names), Option.none_or, read]
      rfl
  rw [namedIds, first, List.map_append, found,
    ids_of_fetchNamed names fun exchange member =>
      faithful exchange (List.mem_append_left listing member)]

/-- Looking for what is named creates nothing and leaves the cursor alone. -/
theorem idle_fetchGiven (invocation : Invocation) (text : Option String) (path : Option Path) :
    run.Idle invocation (run.fetchGiven stage kind text path) := by
  have named : run.Idle invocation (run.fetchNamed stage kind text) := by
    cases text with
    | none => exact .pure []
    | some text =>
      exact .bind (.act (.ofExcept _)) fun id => .bind (.fetch stage id) fun _ => .pure _
  have listed : run.Idle invocation (run.fetchListed stage kind path) := by
    cases path with
    | none => exact .pure []
    | some path =>
      have reading : run.Quiet invocation (run.readIds path kind) := by
        unfold RunContext.readIds
        rw [act_bind]
        exact .bind (.asking (.file (.read _)) (fun answer => answer) fun _ => trivial)
          fun _ => .ofExcept _
      exact .bind (.act reading) fun ids => .fetchAll stage ids
  exact .bind named fun _ => .bind listed fun _ => .pure _

end RunContext

/-! ## Requests for one dataset from several -/

namespace Creation

/-- A request that does not name several origins. -/
def Single (creation : Creation) : Prop := ∀ ids, creation.origin ≠ .resources ids

/-- A request for one dataset from all that are named, in their order.  Where the first was
extended, another one stands for it. -/
structure Merges (named : List ResourceId) (extended : Bool) (creation : Creation) : Prop where
  kind : creation.kind = .dataset
  origins : ∃ first, (extended = false → named.head? = some first) ∧
    creation.origin = .resources (first :: named.tail) ∧
    getField? "origin_datasets" creation.body =
      some (.ofTexts ((first :: named.tail).map ResourceId.text))

theorem Merges.not_single {named : List ResourceId} {extended : Bool} {creation : Creation}
    (merges : creation.Merges named extended) : ¬creation.Single := by
  rcases merges.origins with ⟨first, _, origin, _⟩
  exact fun single => single _ origin

/-- The origins are sent, whatever the arguments are. -/
theorem merges_resources (named : List ResourceId) (present : named ≠ []) (extended : Bool)
    (arguments : Json) : Merges named extended ⟨.dataset, .resources named, arguments⟩ := by
  cases named with
  | nil => exact absurd rfl present
  | cons first rest =>
    refine ⟨rfl, first, fun _ => rfl, rfl, ?_⟩
    exact (getField?_mergeFields _ _ _).trans rfl

end Creation

namespace RunContext

variable {run : RunContext} {common : CommonOptions}

theorem sendsEach_withNewFields (first : Resource) (datasets : List Resource) :
    SendsEach Creation.Single (run.withNewFields common first datasets) := by
  unfold withNewFields
  split
  next => exact .pure _
  next =>
    exact .bind (.of_plain (.readJson _)) fun _ => .bind (sendsEach_obtainOne nofun) fun _ =>
      .pure _

theorem sendsEach_split (dataset : Resource) (datasets : List Resource) :
    SendsEach Creation.Single (run.split common dataset datasets) := by
  unfold split
  split
  next =>
    exact .bind (sendsEach_obtainOne nofun) fun _ => .bind (sendsEach_obtainOne nofun) fun _ =>
      .pure _
  next => exact .pure _

theorem sendsEach_divided (limit : Option CategoryLimit) (training : TrainingData) :
    SendsEach Creation.Single (run.divided common limit training) := by
  unfold divided
  split
  next =>
    refine .bind (.of_saving (.ofExcept _)) fun _ => .bind (sendsEach_obtainMany ?_) fun _ =>
      .pure _
    intro creation member
    rcases List.mem_map.mp member with ⟨filter, _, rfl⟩
    exact nofun
  next => exact .pure _

theorem sendsEach_exportDataset (dataset : Resource) :
    SendsEach Creation.Single (run.exportDataset common dataset) := by
  unfold exportDataset
  split
  next => exact .pure ()
  next => exact .of_saving (.saving_saveTo _ _)

variable {source : Option Resource} {limit : Option CategoryLimit} {before after : Progress}
  {trace : List Exchange} {training : TrainingData}

/-- The stage of the datasets comes to the merge with what new fields have left, and behind
the merge it names no several origins. -/
theorem parts_of_datasetStage
    (goes : Goes (run.datasetStage common source limit) before trace (.ok training) after) :
    ∃ opening rest given middle, trace = opening ++ rest ∧
      Goes (run.firstDatasets common source) before opening (.ok given) middle ∧
      (given = [] ∨ ∃ first extending merging closing extended datasets reached last,
        rest = extending ++ (merging ++ closing) ∧
        Goes (run.withNewFields common first given) middle extending (.ok extended) reached ∧
        Goes (run.merged common extended) reached merging (.ok datasets) last ∧
        ∀ creation ∈ sent closing, creation.Single) := by
  rcases goes_bind_ok goes with ⟨opening, rest, given, middle, rfl, opens, goes⟩
  refine ⟨opening, rest, given, middle, rfl, opens, ?_⟩
  cases given with
  | nil => exact .inl rfl
  | cons first more =>
    rcases goes_bind_ok goes with ⟨extending, rest, extended, reached, rfl, extends_, goes⟩
    rcases goes_bind_ok goes with ⟨merging, closing, datasets, last, rfl, merges, goes⟩
    refine .inr ⟨first, extending, merging, closing, extended, datasets, reached, last, rfl,
      extends_, merges, ?_⟩
    refine SendsEach.bind (.of_plain (.publish _ _ _)) (fun _ => ?_) _ _ _ _ goes
    split
    next => exact .pure _
    next =>
      exact .bind (sendsEach_exportDataset _) fun _ => .bind (sendsEach_split _ _) fun _ =>
        sendsEach_divided _ _

/-- Several datasets are merged with one request. -/
theorem sent_merged {datasets merged : List Resource} (asked : common.multiDataset = true)
    (several : 1 < datasets.length) (fresh : before.cursor.resuming = false)
    (goes : Goes (run.merged common datasets) before trace (.ok merged) after) :
    sent trace = [⟨.dataset, .resources (datasets.map Resource.id),
      .object common.baseArguments⟩] := by
  rw [RunContext.merged, if_pos ⟨asked, several⟩] at goes
  rcases goes_map_ok (fun dataset => [dataset]) goes with ⟨dataset, _, obtains⟩
  exact sent_obtainOne fresh obtains

/-- Of one dataset nothing is merged. -/
theorem sendsEach_merged {datasets : List Resource} (alone : datasets.length = 1) :
    SendsEach Creation.Single (run.merged common datasets) := by
  have nothing : ¬(common.multiDataset = true ∧ 1 < datasets.length) := by
    rintro ⟨_, several⟩
    omega
  rw [RunContext.merged, if_neg nothing]
  exact .pure _

/-- New fields leave one dataset. -/
theorem length_withNewFields (asked : common.newFields ≠ none) (first : Resource)
    (datasets : List Resource) :
    Returns (fun extended => extended.length = 1) (run.withNewFields common first datasets) := by
  unfold RunContext.withNewFields
  split
  next without => exact absurd without asked
  next => exact .behind fun _ => .behind fun _ => .pure rfl

/-- The datasets to train on that the user names. -/
def namedDatasets (run : RunContext) (common : CommonOptions) (trace : List Exchange) :
    List ResourceId := run.namedIds .dataset common.dataset common.datasets trace

/-- Datasets that are named are what the stage begins with. -/
theorem ids_of_firstDatasets {invocation : Invocation} {given : List Resource}
    (goes : Goes (run.firstDatasets invocation.common source) before trace (.ok given) after)
    (faithful : ∀ exchange ∈ trace, exchange.Faithful) (later : List Exchange)
    (named : run.namedDatasets invocation.common (trace ++ later) ≠ []) :
    given.map Resource.id = run.namedDatasets invocation.common (trace ++ later) ∧
      sent trace = [] ∧ after.cursor = before.cursor := by
  rcases goes_bind_ok goes with ⟨looking, rest, found, middle, rfl, looks, goes⟩
  have same := ids_of_fetchGiven looks (fun exchange member =>
    faithful exchange (List.mem_append_left rest member)) (rest ++ later)
  rw [← List.append_assoc] at same
  have still : middle.cursor = before.cursor :=
    (idle_fetchGiven invocation _ _).still _ _ _ _ looks
  cases found with
  | nil => exact absurd same.symm named
  | cons first more =>
    rcases (goes_pure_iff _ _ _ _ _).mp goes with ⟨rfl, value, rfl⟩
    cases value
    refine ⟨same, ?_, still⟩
    rw [List.append_nil]
    exact (Asks.saving (Plain.fetchGiven _ _ _)).sent_eq_nil looks

/-- Datasets that are to be merged are all in one request, in the order in which they are
named, exactly if no new fields are given.  With new fields there is no request that names
several datasets. -/
theorem merges_named_iff {invocation : Invocation}
    (asked : invocation.common.multiDataset = true) (fresh : before.cursor.resuming = false)
    (goes : Goes (run.datasetStage invocation.common source limit) before trace (.ok training)
      after)
    (faithful : ∀ exchange ∈ trace, exchange.Faithful)
    (several : 1 < (run.namedDatasets invocation.common trace).length) :
    ((∃ creation ∈ sent trace, creation.Merges (run.namedDatasets invocation.common trace)
        invocation.common.newFields.isSome) ↔ invocation.common.newFields = none) ∧
      (invocation.common.newFields ≠ none → ∀ creation ∈ sent trace, creation.Single) := by
  have present : run.namedDatasets invocation.common trace ≠ [] := by
    rintro empty
    rw [empty] at several
    exact absurd several (by decide)
  rcases parts_of_datasetStage goes with ⟨opening, rest, given, middle, rfl, opens, parts⟩
  rcases ids_of_firstDatasets opens (fun exchange member =>
    faithful exchange (List.mem_append_left rest member)) rest present with ⟨ids, quiet, still⟩
  have count : 1 < given.length := by
    rw [← ids, List.length_map] at several
    exact several
  rcases parts with rfl | ⟨first, extending, merging, closing, extended, datasets, reached, last,
    rfl, extends_, merges, closes⟩
  · cases count
  have single (extra : invocation.common.newFields ≠ none) :
      ∀ creation ∈ sent (opening ++ (extending ++ (merging ++ closing))), creation.Single := by
    have alone := length_withNewFields extra _ _ _ _ _ _ extends_
    simp only [sent_append, quiet, List.nil_append]
    exact List.forall_mem_append.mpr ⟨sendsEach_withNewFields _ _ _ _ _ _ extends_,
      List.forall_mem_append.mpr ⟨sendsEach_merged alone _ _ _ _ merges, closes⟩⟩
  refine ⟨⟨?_, fun without => ?_⟩, single⟩
  · rintro ⟨creation, member, whole⟩
    by_contra extra
    exact whole.not_single (single extra creation member)
  · have kept : extended = given ∧ reached = middle := by
      rw [RunContext.withNewFields, without] at extends_
      rcases (goes_pure_iff _ _ _ _ _).mp extends_ with ⟨_, value, same⟩
      cases value
      exact ⟨rfl, same⟩
    rcases kept with ⟨rfl, rfl⟩
    have sends := sent_merged asked count (still ▸ fresh) merges
    rw [ids] at sends
    refine ⟨_, ?_, Creation.merges_resources _ present _ (.object invocation.common.baseArguments)⟩
    simp [sends]

/-! ## Three datasets -/

theorem faithful_of_reportedAnswer (files : Path → Option String) (earlier : List Exchange)
    (exchange : Exchange)
    (answered : exchange.answer = reportedAnswer files earlier exchange.asked) :
    exchange.Faithful := by
  rcases exchange with ⟨asked, answer⟩
  cases asked with
  | api request =>
    cases request with
    | get id query =>
      rintro resource given _
      cases given.symm.trans answered
      rfl
    | _ => trivial
  | _ => trivial

/-- Two of three datasets stand in a file. -/
def threeFiles (path : Path) : Option String :=
  if path = ⟨"/work/more"⟩ then
    some "dataset/000000000000000000000002\n# from last year\ndataset/000000000000000000000003\n"
  else if path = ⟨"/work/fields.json"⟩ then some "[]" else none

def threeIds : List ResourceId :=
  [⟨.dataset, "000000000000000000000001"⟩, ⟨.dataset, "000000000000000000000002"⟩,
    ⟨.dataset, "000000000000000000000003"⟩]

/-- Merge three datasets, with new fields or without. -/
def threeInvocation (newFields : Option Path) : Invocation :=
  .main { listedOptions with
    common := { centroidOptions with
      testSet := none
      dataset := some "dataset/000000000000000000000001"
      datasets := some ⟨"more"⟩
      newFields
      multiDataset := true } }

def threeRun (newFields : Option Path) :
    List Exchange × Except Failure TrainingData × Progress :=
  recorded (reportedAnswer threeFiles)
    (centroidRun.datasetStage (threeInvocation newFields).common none none) (Progress.start false) []

theorem threeRun_facts : ∀ newFields ∈ [none, some ⟨"fields.json"⟩],
    (threeRun newFields).2.1.isOk = true ∧
      centroidRun.namedDatasets (threeInvocation newFields).common (threeRun newFields).1 =
        threeIds := by
  decide +kernel

/-- Three datasets are merged, but not if the first is given new fields. -/
theorem merges_threeDatasets :
    (∃ creation ∈ sent (threeRun none).1, creation.Merges threeIds false) ∧
      ∀ creation ∈ sent (threeRun (some ⟨"fields.json"⟩)).1, creation.Single := by
  have merges : ∀ newFields ∈ [none, some ⟨"fields.json"⟩],
      ((∃ creation ∈ sent (threeRun newFields).1,
        creation.Merges threeIds newFields.isSome) ↔ newFields = none) ∧
      (newFields ≠ none → ∀ creation ∈ sent (threeRun newFields).1, creation.Single) := by
    intro newFields member
    rcases threeRun_facts newFields member with ⟨succeeded, named⟩
    cases outcome : (threeRun newFields).2.1 with
    | error failure =>
      rw [outcome] at succeeded
      cases succeeded
    | ok training =>
      have goes : Goes (centroidRun.datasetStage (threeInvocation newFields).common none none)
          (Progress.start false) (threeRun newFields).1 (.ok training) (threeRun newFields).2.2 :=
        goes_recorded (reportedAnswer threeFiles) _ _ _ outcome
      have faithful : ∀ exchange ∈ (threeRun newFields).1, exchange.Faithful :=
        (Program.throughout_record (reportedAnswer threeFiles) _ []).forall_mem
          (faithful_of_reportedAnswer threeFiles)
      have several : 1 < (centroidRun.namedDatasets (threeInvocation newFields).common
          (threeRun newFields).1).length := by
        rw [named]
        decide
      have settled := merges_named_iff rfl rfl goes faithful several
      rw [named] at settled
      exact settled
  exact ⟨(merges none (by decide)).1.mpr rfl, (merges _ (by decide)).2 nofun⟩

end RunContext

end ModelRuns
