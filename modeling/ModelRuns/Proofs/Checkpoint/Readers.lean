import ModelRuns.Proofs.Checkpoint.Reset
import ModelRuns.Proofs.Pipeline.Obtaining

namespace ModelRuns

open Stateful

/-!
# Checkpoints as lists of identifiers

What was appended to a checkpoint can be read in two ways.  The run that goes on with it
reads its own identifiers back, and another run may be handed the file as a list of
identifiers of one kind.  The second way skips comments and looks at the kinds, but a line
that holds an identifier is read alike.

The two ways part where nothing was appended.  A checkpoint without a file holds no
identifiers, and a list of identifiers without a file is an error.
-/

/-- Files are found and read as they are: what is not there cannot be read. -/
def Exchange.Discloses (files : Path → Option String) (earlier : List Exchange) :
    Exchange → Prop
  | ⟨.file (.read path), answer⟩ => answer.toOption = textAfter path (files path) earlier
  | ⟨.file (.fileExists path), found⟩ =>
    found = (textAfter path (files path) earlier).isSome
  | _ => True

theorem Exchange.Discloses.reports {files : Path → Option String} {earlier : List Exchange}
    {exchange : Exchange} (discloses : exchange.Discloses files earlier) :
    exchange.Reports files earlier := by
  rcases exchange with ⟨asked, answer⟩
  cases asked with
  | file request =>
    cases request with
    | read path =>
      intro text known
      have given : Except.toOption answer = some text := Eq.trans discloses known
      cases answer with
      | error failure => cases given
      | ok held => exact congrArg Except.ok (Option.some.inj given)
    | fileExists path => exact discloses
    | _ => trivial
  | _ => trivial

theorem Exchange.discloses_of_reportedAnswer {files : Path → Option String}
    {earlier : List Exchange} {exchange : Exchange}
    (answered : exchange.answer = reportedAnswer files earlier exchange.asked) :
    exchange.Discloses files earlier := by
  rcases exchange with ⟨asked, answer⟩
  cases asked with
  | file request =>
    cases request with
    | read path =>
      have answered : answer = reportedAnswer files earlier (.file (.read path)) := answered
      rw [answered, reportedAnswer, Discloses]
      split
      next text known => rw [known]; rfl
      next missing => rw [missing]; rfl
    | fileExists path => exact answered
    | _ => trivial
  | _ => trivial

/-! ## Lists of identifiers of one kind -/

/-- An identifier of another kind is refused by name. -/
def ResourceId.mismatch (kind : ResourceKind) (id : ResourceId) : Failure :=
  .api ("expected a " ++ kind.text ++ " id, got `" ++ id.text ++ "`")

theorem ResourceId.Valid.parseKind_text {id : ResourceId} (valid : id.Valid)
    (kind : ResourceKind) :
    parseKind id.text kind = if id.kind = kind then .ok id else .error (id.mismatch kind) := by
  rw [parseKind, valid.parse_text]
  rfl

namespace RunContext

/-- Texts of identifiers are no comments. -/
theorem idsOfText_withFeeds (kind : ResourceKind) {ids : List ResourceId}
    (valid : ∀ id ∈ ids, id.Valid) :
    idsOfText kind (withFeeds (ids.map ResourceId.text)) =
      (ids.map ResourceId.text).mapM (ResourceId.parseKind · kind) := by
  have plain : (ids.map ResourceId.text).filter
      (fun line => line.toList.head? ≠ some '#') = ids.map ResourceId.text := by
    rw [List.filter_eq_self]
    intro line member
    rcases List.mem_map.mp member with ⟨id, _, rfl⟩
    rw [ResourceId.toList_text]
    cases id.kind <;> rfl
  rw [idsOfText, Checkpoint.idLines_withFeeds ids valid, plain]

/-- The identifiers are given if all are of the kind.  Else the first that is not is named. -/
theorem mapM_parseKind_texts (kind : ResourceKind) {ids : List ResourceId}
    (valid : ∀ id ∈ ids, id.Valid) :
    (ids.map ResourceId.text).mapM (ResourceId.parseKind · kind) =
      match ids.find? (fun id => id.kind ≠ kind) with
      | none => .ok ids
      | some stranger => .error (stranger.mismatch kind) := by
  induction ids with
  | nil => rfl
  | cons id rest inductionHypothesis =>
    have others := inductionHypothesis fun other member =>
      valid other (List.mem_cons_of_mem id member)
    rw [List.map_cons, List.mapM_cons, (valid id List.mem_cons_self).parseKind_text, others]
    by_cases same : id.kind = kind
    · rw [if_pos same, List.find?_cons_of_neg (by simpa using same)]
      cases rest.find? (fun id => id.kind ≠ kind) <;> rfl
    · rw [if_neg same, List.find?_cons_of_pos (by simpa using same)]
      rfl

/-- A list of identifiers is read from a file that is there. -/
theorem goes_readIds {files : Path → Option String} {earlier trace : List Exchange}
    {file : Path} {kind : ResourceKind} {run : RunContext} {before after : Progress}
    {outcome : Except Failure (List ResourceId)}
    (goes : Goes (run.readIds file kind) before trace outcome after)
    (discloses : Throughout (Exchange.Discloses files) earlier trace) :
    match textAfter (run.resolvePath file) (files (run.resolvePath file)) earlier with
    | some text => outcome = idsOfText kind text
    | none => ∃ failure, outcome = .error failure ∧
      trace = [⟨.file (.read (run.resolvePath file)), .error failure⟩] := by
  rcases (Action.yields_bind_iff _ _ _ _).mp ((goes_act_iff _ _ _ _ _).mp goes).1 with
    ⟨failure, refused, rfl⟩ | ⟨front, back, text, rfl, read, parses⟩
  · rcases (Action.yields_asking_iff (.file (.read _)) (fun answer => answer) _ _).mp refused with
      ⟨answer, rfl, same⟩
    subst same
    have missing : none = textAfter _ (files (run.resolvePath file)) earlier := discloses.1
    rw [← missing]
    exact ⟨failure, rfl, rfl⟩
  · rcases (Action.yields_asking_iff (.file (.read _)) (fun answer => answer) _ _).mp read with
      ⟨answer, rfl, same⟩
    subst same
    have held : some text = textAfter _ (files (run.resolvePath file)) earlier := discloses.1
    rw [← held]
    exact ((Action.yields_ofExcept_iff _ _ _).mp parses).2

end RunContext

/-! ## What was appended -/

namespace Checkpoint

variable {directory : Path} {checkpoint : Checkpoint} {ids : List ResourceId}

/-- Each identifier that is appended takes a line. -/
theorem textAfter_appends {written : List Exchange}
    (yields : (ids.forM (append directory checkpoint)).Yields written (.ok ()))
    (text : Option String) :
    textAfter (path directory checkpoint) text written = recorded text ids := by
  induction ids generalizing text written with
  | nil =>
    cases ((Action.yields_pure_iff _ _ _).mp yields).1
    rfl
  | cons id rest inductionHypothesis =>
    rcases Action.yields_bind_ok yields with ⟨front, back, _, rfl, appends, others⟩
    rcases (Action.yields_asking_iff (.file (.append _ _)) (fun answer => answer) _ _).mp
      appends with ⟨answer, rfl, same⟩
    subst same
    rw [textAfter_append, inductionHypothesis others, ← List.singleton_append (l := rest),
      ← recorded_append, recorded_singleton]
    simp [Exchange.applyTo]

/-- A text is read as an identifier exactly if, but for blanks at its ends, it is how a valid
identifier is written.

Identifiers that are appended to a checkpoint without a file are read back as they are, and
the first of them is the first of the checkpoint.  Handed on as a list of identifiers of one
kind, however it is spelled, the file gives them all if they are of the kind, and else the
first that is not is refused.  If nothing was appended there is no file to hand on, and
reading the list fails where reading the checkpoint does not. -/
theorem appended_ids_read_back :
    (∀ (value : String) (id : ResourceId),
      ResourceId.parse value = .ok id ↔ id.Valid ∧ id.text = trim value) ∧
    ∀ (files : Files) (directory : Path) (checkpoint : Checkpoint) (ids : List ResourceId)
        (written : List Exchange),
      files.text (path directory checkpoint) = none → (∀ id ∈ ids, id.Valid) →
      (ids.forM (append directory checkpoint)).Yields written (.ok ()) →
      (∀ trace found, (read directory checkpoint).Yields trace found →
        Throughout (Exchange.Discloses files.text) written trace → found = .ok ids) ∧
      (∀ trace found, (first? directory checkpoint).Yields trace found →
        Throughout (Exchange.Discloses files.text) written trace → found = .ok ids.head?) ∧
      ∀ (run : RunContext) (file : Path) (kind : ResourceKind) (before after : Progress)
          (trace : List Exchange) (outcome : Except Failure (List ResourceId)),
        (run.resolvePath file).same (path directory checkpoint) = true →
        Goes (run.readIds file kind) before trace outcome after →
        Throughout (Exchange.Discloses files.text) written trace →
        (ids ≠ [] ∧ (∀ id ∈ ids, id.kind = kind) ∧ outcome = .ok ids) ∨
        (∃ stranger, ids.find? (fun id => id.kind ≠ kind) = some stranger ∧
          outcome = .error (stranger.mismatch kind)) ∨
        ids = [] ∧ ∃ failure, outcome = .error failure ∧
          trace = [⟨.file (.read (run.resolvePath file)), .error failure⟩] := by
  refine ⟨ResourceId.parse_ok_iff, fun files directory checkpoint ids written missing valid
    appended => ?_⟩
  have held : textAfter (path directory checkpoint) (files.text (path directory checkpoint))
      written = recorded none ids := by
    rw [missing]
    exact textAfter_appends appended none
  have reads : ∀ trace found, (read directory checkpoint).Yields trace found →
      Throughout (Exchange.Discloses files.text) written trace → found = .ok ids := by
    intro trace found yields discloses
    rw [yields_read yields (discloses.mono fun _ _ => Exchange.Discloses.reports), held]
    exact ofText_recorded_none _ ids valid
  refine ⟨reads, fun trace found yields discloses => ?_,
    fun run file kind before after trace outcome same goes discloses => ?_⟩
  · rcases (Action.yields_bind_iff _ _ _ _).mp yields with
      ⟨failure, failed, _⟩ | ⟨front, back, listed, rfl, read, first⟩
    · cases reads _ _ failed discloses
    · cases reads _ _ read ((Throughout.append_iff _ _ _).mp discloses).1
      exact ((Action.yields_pure_iff _ _ _).mp first).2
  · have listed := RunContext.goes_readIds goes discloses
    rw [textAfter_of_same same, files.text_of_same _ _ same, held] at listed
    cases ids with
    | nil => exact .inr (.inr ⟨rfl, listed⟩)
    | cons id rest =>
      have whole : outcome = match (id :: rest).find? (fun id => id.kind ≠ kind) with
          | none => .ok (id :: rest)
          | some stranger => .error (stranger.mismatch kind) := by
        rw [← RunContext.mapM_parseKind_texts kind valid,
          ← RunContext.idsOfText_withFeeds kind valid]
        exact listed.trans (congrArg _ (String.empty_append ..))
      cases found : (id :: rest).find? (fun id => id.kind ≠ kind) with
      | none =>
        rw [found] at whole
        refine .inl ⟨List.cons_ne_nil _ _, fun other member => ?_, whole⟩
        simpa using List.find?_eq_none.mp found other member
      | some stranger =>
        rw [found] at whole
        exact .inr (.inl ⟨stranger, rfl, whole⟩)

/-! ## Models that are handed on -/

def noFiles : Files := (FileStore.ofFiles []).contents

def builtModels : List ResourceId :=
  [⟨.model, "5143a51a37203f2cf7000972"⟩, ⟨.model, "5143A51A37203F2CF7000973"⟩]

/-- The models are appended to a new checkpoint. -/
def modelsAppended : List Exchange × Except Failure Unit :=
  (builtModels.forM (append ⟨"/work/out"⟩ .models)).run.record (reportedAnswer noFiles.text) []

/-- What a checkpoint of models gives behind earlier exchanges. -/
def modelsRead (earlier : List Exchange) : List Exchange × Except Failure (List ResourceId) :=
  (read ⟨"/work/out"⟩ .models).run.record (reportedAnswer noFiles.text) earlier

def firstModelRead (earlier : List Exchange) :
    List Exchange × Except Failure (Option ResourceId) :=
  (first? ⟨"/work/out"⟩ .models).run.record (reportedAnswer noFiles.text) earlier

/-- What its file gives as a list of identifiers. -/
def modelsListed (kind : ResourceKind) (earlier : List Exchange) :
    List Exchange × Except Failure (List ResourceId) × Progress :=
  Stateful.recorded (reportedAnswer noFiles.text) (centroidRun.readIds ⟨"./out//models"⟩ kind)
    (Progress.start false) earlier

theorem discloses_record {α : Type} (action : Action α) (earlier : List Exchange) :
    Throughout (Exchange.Discloses noFiles.text) earlier
      (action.run.record (reportedAnswer noFiles.text) earlier).1 :=
  (Program.throughout_record (reportedAnswer noFiles.text) action.run earlier).mono
    fun _ _ => Exchange.discloses_of_reportedAnswer

theorem modelsListed_runs (kind : ResourceKind) (earlier : List Exchange) :
    Goes (centroidRun.readIds ⟨"./out//models"⟩ kind) (Progress.start false)
        (modelsListed kind earlier).1 (modelsListed kind earlier).2.1
        (modelsListed kind earlier).2.2 ∧
      Throughout (Exchange.Discloses noFiles.text) earlier (modelsListed kind earlier).1 :=
  ⟨goes_recorded (reportedAnswer noFiles.text) _ _ _ rfl,
    (Program.throughout_record (reportedAnswer noFiles.text) _ earlier).mono
      fun _ _ => Exchange.discloses_of_reportedAnswer⟩

/-- Two models are read back, and given as a list of models but not as one of datasets. -/
theorem appended_models_read_back :
    ResourceId.parse "\tmodel/5143a51a37203f2cf7000972 \n" =
      .ok ⟨.model, "5143a51a37203f2cf7000972"⟩ ∧
    (modelsRead modelsAppended.1).2 = .ok builtModels ∧
    (firstModelRead modelsAppended.1).2 = .ok builtModels.head? ∧
    (modelsListed .model modelsAppended.1).2.1 = .ok builtModels ∧
    ∃ stranger ∈ builtModels,
      (modelsListed .dataset modelsAppended.1).2.1 = .error (stranger.mismatch .dataset) := by
  have appended : (builtModels.forM (append ⟨"/work/out"⟩ .models)).Yields modelsAppended.1
      (.ok ()) :=
    Action.yields_record (reportedAnswer noFiles.text) _ [] (by decide +kernel)
  rcases appended_ids_read_back.2 noFiles ⟨"/work/out"⟩ .models builtModels _ rfl (by decide)
    appended with ⟨reads, firsts, lists⟩
  have spelled : (centroidRun.resolvePath ⟨"./out//models"⟩).same
      (path ⟨"/work/out"⟩ .models) = true := by decide
  refine ⟨(appended_ids_read_back.1 _ _).mpr (by decide), ?_, ?_, ?_, ?_⟩
  · exact reads _ _ (Action.yields_record (reportedAnswer noFiles.text) _ _ rfl)
      (discloses_record _ _)
  · exact firsts _ _ (Action.yields_record (reportedAnswer noFiles.text) _ _ rfl)
      (discloses_record _ _)
  · rcases modelsListed_runs .model modelsAppended.1 with ⟨goes, discloses⟩
    rcases lists _ _ _ _ _ _ _ spelled goes discloses with
      ⟨_, _, given⟩ | ⟨stranger, found, _⟩ | ⟨none, _⟩
    · exact given
    · cases found
    · cases none
  · rcases modelsListed_runs .dataset modelsAppended.1 with ⟨goes, discloses⟩
    rcases lists _ _ _ _ _ _ _ spelled goes discloses with
      ⟨_, same, _⟩ | ⟨stranger, found, refused⟩ | ⟨none, _⟩
    · exact absurd same (by decide)
    · exact ⟨stranger, List.mem_of_find?_eq_some found, refused⟩
    · cases none

/-- Nothing was appended, so that the checkpoint holds no models, and there is no list of
them. -/
theorem nothing_appended_not_listed :
    (([] : List ResourceId).forM (append ⟨"/work/out"⟩ .models)).Yields [] (.ok ()) ∧
    noFiles.text (path ⟨"/work/out"⟩ .models) = none ∧
    (centroidRun.resolvePath ⟨"./out//models"⟩).same (path ⟨"/work/out"⟩ .models) = true ∧
    Goes (centroidRun.readIds ⟨"./out//models"⟩ .model) (Progress.start false)
      (modelsListed .model []).1 (modelsListed .model []).2.1 (modelsListed .model []).2.2 ∧
    Throughout (Exchange.Discloses noFiles.text) [] (modelsListed .model []).1 ∧
    (modelsRead []).2 = .ok [] ∧ (modelsListed .model []).2.1 ≠ .ok [] := by
  rcases modelsListed_runs .model [] with ⟨goes, discloses⟩
  exact ⟨(Action.yields_pure_iff _ _ _).mpr ⟨rfl, rfl⟩, rfl, by decide, goes, discloses,
    by decide +kernel, by decide +kernel⟩

end Checkpoint

end ModelRuns
