import Mathlib.Data.List.Nodup
import ModelRuns.Proofs.Pipeline.Resuming

namespace ModelRuns

open Stateful

/-!
# Datasets of centroids across attempts

A run asks for a dataset of every selected centroid that the cluster lists none for.  One
that resumes works these centroids out anew, from the cluster as it is now, and takes up
what the checkpoint holds for the first of them.  The checkpoint does not say which centroid
an identifier was created for.

So every centroid has its own dataset exactly if the datasets that are taken up were created
for the first of the centroids that are now without one.  This fails once the cluster lists
a dataset that an interrupted attempt created while others are still missing.
-/

/-! ## Which dataset belongs to which centroid -/

/-- The centroid whose rows a request asks for. -/
def Creation.centroid? (creation : Creation) : Option String :=
  (creation.arguments.field? "centroid").bind Json.text?

/-- The entries of one checkpoint. -/
def Entry.placedAt (checkpoint : Checkpoint) (entries : List Entry) : List Entry :=
  entries.filter fun entry => entry.checkpoint = checkpoint

/-- New entries of a checkpoint may be put before those that are left in it. -/
theorem Entry.perm_placedAt_append {checkpoint : Checkpoint} {entries made : List Entry}
    (placed : ∀ entry ∈ made, entry.checkpoint = checkpoint) (count : Nat) :
    (placedAt checkpoint (entries ++ made)).Perm
      ((placedAt checkpoint entries).take count ++ made ++
        (placedAt checkpoint entries).drop count) := by
  have here : placedAt checkpoint made = made :=
    List.filter_eq_self.mpr fun entry member => decide_eq_true (placed entry member)
  have whole : placedAt checkpoint (entries ++ made) =
      (placedAt checkpoint entries).take count ++ (placedAt checkpoint entries).drop count ++
        made := by
    rw [List.take_append_drop, placedAt, List.filter_append]
    exact congrArg (placedAt checkpoint entries ++ ·) here
  rw [whole, List.append_assoc, List.append_assoc]
  exact List.perm_append_comm.append_left _

/-- The dataset was created for the centroid. -/
def Entry.IsFor (centroid : Centroid) (entry : Entry) : Prop :=
  entry.creation.centroid? = some centroid.id

instance (centroid : Centroid) : DecidablePred (Entry.IsFor centroid) := fun entry =>
  inferInstanceAs (Decidable (entry.creation.centroid? = some centroid.id))

/-- The dataset of a centroid is the one that the cluster lists for it, or else the only one
that was created for it. -/
def Centroid.Owns (entries : List Entry) (centroid : Centroid) (dataset : ResourceId) : Prop :=
  centroid.dataset = some dataset ∨ centroid.dataset = none ∧
    ((Entry.placedAt .clusterDatasets entries).filter (Entry.IsFor centroid)).map Entry.id =
      [dataset]

/-- The datasets taken up belong to the first of the missing centroids: they were created for
these, in this order, and what is left in the checkpoint for none of them. -/
structure InLine (missing : List Centroid) (taken left : List Entry) : Prop where
  distinct : (missing.map Centroid.id).Nodup
  inOrder : taken.map (·.creation.centroid?) = (missing.take taken.length).map (some ·.id)
  others : ∀ entry ∈ left, ∀ centroid ∈ missing, ¬entry.IsFor centroid

/-- A list without repetitions that keeps one item only. -/
theorem filter_eq_singleton {α : Type} {items : List α} {keeps : α → Prop} [DecidablePred keeps]
    {item : α} (nodup : items.Nodup) (member : item ∈ items)
    (only : ∀ other ∈ items, keeps other ↔ other = item) : items.filter keeps = [item] := by
  refine List.perm_singleton.mp ((List.perm_ext_iff_of_nodup (nodup.filter _)
    (List.nodup_singleton item)).mpr fun other => ?_)
  rw [List.mem_filter, decide_eq_true_iff, List.mem_singleton]
  constructor
  · rintro ⟨listed, kept⟩
    exact (only other listed).mp kept
  · rintro rfl
    exact ⟨member, (only other member).mpr rfl⟩

section

variable {missing : List Centroid} {taken rest : List Entry}

theorem map_map_some (missing : List Centroid) :
    (missing.map Centroid.id).map some = missing.map (some ·.id) :=
  List.map_map

/-- Lists of one length agree if their members do pair by pair. -/
theorem map_eq_of_zip (length : taken.length = missing.length)
    (each : ∀ pair ∈ missing.zip taken, pair.2.IsFor pair.1) :
    taken.map (·.creation.centroid?) = missing.map (some ·.id) := by
  induction missing generalizing taken with
  | nil => rw [List.length_eq_zero_iff.mp length]; rfl
  | cons centroid others inductionHypothesis =>
    cases taken with
    | nil => cases length
    | cons entry more =>
      have first : entry.IsFor centroid := each (centroid, entry) List.mem_cons_self
      rw [List.map_cons, List.map_cons, first, inductionHypothesis (Nat.succ.inj length)
        fun pair member => each pair (List.mem_cons_of_mem _ member)]

theorem isFor_of_zip (same : taken.map (·.creation.centroid?) = missing.map (some ·.id)) :
    ∀ pair ∈ missing.zip taken, pair.2.IsFor pair.1 := by
  induction missing generalizing taken with
  | nil => exact List.forall_mem_nil _
  | cons centroid others inductionHypothesis =>
    cases taken with
    | nil => cases same
    | cons entry more =>
      rw [List.map_cons, List.map_cons, List.cons.injEq] at same
      exact List.forall_mem_cons.mpr ⟨same.1, inductionHypothesis same.2⟩

/-- If each centroid has its entry alone, then the entries that are taken stand for the centroids
one by one, and the rest for none of them. -/
theorem aligned_of_only (length : taken.length = missing.length) (nodup : (taken ++ rest).Nodup)
    (only : ∀ pair ∈ missing.zip taken, (taken ++ rest).filter (Entry.IsFor pair.1) = [pair.2]) :
    (missing.map Centroid.id).Nodup ∧
      taken.map (·.creation.centroid?) = missing.map (some ·.id) ∧
      ∀ entry ∈ rest, ∀ centroid ∈ missing, ¬entry.IsFor centroid := by
  rcases List.nodup_append.mp nodup with ⟨nodupTaken, _, apart⟩
  have snds : (missing.zip taken).map Prod.snd = taken := List.map_snd_zip length.le
  have fsts : (missing.zip taken).map Prod.fst = missing := List.map_fst_zip length.ge
  have mine : ∀ pair ∈ missing.zip taken, pair.2.IsFor pair.1 := by
    intro pair member
    have kept : pair.2 ∈ (taken ++ rest).filter (Entry.IsFor pair.1) := by
      rw [only pair member]
      exact List.mem_singleton_self _
    exact of_decide_eq_true (List.mem_filter.mp kept).2
  have alone : ∀ pair ∈ missing.zip taken, ∀ entry ∈ taken ++ rest, entry.IsFor pair.1 →
      entry = pair.2 := by
    intro pair member entry listed isFor
    have kept : entry ∈ (taken ++ rest).filter (Entry.IsFor pair.1) :=
      List.mem_filter.mpr ⟨listed, decide_eq_true isFor⟩
    rw [only pair member] at kept
    exact List.mem_singleton.mp kept
  have same := map_eq_of_zip length mine
  refine ⟨?_, same, ?_⟩
  · have nodupKeys : (taken.map (·.creation.centroid?)).Nodup := by
      refine List.Nodup.map_on (fun entry listed other listedOther equal => ?_) nodupTaken
      rw [← snds] at listedOther
      rcases List.mem_map.mp listedOther with ⟨pair, member, rfl⟩
      exact alone pair member entry (List.mem_append_left _ listed)
        (equal.trans (mine pair member))
    rw [same, ← map_map_some] at nodupKeys
    exact nodupKeys.of_map some
  · intro entry behind centroid listed isFor
    rw [← fsts] at listed
    rcases List.mem_map.mp listed with ⟨pair, member, rfl⟩
    have taken := List.mem_map_of_mem (f := Prod.snd) member
    rw [snds] at taken
    exact apart _ taken _ behind
      (alone pair member entry (List.mem_append_right _ behind) isFor).symm

/-- The converse. -/
theorem only_of_aligned (nodup : (taken ++ rest).Nodup)
    (distinct : (missing.map Centroid.id).Nodup)
    (same : taken.map (·.creation.centroid?) = missing.map (some ·.id))
    (others : ∀ entry ∈ rest, ∀ centroid ∈ missing, ¬entry.IsFor centroid) :
    ∀ pair ∈ missing.zip taken, (taken ++ rest).filter (Entry.IsFor pair.1) = [pair.2] := by
  intro pair member
  have paired := isFor_of_zip same pair member
  rcases List.of_mem_zip (a := pair.1) (b := pair.2) member with ⟨listed, inside⟩
  have none : rest.filter (Entry.IsFor pair.1) = [] :=
    List.filter_eq_nil_iff.mpr fun entry behind isFor =>
      others entry behind pair.1 listed (of_decide_eq_true isFor)
  have nodupKeys : (taken.map (·.creation.centroid?)).Nodup := by
    rw [same, ← map_map_some]
    exact distinct.map fun _ _ => Option.some.inj
  rw [List.filter_append, none, List.append_nil]
  refine filter_eq_singleton (nodup.sublist (List.sublist_append_left taken rest)) inside
    fun other listedOther => ⟨fun isFor => ?_, ?_⟩
  · exact List.inj_on_of_nodup_map nodupKeys listedOther inside (isFor.trans paired.symm)
  · rintro rfl
    exact paired

/-- The same of identifiers, if no two datasets share one. -/
theorem onlyIds_iff (distinct : ((taken ++ rest).map Entry.id).Nodup) :
    (∀ pair ∈ missing.zip (taken.map Entry.id),
        ((taken ++ rest).filter (Entry.IsFor pair.1)).map Entry.id = [pair.2]) ↔
      ∀ pair ∈ missing.zip taken, (taken ++ rest).filter (Entry.IsFor pair.1) = [pair.2] := by
  rw [List.zip_map_right, List.forall_mem_map]
  simp only [Prod.map_fst, Prod.map_snd, id_eq]
  refine forall₂_congr fun pair member => ⟨fun single => ?_, fun single => ?_⟩
  · rcases List.map_eq_singleton_iff.mp single with ⟨entry, alone, same⟩
    have listed : entry ∈ taken ++ rest := by
      have kept : entry ∈ (taken ++ rest).filter (Entry.IsFor pair.1) := by
        rw [alone]
        exact List.mem_singleton_self _
      exact (List.mem_filter.mp kept).1
    have other : pair.2 ∈ taken ++ rest :=
      List.mem_append_left _ (List.of_mem_zip (a := pair.1) (b := pair.2) member).2
    rw [alone, List.inj_on_of_nodup_map distinct listed other same]
  · exact congrArg (List.map Entry.id) single

end

/-! ## Recorded datasets that are taken up -/

section

variable {cluster : ResourceId} {missing : List Centroid} {taken made left : List Entry}

theorem centroid?_centroidDatasetCreation (cluster : ResourceId) (centroid : Centroid) :
    (RunContext.centroidDatasetCreation cluster centroid).centroid? = some centroid.id := by
  simp only [Creation.centroid?, RunContext.centroidDatasetCreation, Json.ofFields, orderFields,
    mergeFields, List.foldl_cons, List.foldl_nil, setField, String.reduceEq, String.reduceLT,
    if_false, if_true, Json.field?, getField?, Option.bind_some, Json.text?]

theorem map_centroid?_eq {wanted : List Centroid}
    (requests : made.map Entry.creation =
      wanted.map (RunContext.centroidDatasetCreation cluster)) :
    made.map (·.creation.centroid?) = wanted.map (some ·.id) := by
  have named := congrArg (List.map Creation.centroid?) requests
  rw [List.map_map, List.map_map] at named
  refine named.trans (List.map_congr_left fun centroid _ => ?_)
  exact centroid?_centroidDatasetCreation cluster centroid

theorem length_taken (few : taken.length ≤ missing.length)
    (rest : made.map Entry.creation = (missing.drop taken.length).map
      (RunContext.centroidDatasetCreation cluster)) :
    (taken ++ made).length = missing.length := by
  have count := congrArg List.length rest
  rw [List.length_map, List.length_map, List.length_drop] at count
  rw [List.length_append, count, Nat.add_sub_cancel' few]

/-- Each missing centroid gets its own dataset exactly if those taken up are in line. -/
theorem inLine_iff (distinct : ((taken ++ made ++ left).map Entry.id).Nodup)
    (few : taken.length ≤ missing.length)
    (rest : made.map Entry.creation = (missing.drop taken.length).map
      (RunContext.centroidDatasetCreation cluster)) :
    (∀ pair ∈ missing.zip ((taken ++ made).map Entry.id),
        ((taken ++ made ++ left).filter (Entry.IsFor pair.1)).map Entry.id = [pair.2]) ↔
      InLine missing taken left := by
  have aligned : (taken ++ made).map (·.creation.centroid?) = missing.map (some ·.id) ↔
      taken.map (·.creation.centroid?) = (missing.take taken.length).map (some ·.id) := by
    conv_lhs => rw [← List.take_append_drop taken.length missing]
    rw [List.map_append, List.map_append, map_centroid?_eq rest, List.append_left_inj]
  have length := length_taken few rest
  have nodup := distinct.of_map Entry.id
  rw [onlyIds_iff distinct]
  constructor
  · intro only
    rcases aligned_of_only length nodup only with ⟨keysDistinct, same, others⟩
    exact ⟨keysDistinct, aligned.mp same, others⟩
  · intro inLine
    exact only_of_aligned nodup inLine.distinct (aligned.mpr inLine.inOrder) inLine.others

/-- Datasets are in line as long as the cluster lists none of those recorded. -/
theorem InLine.of_unchanged (distinct : (missing.map Centroid.id).Nodup)
    (requests : taken.map Entry.creation = (missing.take taken.length).map
      (RunContext.centroidDatasetCreation cluster)) : InLine missing taken [] :=
  ⟨distinct, map_centroid?_eq requests, List.forall_mem_nil _⟩

/-- They are out of line once the cluster lists the first of them while others are missing. -/
theorem not_inLine_of_listed {first : Entry} {others : List Entry} (absent : missing ≠ [])
    (listed : ∀ centroid ∈ missing, ¬first.IsFor centroid) :
    ¬InLine missing (first :: others) left := by
  intro inLine
  cases missing with
  | nil => exact absent rfl
  | cons centroid more =>
    have isFor : first.IsFor centroid := List.head_eq_of_cons_eq inLine.inOrder
    exact listed centroid List.mem_cons_self isFor

end

/-! ## Obtaining what is recorded in part -/

/-- How many of the resources wanted may be taken up. -/
def Cursor.takesUp (cursor : Cursor) (count : Nat) : Nat := if cursor.resuming then count else 0

theorem Cursor.takesUp_le (cursor : Cursor) (count : Nat) : cursor.takesUp count ≤ count := by
  unfold takesUp
  split
  · exact Nat.le_refl count
  · exact Nat.zero_le count

namespace RunContext

section

variable {run : RunContext} {invocation : Invocation} {checkpoint : Checkpoint}

/-- The first identifiers that were recorded are taken up, by a run that resumes. -/
theorem goes_takeUp_recorded {files : Path → Option String} {earlier trace : List Exchange}
    {entries : List Entry} {count : Nat} {before after : Progress} {known : List ResourceId}
    (apart : run.KeepsApart invocation)
    (absent : files (Checkpoint.path run.paths.output checkpoint) = none)
    (journal : run.Journal invocation earlier entries) (valid : ∀ entry ∈ entries, entry.id.Valid)
    (goes : Goes (run.takeUp checkpoint count) before trace (.ok known) after)
    (reports : Throughout (Exchange.Reports files) earlier trace) :
    known = ((Entry.placedAt checkpoint entries).take (before.cursor.takesUp count)).map
      Entry.id := by
  have validHere : ∀ id ∈ Entry.idsAt checkpoint entries, id.Valid := by
    intro id member
    rcases Entry.mem_of_mem_idsAt member with ⟨entry, listed, _, rfl⟩
    exact valid entry listed
  cases resuming : before.cursor.resuming with
  | true =>
    rcases goes_takeUp_reads invocation resuming goes with ⟨front, back, ids, rfl, yields, rfl, _⟩
    have read := Checkpoint.yields_read yields ((Throughout.append_iff _ _ _).mp reports).1
    rw [absent, journal.held apart checkpoint, Checkpoint.ofText_recorded_none _ _ validHere] at read
    cases read
    rw [Cursor.takesUp, if_pos resuming]
    exact List.map_take.symm
  | false =>
    rcases goes_takeUp_fresh resuming goes with ⟨_, taken, _⟩
    cases taken
    rw [Cursor.takesUp, if_neg (by simp [resuming]), List.take_zero]
    rfl

/-- The resources obtained are the first of those recorded and, behind them, new ones for the
requests that are left. -/
theorem goes_obtainIds_recorded {files : Path → Option String} {earlier trace : List Exchange}
    {entries : List Entry} {stage : Stage} {creations : List Creation} {before after : Progress}
    {ids : List ResourceId} (apart : run.KeepsApart invocation)
    (sent : ∀ creation ∈ creations, run.Sends invocation checkpoint creation)
    (absent : files (Checkpoint.path run.paths.output checkpoint) = none)
    (journal : run.Journal invocation earlier entries) (valid : ∀ entry ∈ entries, entry.id.Valid)
    (goes : Goes (run.obtainIds stage checkpoint creations) before trace (.ok ids) after)
    (reports : Throughout (Exchange.Reports files) earlier trace) :
    let taken := (Entry.placedAt checkpoint entries).take (before.cursor.takesUp creations.length)
    ∃ made, run.Journal invocation trace made ∧ (∀ entry ∈ made, entry.checkpoint = checkpoint) ∧
      made.map Entry.creation = creations.drop taken.length ∧ ids = (taken ++ made).map Entry.id := by
  intro taken
  rcases (goes_bind_iff _ _ _ _ _ _).mp goes with
    ⟨failure, _, impossible⟩ | ⟨front, back, known, middle, rfl, took, rest⟩
  · cases impossible
  have same : known = taken.map Entry.id :=
    goes_takeUp_recorded apart absent journal valid took ((Throughout.append_iff _ _ _).mp reports).1
  subst same
  rcases (goes_map_iff _ (fun created => taken.map Entry.id ++ created) _ _ _ _).mp rest with
    ⟨created, same, creating⟩
  cases created with
  | error failure => cases same
  | ok created =>
    cases same
    rcases goes_createAll (fun creation member => sent creation (List.mem_of_mem_drop member))
      creating with ⟨_, made, creates⟩
    rcases creates.complete created rfl with ⟨rfl, requests⟩
    have looked : run.Journal invocation front [] :=
      .of_aside (Quiet.takeUp checkpoint _ _ _ _ _ took)
    refine ⟨made, looked.append creates.accounts.journal, creates.placed, ?_, ?_⟩
    · rw [requests, List.length_map]
    · rw [List.map_append]

end

/-! ## The datasets of the selected centroids -/

/-- The selected centroids for which a cluster lists no dataset. -/
def unlisted (selected : List Centroid) : List Centroid :=
  selected.filter fun centroid => centroid.dataset.isNone

/-- The others, with their datasets. -/
def listedPairs (selected : List Centroid) : List (Centroid × ResourceId) :=
  selected.filterMap fun centroid => centroid.dataset.map (centroid, ·)

/-- Have a dataset for each selected centroid, and tell which. -/
def centroidPairs (run : RunContext) (cluster : Resource) (names : List String) :
    Step (List (Centroid × ResourceId)) := do
  match selectCentroids names (centroids cluster) with
  | [] =>
    run.say "No centroid matches the requested cluster datasets."
    return []
  | selected =>
    let _ ← run.fetchAll .action
      ((selected.filterMap Centroid.dataset).map .unresolved)
    match unlisted selected with
    | [] => return listedPairs selected
    | missing =>
      let ids ← run.obtainIds .action .clusterDatasets
        (missing.map (centroidDatasetCreation cluster.id))
      let _ ← run.awaitAll .action ids
      return listedPairs selected ++ missing.zip ids

section

variable {run : RunContext} {cluster : Resource} {names : List String}

theorem centroidDatasets_eq :
    run.centroidDatasets cluster names = run.centroidPairs cluster names >>= fun _ => pure () := by
  unfold centroidDatasets centroidPairs unlisted
  cases selectCentroids names (centroids cluster) with
  | nil => simp only [bind_assoc, pure_bind, bind_pure_unit]
  | cons first others =>
    simp only [bind_assoc]
    congr 1
    funext _
    cases (first :: others).filter fun centroid => centroid.dataset.isNone with
    | nil => simp only [pure_bind]
    | cons centroid more => simp only [obtainMany_eq, bind_assoc, pure_bind]

/-- When the step ends well, so does the one that tells the datasets. -/
theorem goes_centroidPairs {before after : Progress} {trace : List Exchange}
    (goes : Goes (run.centroidDatasets cluster names) before trace (.ok ()) after) :
    ∃ pairs, Goes (run.centroidPairs cluster names) before trace (.ok pairs) after := by
  rw [centroidDatasets_eq] at goes
  rcases (goes_map_iff _ (fun _ => ()) _ _ _ _).mp goes with ⟨failure | pairs, same, paired⟩
  · cases same
  · exact ⟨pairs, paired⟩

theorem listed_of_mem_listedPairs {selected : List Centroid} :
    ∀ pair ∈ listedPairs selected, pair.1.dataset = some pair.2 := by
  intro pair member
  rcases List.mem_filterMap.mp member with ⟨centroid, _, found⟩
  rcases Option.map_eq_some_iff.mp found with ⟨id, listed, rfl⟩
  exact listed

/-- Every selected centroid is listed or not. -/
theorem listedPairs_append_unlisted (selected : List Centroid) :
    ((listedPairs selected).map Prod.fst ++ unlisted selected).Perm selected := by
  induction selected with
  | nil => exact .nil
  | cons centroid others inductionHypothesis =>
    cases found : centroid.dataset with
    | none =>
      have first : unlisted (centroid :: others) = centroid :: unlisted others :=
        List.filter_cons_of_pos (by simp [found])
      have rest : listedPairs (centroid :: others) = listedPairs others :=
        List.filterMap_cons_none (by simp [found])
      rw [first, rest]
      exact List.perm_middle.trans (inductionHypothesis.cons centroid)
    | some id =>
      have first : listedPairs (centroid :: others) = (centroid, id) :: listedPairs others :=
        List.filterMap_cons_some (by simp [found])
      have rest : unlisted (centroid :: others) = unlisted others :=
        List.filter_cons_of_neg (by simp [found])
      rw [first, rest]
      exact inductionHypothesis.cons centroid

end

section

variable {run : RunContext} {options : ClusterOptions} {cluster : Resource} {names : List String}
  {files : Path → Option String} {earlier trace : List Exchange} {entries : List Entry}
  {before after : Progress} {pairs : List (Centroid × ResourceId)}

/-- Missing centroids get the first of the datasets recorded, in their order, and then new
ones. -/
theorem goes_missing_recorded {missing : List Centroid} {listed : List (Centroid × ResourceId)}
    (apart : run.KeepsApart (.cluster options))
    (absent : files (Checkpoint.path run.paths.output .clusterDatasets) = none)
    (journal : run.Journal (.cluster options) earlier entries)
    (valid : ∀ entry ∈ entries, entry.id.Valid)
    (goes : Goes (do
      let ids ← run.obtainIds .action .clusterDatasets
        (missing.map (centroidDatasetCreation cluster.id))
      let _ ← run.awaitAll .action ids
      return listed ++ missing.zip ids) before trace (.ok pairs) after)
    (reports : Throughout (Exchange.Reports files) earlier trace) :
    let taken := (Entry.placedAt .clusterDatasets entries).take
      (before.cursor.takesUp missing.length)
    ∃ made, run.Journal (.cluster options) trace made ∧
      (∀ entry ∈ made, entry.checkpoint = .clusterDatasets) ∧
      made.map Entry.creation =
        (missing.drop taken.length).map (centroidDatasetCreation cluster.id) ∧
      pairs = listed ++ missing.zip ((taken ++ made).map Entry.id) := by
  rcases (goes_bind_iff _ _ _ _ _ _).mp goes with
    ⟨failure, _, impossible⟩ | ⟨front, back, ids, middle, rfl, obtained, rest⟩
  · cases impossible
  rcases (goes_map_iff _ (fun _ => listed ++ missing.zip ids) _ _ _ _).mp rest with
    ⟨awaited, same, awaiting⟩
  cases awaited with
  | error failure => cases same
  | ok resources =>
    cases same
    have sent : ∀ creation ∈ missing.map (centroidDatasetCreation cluster.id),
        run.Sends (.cluster options) .clusterDatasets creation := by
      intro creation member
      rcases List.mem_map.mp member with ⟨centroid, _, rfl⟩
      exact .centroidDataset options cluster.id centroid
    rcases goes_obtainIds_recorded apart sent absent journal valid obtained
      ((Throughout.append_iff _ _ _).mp reports).1 with ⟨made, written, placed, requests, rfl⟩
    have looked : run.Journal (.cluster options) back [] :=
      .of_aside (Quiet.awaitAll .action _ _ _ _ _ awaiting)
    rw [← List.map_drop, List.length_map] at requests
    rw [List.length_map]
    exact ⟨made, written.followed looked, placed, requests, rfl⟩

theorem goes_centroidPairs_recorded (apart : run.KeepsApart (.cluster options))
    (absent : files (Checkpoint.path run.paths.output .clusterDatasets) = none)
    (journal : run.Journal (.cluster options) earlier entries)
    (valid : ∀ entry ∈ entries, entry.id.Valid)
    (goes : Goes (run.centroidPairs cluster names) before trace (.ok pairs) after)
    (reports : Throughout (Exchange.Reports files) earlier trace) :
    let selected := selectCentroids names (centroids cluster)
    let taken := (Entry.placedAt .clusterDatasets entries).take
      (before.cursor.takesUp (unlisted selected).length)
    ∃ made, run.Journal (.cluster options) trace made ∧
      (∀ entry ∈ made, entry.checkpoint = .clusterDatasets) ∧
      made.map Entry.creation =
        ((unlisted selected).drop taken.length).map (centroidDatasetCreation cluster.id) ∧
      pairs = listedPairs selected ++ (unlisted selected).zip ((taken ++ made).map Entry.id) := by
  dsimp only
  unfold centroidPairs at goes
  generalize selectCentroids names (centroids cluster) = selected at goes ⊢
  split at goes
  next =>
    rcases (goes_map_iff _ (fun _ => []) _ _ _ _).mp goes with ⟨said, same, saying⟩
    have noted : run.Journal (.cluster options) trace [] :=
      .of_aside (Minor.say _ _ _ _ _ saying).2.1
    cases said with
    | error failure => cases same
    | ok done =>
      cases same
      exact ⟨[], noted, List.forall_mem_nil _, by simp [unlisted], rfl⟩
  next =>
    rcases (goes_bind_iff _ _ _ _ _ _).mp goes with
      ⟨failure, _, impossible⟩ | ⟨front, back, found, middle, rfl, fetched, rest⟩
    · cases impossible
    have idle : run.Idle (.cluster options)
        (run.fetchAll .action ((selected.filterMap Centroid.dataset).map .unresolved)) :=
      .fetchAll .action _
    have looked : run.Journal (.cluster options) front [] := .of_aside (idle.quiet _ _ _ _ fetched)
    rw [← idle.still _ _ _ _ fetched]
    split at rest
    next none =>
      rcases (goes_pure_iff _ _ _ _ _).mp rest with ⟨rfl, same, _⟩
      cases same
      rw [none]
      exact ⟨[], looked.append .nil, List.forall_mem_nil _, by simp, (List.append_nil _).symm⟩
    next =>
      rcases goes_missing_recorded apart absent (journal.followed looked) valid rest
        ((Throughout.append_iff _ _ _).mp reports).2 with ⟨made, written, rest⟩
      exact ⟨made, looked.append written, rest⟩

/-- A run that ends well has a dataset for every selected centroid.  Each is the one that the
cluster lists for the centroid, or the only one that was created for it, exactly if the datasets
that are taken up are in line with the centroids that the cluster lists none for. -/
theorem centroids_own_iff (apart : run.KeepsApart (.cluster options))
    (absent : files (Checkpoint.path run.paths.output .clusterDatasets) = none)
    (journal : run.Journal (.cluster options) earlier entries)
    (valid : ∀ entry ∈ entries, entry.id.Valid)
    (goes : Goes (run.centroidDatasets cluster names) before trace (.ok ()) after)
    (reports : Throughout (Exchange.Reports files) earlier trace)
    (distinct : ((created (earlier ++ trace)).map Prod.snd).Nodup) :
    let missing := unlisted (selectCentroids names (centroids cluster))
    let recorded := Entry.placedAt .clusterDatasets entries
    let count := before.cursor.takesUp missing.length
    ∃ pairs made, Goes (run.centroidPairs cluster names) before trace (.ok pairs) after ∧
      run.Journal (.cluster options) trace made ∧
      (pairs.map Prod.fst).Perm (selectCentroids names (centroids cluster)) ∧
      ((∀ pair ∈ pairs, pair.1.Owns (entries ++ made) pair.2) ↔
        InLine missing (recorded.take count) (recorded.drop count)) := by
  intro missing recorded count
  rcases goes_centroidPairs goes with ⟨pairs, paired⟩
  rcases goes_centroidPairs_recorded apart absent journal valid paired reports with
    ⟨made, written, placed, requests, rfl⟩
  have few : (recorded.take count).length ≤ missing.length :=
    (List.length_take_le _ _).trans (Cursor.takesUp_le _ _)
  refine ⟨_, made, paired, written, ?_, ?_⟩
  · rw [List.map_append, List.map_fst_zip]
    · exact listedPairs_append_unlisted _
    · rw [List.length_map, length_taken few requests]
  have own : ∀ pair ∈ listedPairs (selectCentroids names (centroids cluster)),
      pair.1.Owns (entries ++ made) pair.2 :=
    fun pair member => .inl (listed_of_mem_listedPairs pair member)
  have together : (Entry.placedAt .clusterDatasets (entries ++ made)).Perm
      (recorded.take count ++ made ++ recorded.drop count) := Entry.perm_placedAt_append placed count
  have keys : ((recorded.take count ++ made ++ recorded.drop count).map Entry.id).Nodup := by
    rw [(journal.append written).created, List.map_map] at distinct
    exact (together.map Entry.id).nodup_iff.mp
      (distinct.sublist (List.filter_sublist.map Entry.id))
  rw [← inLine_iff keys few requests, List.forall_mem_append]
  refine (and_iff_right own).trans (forall₂_congr fun pair member => ?_)
  have unlisted : pair.1.dataset = none := by
    have wanted := (List.of_mem_zip (a := pair.1) (b := pair.2) member).1
    exact Option.isNone_iff_eq_none.mp (List.mem_filter.mp wanted).2
  rw [Centroid.Owns, unlisted, ← List.perm_singleton, ← List.perm_singleton,
    ((together.filter _).map Entry.id).congr_left]
  simp

end

end RunContext

/-! ## A cluster that comes to list a dataset -/

/-- A cluster of two centroids that lists datasets for some of them. -/
def twoCentroids (listed : Fields) : Resource :=
  ⟨⟨.cluster, "5143a51a37203f2cf7000972"⟩, ⟨ResourceStatus.finishedCode, "", 1.0⟩,
    .ofFields [("cluster_datasets", .ofFields listed),
      ("clusters", .ofFields [("clusters", .array [
        .ofFields [("id", .text "000000"), ("name", .text "Cluster 0")],
        .ofFields [("id", .text "000001"), ("name", .text "Cluster 1")]])])]⟩

/-- The dataset that an interrupted attempt created for the first centroid. -/
def firstEntry : Entry where
  checkpoint := .clusterDatasets
  creation := RunContext.centroidDatasetCreation (twoCentroids []).id ⟨"000000", "Cluster 0", none⟩
  id := ⟨.dataset, "000000000000000000000001"⟩

/-- The attempt got no further than to record it. -/
def firstCreated : List Exchange :=
  [RunContext.creating firstEntry.creation (.finished firstEntry.id),
    centroidRun.recording .clusterDatasets firstEntry.id (.ok ())]

/-- There are no files. -/
def noFiles : Path → Option String := fun _ => none

/-- A service that numbers what it creates and knows every resource, and an empty disk. -/
def centroidsAnswer (earlier : List Exchange) : (asked : Request) → asked.Answer
  | .api request => Outside.numbered.reply centroidRun earlier (.api request)
  | asked => reportedAnswer noFiles earlier asked

theorem reports_of_centroidsAnswer {earlier : List Exchange} {exchange : Exchange}
    (answered : exchange.answer = centroidsAnswer earlier exchange.asked) :
    exchange.Reports noFiles earlier := by
  rcases exchange with ⟨asked, answer⟩
  cases asked with
  | api request => trivial
  | _ => exact reports_of_reportedAnswer _ earlier _ answered

/-- The next attempt resumes, and finds what the cluster lists now. -/
@[irreducible] def centroidsAgain (listed : Fields) : List Exchange × Except Failure Unit × Progress :=
  recorded centroidsAnswer (centroidRun.centroidDatasets (twoCentroids listed) [])
    (Progress.start true) firstCreated

/-- The cluster has come to list the dataset. -/
def firstListed : Fields := [("000000", .text firstEntry.id.text)]

theorem goes_centroidsAgain {listed : Fields} (ended : (centroidsAgain listed).2.1 = .ok ()) :
    Goes (centroidRun.centroidDatasets (twoCentroids listed) []) (Progress.start true)
      (centroidsAgain listed).1 (.ok ()) (centroidsAgain listed).2.2 := by
  unfold centroidsAgain at ended ⊢
  exact goes_recorded _ _ _ _ ended

theorem reports_centroidsAgain (listed : Fields) :
    Throughout (Exchange.Reports noFiles) firstCreated (centroidsAgain listed).1 := by
  unfold centroidsAgain
  exact throughout_recorded (fun _ _ => reports_of_centroidsAnswer) _ _ _

theorem centroidsAgain_facts (listed : Fields) (either : listed = [] ∨ listed = firstListed) :
    (centroidsAgain listed).2.1 = .ok () ∧
      ((created (firstCreated ++ (centroidsAgain listed).1)).map Prod.snd).Nodup := by
  rcases either with rfl | rfl <;> decide +kernel

theorem journal_firstCreated : centroidRun.Journal centroidInvocation firstCreated [firstEntry] :=
  .entry .clusterDatasets firstEntry.creation (.finished firstEntry.id)
    (.centroidDataset _ (twoCentroids []).id ⟨"000000", "Cluster 0", none⟩) .nil

/-- While the cluster does not list it, the dataset is taken up for its own centroid.  Once it
does, the dataset is taken up for the other centroid, which gets none. -/
theorem centroids_own_twoCentroids :
    (∃ pairs made,
      Goes (centroidRun.centroidPairs (twoCentroids []) []) (Progress.start true)
        (centroidsAgain []).1 (.ok pairs) (centroidsAgain []).2.2 ∧
      ∀ pair ∈ pairs, pair.1.Owns ([firstEntry] ++ made) pair.2) ∧
    ∃ pairs made,
      Goes (centroidRun.centroidPairs (twoCentroids firstListed) []) (Progress.start true)
        (centroidsAgain firstListed).1 (.ok pairs) (centroidsAgain firstListed).2.2 ∧
      ¬∀ pair ∈ pairs, pair.1.Owns ([firstEntry] ++ made) pair.2 := by
  have absent : noFiles (Checkpoint.path centroidRun.paths.output .clusterDatasets) = none := rfl
  have valid : ∀ entry ∈ [firstEntry], entry.id.Valid :=
    List.forall_mem_singleton.mpr (by decide +kernel)
  constructor
  · rcases centroidsAgain_facts [] (.inl rfl) with ⟨ended, distinct⟩
    rcases RunContext.centroids_own_iff centroidRun_keepsApart absent journal_firstCreated valid
      (goes_centroidsAgain ended) (reports_centroidsAgain []) distinct with
      ⟨pairs, made, paired, _, _, own⟩
    have both : RunContext.unlisted (selectCentroids [] (centroids (twoCentroids []))) =
        [⟨"000000", "Cluster 0", none⟩, ⟨"000001", "Cluster 1", none⟩] := by decide +kernel
    have requests : (Entry.placedAt .clusterDatasets [firstEntry]).map Entry.creation =
        [⟨"000000", "Cluster 0", none⟩].map
          (RunContext.centroidDatasetCreation (twoCentroids []).id) := rfl
    rw [both] at own
    exact ⟨pairs, made, paired, own.mpr (.of_unchanged (by decide +kernel) requests)⟩
  · rcases centroidsAgain_facts firstListed (.inr rfl) with ⟨ended, distinct⟩
    rcases RunContext.centroids_own_iff centroidRun_keepsApart absent journal_firstCreated valid
      (goes_centroidsAgain ended) (reports_centroidsAgain _) distinct with
      ⟨pairs, made, paired, _, _, own⟩
    refine ⟨pairs, made, paired, own.not.mpr (not_inLine_of_listed ?_ ?_)⟩ <;> decide +kernel

end ModelRuns
