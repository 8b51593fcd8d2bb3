import Mathlib.Data.List.TakeWhile
import ModelRuns.Evaluation.Files
import ModelRuns.Proofs.Json.Compact
import ModelRuns.Proofs.Trace.Texts

namespace ModelRuns

/-!
# One metric a line

The text of a result is meant to have a line for each leaf that is not null: the keys on the
way to the leaf with dots between them, and what the leaf holds.  The leaves are listed here
apart from their lines, so that the rule can be stated.

Three things stand against it.  Line breaks in keys and texts are written as they are, and
tear a line apart.  A result without leaves gets a line, an empty one.  And whether a dot is
needed is seen on the path before it, so that a path that begins with an empty key loses its
first dot.  The rule holds exactly where none of these occurs.
-/

/-! ## Lines that are put together and split again -/

theorem length_splitChars_eq_one_iff (separator : Char) (text : List Char) :
    (splitChars separator text).length = 1 ↔ separator ∉ text := by
  constructor
  · intro single inside
    rcases List.append_of_mem inside with ⟨front, back, rfl⟩
    have before := List.length_pos_iff.mpr (splitChars_ne_nil separator front)
    have behind := List.length_pos_iff.mpr (splitChars_ne_nil separator back)
    rw [splitChars_append, List.length_append] at single
    omega
  · intro plain
    rw [splitChars_plain separator text plain]
    rfl

theorem length_le_flatMap_splitChars (separator : Char) (lines : List (List Char)) :
    lines.length ≤ (lines.flatMap (splitChars separator)).length := by
  induction lines with
  | nil => exact Nat.le_refl 0
  | cons line lines inductionHypothesis =>
    have pieces := List.length_pos_iff.mpr (splitChars_ne_nil separator line)
    rw [List.flatMap_cons, List.length_append, List.length_cons]
    omega

/-- Splitting makes no more of some lines exactly if none has a separator. -/
theorem length_flatMap_splitChars_eq_iff (separator : Char) (lines : List (List Char)) :
    (lines.flatMap (splitChars separator)).length = lines.length ↔
      ∀ line ∈ lines, separator ∉ line := by
  induction lines with
  | nil => simp
  | cons line lines inductionHypothesis =>
    have pieces := List.length_pos_iff.mpr (splitChars_ne_nil separator line)
    have many := length_le_flatMap_splitChars separator lines
    rw [List.flatMap_cons, List.length_append, List.length_cons, List.forall_mem_cons,
      ← inductionHypothesis, ← length_splitChars_eq_one_iff]
    omega

/-- Lines with a separator at the end of each are split one by one. -/
theorem splitChars_lines (separator : Char) (lines : List (List Char)) (nonempty : lines ≠ []) :
    splitChars separator (joinChars separator lines ++ [separator]) =
      lines.flatMap (splitChars separator) ++ [[]] := by
  induction lines with
  | nil => exact absurd rfl nonempty
  | cons line lines inductionHypothesis =>
    cases lines with
    | nil =>
      have single : joinChars separator [line] = line := by simp [joinChars, List.intercalate]
      rw [single, splitChars_append, List.flatMap_singleton]
      rfl
    | cons second others =>
      rw [List.flatMap_cons, joinChars_cons_cons, List.append_assoc, List.cons_append,
        splitChars_append, inductionHypothesis (List.cons_ne_nil _ _), List.append_assoc]

/-! ## Leaves -/

/-- A leaf of a result, with the keys on the way to it. -/
structure Leaf where
  path : List String
  value : Json

namespace Leaf

/-- A leaf of the document under a key. -/
def below (key : String) (leaf : Leaf) : Leaf := { leaf with path := key :: leaf.path }

/-- What a leaf holds: a text as it is, and anything else in the compact form. -/
def shown (leaf : Leaf) : List Char :=
  match leaf.value with
  | .text value => value.toList
  | value => compactChars value

/-- The keys with dots between them. -/
def dottedPath (leaf : Leaf) : List Char := joinChars '.' (leaf.path.map String.toList)

/-- The line that is meant for a leaf. -/
def line (leaf : Leaf) : List Char := leaf.dottedPath ++ ':' :: ' ' :: leaf.shown

/-- No key has a line break, and a text has none. -/
def OnOneLine (leaf : Leaf) : Prop :=
  (∀ key ∈ leaf.path, '\n' ∉ key.toList) ∧ ∀ text ∈ leaf.value.text?, '\n' ∉ text.toList

instance (leaf : Leaf) : Decidable leaf.OnOneLine := inferInstanceAs (Decidable (_ ∧ _))

/-- The first of several keys is empty. -/
def BeginsEmpty (leaf : Leaf) : Prop := leaf.path.head? = some "" ∧ 1 < leaf.path.length

instance (leaf : Leaf) : Decidable leaf.BeginsEmpty := inferInstanceAs (Decidable (_ ∧ _))

end Leaf

mutual

/-- The leaves of a result that are not null.  Arrays are leaves. -/
def Json.leaves : Json → List Leaf
  | .object fields => fieldLeaves fields
  | .null => []
  | leaf => [⟨[], leaf⟩]

/-- The leaves of the fields of an object, in the order of the fields. -/
def fieldLeaves : List (String × Json) → List Leaf
  | [] => []
  | (key, value) :: rest => value.leaves.map (Leaf.below key) ++ fieldLeaves rest

end

/-! ## Written paths -/

/-- The keys behind a path, written one after the other. -/
def writtenPath (path : List Char) (keys : List String) : List Char :=
  keys.foldl (fun path key => metricPath path key.toList) path

/-- Behind a path that shows, every key has its dot. -/
theorem writtenPath_of_ne_nil {path : List Char} (shows : path ≠ []) (keys : List String) :
    writtenPath path keys = joinChars '.' (path :: keys.map String.toList) := by
  induction keys generalizing path with
  | nil => simp [writtenPath, joinChars, List.intercalate]
  | cons key keys inductionHypothesis =>
    have step : metricPath path key.toList = path ++ '.' :: key.toList :=
      if_neg fun empty => shows (List.isEmpty_iff.mp empty)
    have longer : path ++ '.' :: key.toList ≠ [] := by simp
    calc writtenPath path (key :: keys)
        = writtenPath (path ++ '.' :: key.toList) keys := congrArg (writtenPath · keys) step
      _ = joinChars '.' ((path ++ '.' :: key.toList) :: keys.map String.toList) :=
        inductionHypothesis longer
      _ = joinChars '.' (path :: (key :: keys).map String.toList) := by
        rw [List.map_cons, joinChars_cons_cons]
        cases keys with
        | nil => simp [joinChars, List.intercalate]
        | cons second others => simp [joinChars_cons_cons]

/-- Empty keys at the front of a path leave nothing, not even their dots. -/
theorem writtenPath_nil (keys : List String) :
    writtenPath [] keys = joinChars '.' ((keys.dropWhile (· = "")).map String.toList) := by
  induction keys with
  | nil => rfl
  | cons key keys inductionHypothesis =>
    by_cases empty : key = ""
    · subst empty
      exact inductionHypothesis
    · have shows : key.toList ≠ [] := fun nothing => empty (String.toList_eq_nil_iff.mp nothing)
      rw [List.dropWhile_cons_of_neg (by simpa using empty), List.map_cons,
        ← writtenPath_of_ne_nil shows]
      rfl

/-- Besides the dots, a written path has what its keys have. -/
theorem mem_writtenPath_iff {c : Char} (apart : c ≠ '.') (keys : List String) :
    c ∈ writtenPath [] keys ↔ ∃ key ∈ keys, c ∈ key.toList := by
  rw [writtenPath_nil, mem_joinChars_iff apart]
  constructor
  · rintro ⟨piece, listed, inside⟩
    rcases List.mem_map.mp listed with ⟨key, kept, rfl⟩
    exact ⟨key, (List.dropWhile_suffix _).subset kept, inside⟩
  · rintro ⟨key, member, inside⟩
    rw [← List.takeWhile_append_dropWhile (p := (· = "")) (l := keys)] at member
    rcases List.mem_append.mp member with dropped | kept
    · have empty : key = "" := by simpa using List.mem_takeWhile_imp dropped
      rw [empty] at inside
      cases inside
    · exact ⟨key.toList, List.mem_map_of_mem kept, inside⟩

theorem length_joinChars_tail (separator : Char) (first : List Char) (others : List (List Char)) :
    (joinChars separator others).length ≤ (joinChars separator (first :: others)).length := by
  cases others with
  | nil => exact Nat.zero_le _
  | cons second others =>
    rw [joinChars_cons_cons, List.length_append, List.length_cons]
    omega

theorem length_joinChars_dropWhile (separator : Char) (drops : String → Bool) (keys : List String) :
    (joinChars separator ((keys.dropWhile drops).map String.toList)).length ≤
      (joinChars separator (keys.map String.toList)).length := by
  induction keys with
  | nil => exact Nat.le_refl _
  | cons key keys inductionHypothesis =>
    rw [List.dropWhile_cons]
    split
    · exact Nat.le_trans inductionHypothesis (length_joinChars_tail separator _ _)
    · exact Nat.le_refl _

namespace Leaf

/-- The line that is written for a leaf below a path. -/
def written (path : List Char) (leaf : Leaf) : List Char :=
  writtenPath path leaf.path ++ ':' :: ' ' :: leaf.shown

theorem feed_not_mem_shown_iff (leaf : Leaf) :
    '\n' ∉ leaf.shown ↔ ∀ text ∈ leaf.value.text?, '\n' ∉ text.toList := by
  have compact := (freeOfControls_compactChars leaf.value).feed_not_mem
  rcases leaf with ⟨path, value⟩
  cases value with
  | text value => simp [shown, Json.text?]
  | _ => exact iff_of_true compact (by simp [Json.text?])

/-- No dot is lost unless the first of several keys is empty. -/
theorem writtenPath_eq_dottedPath_iff (leaf : Leaf) :
    writtenPath [] leaf.path = leaf.dottedPath ↔ ¬leaf.BeginsEmpty := by
  rcases leaf with ⟨path, value⟩
  rw [writtenPath_nil, dottedPath, BeginsEmpty]
  cases path with
  | nil => simp
  | cons key keys =>
    by_cases empty : key = ""
    · cases keys with
      | nil => subst empty; exact iff_of_true rfl (by simp)
      | cons second others =>
        refine iff_of_false (fun same => ?_) (by simp [empty])
        have shorter := length_joinChars_dropWhile '.' (· = "") (second :: others)
        rw [List.dropWhile_cons_of_pos (by simpa using empty), List.map_cons, List.map_cons,
          joinChars_cons_cons, ← List.map_cons] at same
        rw [same, List.length_append, List.length_cons] at shorter
        omega
    · rw [List.dropWhile_cons_of_neg (by simpa using empty)]
      exact iff_of_true rfl (by simp [empty])

theorem written_eq_line_iff (leaf : Leaf) : leaf.written [] = leaf.line ↔ ¬leaf.BeginsEmpty := by
  rw [written, line, List.append_left_inj, writtenPath_eq_dottedPath_iff]

/-- Only keys and texts can break the line of a leaf. -/
theorem feed_not_mem_written_iff (leaf : Leaf) : '\n' ∉ leaf.written [] ↔ leaf.OnOneLine := by
  have inPath := mem_writtenPath_iff (by decide : '\n' ≠ '.') leaf.path
  rw [written, List.mem_append, not_or, inPath, OnOneLine, ← feed_not_mem_shown_iff]
  simp

end Leaf

mutual

/-- One line is written for each leaf, in their order. -/
theorem metricLines_eq (path : List Char) (result : Json) :
    metricLines path result = result.leaves.map (Leaf.written path) := by
  cases result with
  | object fields => rw [metricLines, Json.leaves, fieldLines_eq]
  | null => rw [metricLines, Json.leaves, List.map_nil]
  | _ =>
    rw [metricLines, Json.leaves]
    · rfl
    all_goals nofun

theorem fieldLines_eq (path : List Char) (fields : Fields) :
    fieldLines path fields = (fieldLeaves fields).map (Leaf.written path) := by
  cases fields with
  | nil => rw [fieldLines, fieldLeaves]; rfl
  | cons field rest =>
    rcases field with ⟨key, value⟩
    rw [fieldLines, fieldLeaves, metricLines_eq, fieldLines_eq, List.map_append, List.map_map]
    rfl

end

/-! ## The text of a result -/

theorem toList_metricsText (result : Json) :
    (metricsText result).toList = joinChars '\n' (result.leaves.map (Leaf.written [])) ++ ['\n'] := by
  rw [metricsText, String.toList_append, String.toList_intercalate, metricTexts, List.map_map]
  have same : (metricLines "".toList result).map (String.toList ∘ String.ofList) =
      result.leaves.map (Leaf.written []) := by
    rw [← metricLines_eq]
    simp
  rw [same]
  rfl

theorem splitChars_metricsText {result : Json} (nonempty : result.leaves ≠ []) :
    splitChars '\n' (metricsText result).toList =
      (result.leaves.map (Leaf.written [])).flatMap (splitChars '\n') ++ [[]] := by
  rw [toList_metricsText, splitChars_lines '\n' _ (by simpa using nonempty)]

/-- A text without leaves is a line break. -/
theorem splitChars_metricsText_of_leaves_eq_nil {result : Json} (empty : result.leaves = []) :
    splitChars '\n' (metricsText result).toList = [[], []] := by
  rw [toList_metricsText, empty]
  rfl

/-- There are as many lines as leaves exactly if there are leaves, and each is on one line. -/
theorem length_lines_eq_iff (result : Json) :
    (splitChars '\n' (metricsText result).toList).length = result.leaves.length + 1 ↔
      result.leaves ≠ [] ∧ ∀ leaf ∈ result.leaves, leaf.OnOneLine := by
  by_cases empty : result.leaves = []
  · rw [splitChars_metricsText_of_leaves_eq_nil empty, empty]
    simp
  · have count := length_flatMap_splitChars_eq_iff '\n' (result.leaves.map (Leaf.written []))
    rw [List.length_map, List.forall_mem_map] at count
    rw [splitChars_metricsText empty, List.length_append, List.length_singleton,
      Nat.add_right_cancel_iff, count]
    simp only [Leaf.feed_not_mem_written_iff, ne_eq, empty, not_false_eq_true, true_and]

/-- The lines are those that are meant exactly if, besides, no path begins with an empty key. -/
theorem lines_eq_iff (result : Json) :
    splitChars '\n' (metricsText result).toList = result.leaves.map Leaf.line ++ [[]] ↔
      result.leaves ≠ [] ∧ ∀ leaf ∈ result.leaves, leaf.OnOneLine ∧ ¬leaf.BeginsEmpty := by
  have written (nonempty : result.leaves ≠ []) (each : ∀ leaf ∈ result.leaves, leaf.OnOneLine) :
      splitChars '\n' (metricsText result).toList = result.leaves.map (Leaf.written []) ++ [[]] := by
    rw [splitChars_metricsText nonempty, List.flatMap_map]
    have single : ∀ leaf ∈ result.leaves, splitChars '\n' (leaf.written []) = [leaf.written []] :=
      fun leaf member => splitChars_plain '\n' _ (leaf.feed_not_mem_written_iff.mpr (each leaf member))
    rw [List.flatMap_congr single, ← List.map_eq_flatMap]
  constructor
  · intro lines
    have count := congrArg List.length lines
    rw [List.length_append, List.length_map, List.length_singleton] at count
    rcases (length_lines_eq_iff result).mp count with ⟨nonempty, each⟩
    rw [written nonempty each, List.append_left_inj, List.map_inj_left] at lines
    exact ⟨nonempty, fun leaf member =>
      ⟨each leaf member, leaf.written_eq_line_iff.mp (lines leaf member)⟩⟩
  · rintro ⟨nonempty, each⟩
    rw [written nonempty fun leaf member => (each leaf member).1, List.append_left_inj, List.map_inj_left]
    exact fun leaf member => leaf.written_eq_line_iff.mpr (each leaf member).2

/-! ## The order of the leaves -/

mutual

/-- Each object on the way to a leaf has its keys in order. -/
def Json.Ordered : Json → Prop
  | .object fields => (fields.map Prod.fst).Pairwise (· < ·) ∧ FieldsOrdered fields
  | _ => True

/-- What the fields of an object hold is ordered. -/
def FieldsOrdered : List (String × Json) → Prop
  | [] => True
  | (_, value) :: rest => value.Ordered ∧ FieldsOrdered rest

end

/-- The path of a leaf of an object begins with one of its keys. -/
theorem path_of_mem_fieldLeaves {fields : Fields} {leaf : Leaf} (member : leaf ∈ fieldLeaves fields) :
    ∃ key ∈ fields.map Prod.fst, ∃ rest, leaf.path = key :: rest := by
  induction fields with
  | nil =>
    rw [fieldLeaves] at member
    cases member
  | cons field fields inductionHypothesis =>
    rcases field with ⟨key, value⟩
    rw [fieldLeaves] at member
    rcases List.mem_append.mp member with first | later
    · rcases List.mem_map.mp first with ⟨inner, _, rfl⟩
      exact ⟨key, List.mem_cons_self, inner.path, rfl⟩
    · rcases inductionHypothesis later with ⟨other, listed, rest, path⟩
      exact ⟨other, List.mem_cons_of_mem key listed, rest, path⟩

mutual

/-- The leaves of an ordered result stand in the order of their paths. -/
theorem paths_of_leaves (result : Json) (ordered : result.Ordered) :
    (result.leaves.map Leaf.path).Pairwise (· < ·) := by
  cases result with
  | object fields =>
    rw [Json.Ordered] at ordered
    rw [Json.leaves]
    exact paths_of_fieldLeaves fields ordered.1 ordered.2
  | null => rw [Json.leaves]; exact .nil
  | _ =>
    rw [Json.leaves]
    · exact List.pairwise_singleton _ _
    all_goals nofun

theorem paths_of_fieldLeaves (fields : Fields) (keys : (fields.map Prod.fst).Pairwise (· < ·))
    (ordered : FieldsOrdered fields) : ((fieldLeaves fields).map Leaf.path).Pairwise (· < ·) := by
  cases fields with
  | nil => rw [fieldLeaves]; exact .nil
  | cons field rest =>
    rcases field with ⟨key, value⟩
    rw [FieldsOrdered] at ordered
    rw [List.map_cons, List.pairwise_cons] at keys
    have inner := paths_of_leaves value ordered.1
    have below : (value.leaves.map (Leaf.below key)).map Leaf.path =
        (value.leaves.map Leaf.path).map (key :: ·) := by
      rw [List.map_map, List.map_map]
      rfl
    rw [fieldLeaves, List.map_append, below, List.pairwise_append]
    refine ⟨?_, paths_of_fieldLeaves rest keys.2 ordered.2, ?_⟩
    · exact List.pairwise_map.mpr (inner.imp fun before => List.Lex.cons before)
    · intro path first other later
      rcases List.mem_map.mp first with ⟨tail, _, rfl⟩
      rcases List.mem_map.mp later with ⟨leaf, member, rfl⟩
      rcases path_of_mem_fieldLeaves member with ⟨second, listed, tail, path⟩
      rw [path]
      exact List.Lex.rel (keys.1 second listed)

end

/-! ## Files -/

/-- The actions that write results, with the path they write to and the result. -/
inductive WritesMetrics : Action (List Path) → Path → Json → Prop
  | evaluation (base : Path) (evaluation : Resource) :
    WritesMetrics (writeEvaluation base evaluation) base
      ((evaluation.body.field? "result").getD .null)
  | crossValidation (directory : Path) (evaluations : List Resource) :
    WritesMetrics (writeCrossValidation directory evaluations)
      (directory.child crossValidationName)
      (averageResults (evaluations.filterMap (·.body.descend? ["result", "model"])))

/-- The text of a result is what its text file holds in the end. -/
theorem textAfter_writeResult {base : Path} {result : Json} {trace : List Exchange}
    {files : List Path} (yields : (writeResult base result).Yields trace (.ok files))
    (before : Option String) :
    textAfter (base.withSuffix ".txt") before trace = some (metricsText result) := by
  rcases Action.yields_bind_ok yields with ⟨first, rest, _, rfl, _, yields⟩
  rcases Action.yields_bind_ok yields with ⟨second, last, _, rfl, writes, ends⟩
  rcases (Action.yields_asking_iff (.file (.write _ _)) (fun answer => answer) _ _).mp writes with
    ⟨answer, rfl, same⟩
  rcases (Action.yields_pure_iff _ _ _).mp ends with ⟨rfl, _⟩
  cases same
  rw [textAfter_append, List.append_nil, textAfter_cons, textAfter_nil]
  exact if_pos (Path.same_self _)

/-- The text file of an evaluation or a cross-validation has one line for each leaf of the
result exactly if there are leaves and none holds a line break in a key or a text.  The lines
are the dotted paths with what the leaves hold exactly if, besides, no path of several keys
begins with an empty one.  The leaves stand in the order of their keys. -/
theorem metric_lines_iff {write : Action (List Path)} {base : Path} {result : Json}
    (writes : WritesMetrics write base result) {trace : List Exchange} {files : List Path}
    (yields : write.Yields trace (.ok files)) (before : Option String) :
    ∃ text, textAfter (base.withSuffix ".txt") before trace = some text ∧
      ((splitChars '\n' text.toList).length = result.leaves.length + 1 ↔
        result.leaves ≠ [] ∧ ∀ leaf ∈ result.leaves, leaf.OnOneLine) ∧
      (splitChars '\n' text.toList = result.leaves.map Leaf.line ++ [[]] ↔
        result.leaves ≠ [] ∧ ∀ leaf ∈ result.leaves, leaf.OnOneLine ∧ ¬leaf.BeginsEmpty) ∧
      (result.Ordered → (result.leaves.map Leaf.path).Pairwise (· < ·)) := by
  have written : textAfter (base.withSuffix ".txt") before trace = some (metricsText result) := by
    cases writes with
    | evaluation => exact textAfter_writeResult yields before
    | crossValidation => exact textAfter_writeResult yields before
  exact ⟨metricsText result, written, length_lines_eq_iff result, lines_eq_iff result,
    paths_of_leaves result⟩

/-! ## Results with and without a line for each leaf -/

def modelResult : Json :=
  .object [("model", .object [("accuracy", .number (.whole 1)), ("kind", .text "tree"),
    ("note", .null)])]

/-- A text over two lines. -/
def tornResult : Json := .object [("model", .object [("note", .text "first\nsecond")])]

/-- A path that begins with an empty key. -/
def dotlessResult : Json := .object [("", .object [("accuracy", .number (.whole 1))])]

/-- An evaluation with a result. -/
def evaluationOf (result : Json) : Resource :=
  { Resource.finished ⟨.evaluation, "000000000000000000000001"⟩ with
    body := .object [("result", result)] }

def metricsBase : Path := ⟨"out/evaluation"⟩

/-- Both files of a result are written. -/
def metricsTrace (result : Json) : List Exchange :=
  [⟨.file (.write (metricsBase.withSuffix ".json") result.pretty), .ok ()⟩,
    ⟨.file (.write (metricsBase.withSuffix ".txt") (metricsText result)), .ok ()⟩]

theorem yields_metricsTrace (result : Json) :
    (writeEvaluation metricsBase (evaluationOf result)).Yields (metricsTrace result)
      (.ok [metricsBase.withSuffix ".json", metricsBase.withSuffix ".txt"]) := by
  have writes (path : Path) (text : String) : (Action.writeFile path text).Yields
      [⟨.file (.write path text), .ok ()⟩] (.ok ()) :=
    (Action.yields_asking_iff (.file (.write path text)) (fun answer => answer) _ _).mpr
      ⟨.ok (), rfl, rfl⟩
  refine (Action.yields_bind_iff _ _ _ _).mpr (.inr ⟨[_], [_], (), rfl, writes _ _, ?_⟩)
  refine (Action.yields_bind_iff _ _ _ _).mpr (.inr ⟨[_], [], (), rfl, writes _ _, ?_⟩)
  exact (Action.yields_pure_iff _ _ _).mpr ⟨rfl, rfl⟩

theorem metric_lines_four_results :
    (∃ text, textAfter ⟨"out/evaluation.txt"⟩ none (metricsTrace modelResult) = some text ∧
      splitChars '\n' text.toList =
        ["model.accuracy: 1".toList, "model.kind: tree".toList, []] ∧
      (modelResult.leaves.map Leaf.path).Pairwise (· < ·)) ∧
      ∀ result ∈ [.object [], tornResult, dotlessResult],
        ∃ text, textAfter ⟨"out/evaluation.txt"⟩ none (metricsTrace result) = some text ∧
          splitChars '\n' text.toList ≠ result.leaves.map Leaf.line ++ [[]] := by
  have lines (result : Json) := metric_lines_iff (.evaluation metricsBase (evaluationOf result))
    (yields_metricsTrace result) none
  refine ⟨?_, fun result member => ?_⟩
  · rcases lines modelResult with ⟨text, held, _, each, sorted⟩
    have listed : modelResult.leaves.map Leaf.line ++ [[]] =
        ["model.accuracy: 1".toList, "model.kind: tree".toList, []] := by decide
    have keys : ["accuracy", "kind", "note"].Pairwise (· < ·) := by decide
    have ordered : modelResult.Ordered :=
      ⟨List.pairwise_singleton _ _, ⟨keys, trivial, trivial, trivial, trivial⟩, trivial⟩
    exact ⟨text, held, listed ▸ each.mpr (by decide), sorted ordered⟩
  · rcases lines result with ⟨text, held, _, each, _⟩
    refine ⟨text, held, fun same => ?_⟩
    have kept := each.mp same
    have broken : ∀ result ∈ [Json.object [], tornResult, dotlessResult],
        ¬(result.leaves ≠ [] ∧ ∀ leaf ∈ result.leaves, leaf.OnOneLine ∧ ¬leaf.BeginsEmpty) := by
      decide
    exact broken result member kept

end ModelRuns
