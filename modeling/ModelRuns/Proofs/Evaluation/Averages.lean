import Mathlib.Algebra.Field.Rat
import ModelRuns.Evaluation.Metrics

namespace ModelRuns

/-!
# Averages of results

An average has the keys of the first result, and its leaves are described path by path:
below a key only those results take part that have the key, so at the end of a path only
those that have the whole path.

A leaf is therefore the mean of the numbers of all results that have something at its
path, provided that these are numbers.  The rule for averages asks for more: the mean is
meant for numbers present in every result, and any other leaf is to come from the first.
The two agree exactly where the results that lack a path make no difference.

What the mean of a list of numbers is stays open in most of this, so that all of it holds
for the mean of doubles and for the arithmetic mean without rounding.
-/

/-- The number of a document that is one. -/
def Json.number? : Json → Option Number
  | .number value => some value
  | _ => none

/-- The value of a number, without rounding. -/
def Number.exact : Number → ℚ
  | .whole value => value
  | .fraction value =>
    let size := match BinaryFraction.ofFloat? value with
      | some size => size.significand * (2 : ℚ) ^ size.exponent
      | none => 0
    if hasMinusSign value then -size else size

/-- The arithmetic mean of numbers, without rounding. -/
def exactMean (numbers : List Number) : ℚ := (numbers.map Number.exact).sum / numbers.length

/-- The arithmetic mean as a document, for any way to write a rational down. -/
def exactNumber (write : ℚ → Number) (numbers : List Number) : Json :=
  .number (write (exactMean numbers))

/-! ## What is at the end of a path -/

section

variable {mean : List Number → Json}

theorem getField?_averageFields (key : String) (fields : Fields) (others : List Json) :
    getField? key (averageFields mean fields others) =
      (getField? key fields).map fun value =>
        averageWith mean value (others.filterMap (·.field? key)) := by
  induction fields with
  | nil => rw [averageFields]; rfl
  | cons field rest inductionHypothesis =>
    rcases field with ⟨name, value⟩
    rw [averageFields, getField?, getField?]
    split
    next same => rw [same]; rfl
    next => exact inductionHypothesis

theorem keys_averageFields (fields : Fields) (others : List Json) :
    (averageFields mean fields others).map Prod.fst = fields.map Prod.fst := by
  induction fields with
  | nil => rw [averageFields]
  | cons field rest inductionHypothesis =>
    rw [averageFields, List.map_cons, List.map_cons, inductionHypothesis]

/-- A leaf of the first result is averaged with what the others have in its place. -/
theorem averageWith_leaf {leaf : Json} (plain : leaf.fields? = none) (others : List Json) :
    averageWith mean leaf others = ((leaf :: others).mapM Json.number?).elim leaf mean := by
  cases leaf with
  | object fields => cases plain
  | number value =>
    rw [averageWith]
    split
    next values read =>
      have numbers : others.mapM Json.number? = some values := read
      rw [List.mapM_cons, numbers]
      rfl
    next read =>
      have lacking : others.mapM Json.number? = none := read
      rw [List.mapM_cons, lacking]
      rfl
  | null => rw [averageWith.eq_def, List.mapM_cons]; rfl
  | bool value => rw [averageWith.eq_def, List.mapM_cons]; rfl
  | text value => rw [averageWith.eq_def, List.mapM_cons]; rfl
  | array items => rw [averageWith.eq_def, List.mapM_cons]; rfl

/-- A mean is written as a leaf. -/
def WritesLeaves (mean : List Number → Json) : Prop := ∀ numbers, (mean numbers).fields? = none

theorem field?_of_leaf {leaf : Json} (plain : leaf.fields? = none) (key : String) :
    leaf.field? key = none := by
  cases leaf with
  | object fields => cases plain
  | _ => rfl

theorem averageWith_isLeaf (leaves : WritesLeaves mean) {leaf : Json} (plain : leaf.fields? = none)
    (others : List Json) : (averageWith mean leaf others).fields? = none := by
  rw [averageWith_leaf plain]
  cases (leaf :: others).mapM Json.number? with
  | none => exact plain
  | some numbers => exact leaves numbers

/-- A field of an average is the average of the fields. -/
theorem field?_averageWith (leaves : WritesLeaves mean) (key : String) (first : Json)
    (others : List Json) :
    (averageWith mean first others).field? key =
      (first.field? key).map fun value =>
        averageWith mean value (others.filterMap (·.field? key)) := by
  cases first with
  | object fields =>
    rw [averageWith]
    exact getField?_averageFields key fields others
  | _ => exact field?_of_leaf (averageWith_isLeaf leaves rfl others) key

/-- What an average has at the end of a path is the average of what the results have
there. -/
theorem descend?_averageWith (leaves : WritesLeaves mean) (path : List String) (first : Json)
    (others : List Json) :
    (averageWith mean first others).descend? path =
      (first.descend? path).map fun value =>
        averageWith mean value (others.filterMap (·.descend? path)) := by
  induction path generalizing first others with
  | nil => simp [Json.descend?]
  | cons key path inductionHypothesis =>
    rw [Json.descend?, Json.descend?, field?_averageWith leaves]
    cases first.field? key with
    | none => rfl
    | some value =>
      rw [Option.map_some, Option.bind_some, Option.bind_some, inductionHypothesis,
        List.filterMap_filterMap]
      rfl

end

/-! ## The rule for averages -/

/-- The numbers at the end of a path, if all of several results have one there. -/
def allNumbers? (results : List Json) (path : List String) : Option (List Number) :=
  results.mapM fun result => (result.descend? path).bind Json.number?

/-- The numbers at the end of a path, if all of the results that have something there have a
number. -/
def presentNumbers? (results : List Json) (path : List String) : Option (List Number) :=
  (results.filterMap (·.descend? path)).mapM Json.number?

/-- An average has the keys of the first result at every depth.  A leaf is the mean of the
numbers that are counted at its path, if there are such, and is the leaf of the first result
otherwise. -/
structure IsAverage (mean : List Number → Json) (counted : List String → Option (List Number))
    (first average : Json) : Prop where
  keys : ∀ path, ((average.descend? path).bind Json.fields?).map (·.map Prod.fst) =
    ((first.descend? path).bind Json.fields?).map (·.map Prod.fst)
  leaves : ∀ path leaf, first.descend? path = some leaf → leaf.fields? = none →
    average.descend? path = some ((counted path).elim leaf mean)

section

variable {mean : List Number → Json} {results : List Json} {path : List String}

/-- Where all results have something, the two ways to count agree. -/
theorem allNumbers?_of_present (present : ∀ result ∈ results, result.descend? path ≠ none) :
    allNumbers? results path = presentNumbers? results path := by
  unfold allNumbers? presentNumbers?
  induction results with
  | nil => rfl
  | cons first others inductionHypothesis =>
    have later := inductionHypothesis fun result member =>
      present result (List.mem_cons_of_mem first member)
    rcases Option.ne_none_iff_exists'.mp (present first List.mem_cons_self) with ⟨value, found⟩
    rw [List.filterMap_cons, List.mapM_cons, later, found, Option.bind_some, List.mapM_cons]

/-- Where one has nothing, there are no numbers of all results. -/
theorem allNumbers?_of_lacking {result : Json} (member : result ∈ results)
    (lacking : result.descend? path = none) : allNumbers? results path = none := by
  unfold allNumbers?
  induction results with
  | nil => cases member
  | cons first others inductionHypothesis =>
    rw [List.mapM_cons]
    rcases List.mem_cons.mp member with rfl | later
    · rw [lacking]
      rfl
    · rw [inductionHypothesis later]
      cases (first.descend? path).bind Json.number? <;> rfl

theorem isAverage_averageWith (leaves : WritesLeaves mean) (first : Json) (others : List Json) :
    IsAverage mean (presentNumbers? (first :: others)) first (averageWith mean first others) where
  keys path := by
    rw [descend?_averageWith leaves]
    cases found : first.descend? path with
    | none => rfl
    | some value =>
      rw [Option.map_some, Option.bind_some, Option.bind_some]
      cases value with
      | object fields =>
        rw [averageWith]
        exact congrArg some (keys_averageFields fields _)
      | _ => rw [averageWith_isLeaf leaves rfl]; rfl
  leaves path leaf found plain := by
    rw [descend?_averageWith leaves, found, Option.map_some, averageWith_leaf plain,
      presentNumbers?, List.filterMap_cons, found]

/-- No difference is made by the results that lack a path at which all others have a number:
the mean of the others is the number of the first. -/
def LackingIsHarmless (mean : List Number → Json) (first : Json) (others : List Json) : Prop :=
  ∀ path value numbers, first.descend? path = some (.number value) →
    presentNumbers? (first :: others) path = some numbers →
    (∃ other ∈ others, other.descend? path = none) → mean numbers = .number value

/-- Only numbers are counted. -/
theorem eq_number_of_presentNumbers? {first leaf : Json} {others : List Json}
    {numbers : List Number} (found : first.descend? path = some leaf)
    (counted : presentNumbers? (first :: others) path = some numbers) :
    ∃ value, leaf = .number value := by
  rw [presentNumbers?, List.filterMap_cons, found, List.mapM_cons] at counted
  cases leaf with
  | number value => exact ⟨value, rfl⟩
  | _ => cases counted

/-- Averages follow the rule that all results are to be counted exactly if it makes no
difference that some lack a path. -/
theorem isAverage_all_iff (leaves : WritesLeaves mean) (first : Json) (others : List Json) :
    IsAverage mean (allNumbers? (first :: others)) first (averageWith mean first others) ↔
      LackingIsHarmless mean first others := by
  have average := isAverage_averageWith leaves first others
  constructor
  · intro rule path value numbers found counted ⟨other, member, lacking⟩
    have leaf := average.leaves path _ found rfl
    rw [rule.leaves path _ found rfl, counted,
      allNumbers?_of_lacking (List.mem_cons_of_mem first member) lacking] at leaf
    exact (Option.some.inj leaf).symm
  · intro harmless
    refine ⟨average.keys, fun path leaf found plain => ?_⟩
    rw [average.leaves path leaf found plain]
    by_cases lacking : ∃ other ∈ others, other.descend? path = none
    · rcases lacking with ⟨other, member, lacks⟩
      rw [allNumbers?_of_lacking (List.mem_cons_of_mem first member) lacks]
      cases counted : presentNumbers? (first :: others) path with
      | none => rfl
      | some numbers =>
        rcases eq_number_of_presentNumbers? found counted with ⟨value, rfl⟩
        exact congrArg some (harmless path value numbers found counted ⟨other, member, lacks⟩)
    · rw [allNumbers?_of_present]
      intro result member
      rcases List.mem_cons.mp member with rfl | later
      · rw [found]
        exact Option.some_ne_none leaf
      · exact fun lacks => lacking ⟨result, later, lacks⟩

end

theorem writesLeaves_exactNumber (write : ℚ → Number) : WritesLeaves (exactNumber write) :=
  fun _ => rfl

theorem writesLeaves_meanNumber : WritesLeaves meanNumber := by
  intro numbers
  unfold meanNumber Json.ofFloat
  dsimp only
  split <;> rfl

/-- Which numbers an average counts, and when it follows the rule that all results are to be
counted. -/
structure AveragesPresent (mean : List Number → Json) (first : Json) (others : List Json)
    (average : Json) : Prop where
  counted : IsAverage mean (presentNumbers? (first :: others)) first average
  rule_iff : IsAverage mean (allNumbers? (first :: others)) first average ↔
    LackingIsHarmless mean first others

/-- An average counts the results that have something at a path, in exact arithmetic as well
as in doubles, and so it follows the rule exactly if those that lack the path are harmless. -/
theorem averages_present (first : Json) (others : List Json) :
    (∀ write : ℚ → Number, AveragesPresent (exactNumber write) first others
      (averageWith (exactNumber write) first others)) ∧
    AveragesPresent meanNumber first others (averageResults (first :: others)) := by
  have present : ∀ mean, WritesLeaves mean →
      AveragesPresent mean first others (averageWith mean first others) := fun _ leaves =>
    ⟨isAverage_averageWith leaves first others, isAverage_all_iff leaves first others⟩
  exact ⟨fun write => present _ (writesLeaves_exactNumber write),
    present _ writesLeaves_meanNumber⟩

/-- Of three results one lacks the number, and the mean of the other two takes the place of
the number of the first. -/
example (write : ℚ → Number) :
    averageWith (exactNumber write) (.object [("recall", .ofNat 1)])
      [.object [("recall", .ofNat 2)], .object []] =
        .object [("recall", exactNumber write [.whole 1, .whole 2])] := rfl

end ModelRuns
