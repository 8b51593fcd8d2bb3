import ModelRuns.Pipeline.Training

namespace ModelRuns

/-!
# The order of categories

Categories are ordered by count, and among equal counts by name.  No two of them are equal
in this order, so it leaves sorting no choice: categories come out of it the same in
whatever order the service lists them.  Items that are no categories are dropped before,
wherever they stand.

So nothing a run asks for the sake of a category depends on that order.  This is what the
checkpoint of the category datasets rests on, which is matched with its requests by
position alone.
-/

/-! ## Documents with an array in another order -/

/-- Two documents that differ at most in the order of the items of the array at the end of a
path of keys. -/
inductive Json.Reordered : List String → Json → Json → Prop
  | same (path : List String) (document : Json) : Reordered path document document
  | items {items others : List Json} (permuted : items.Perm others) :
      Reordered [] (.array items) (.array others)
  | field {key : String} {path : List String} {value other : Json} (front back : Fields)
      (inner : Reordered path value other) :
      Reordered (key :: path) (.object (front ++ (key, value) :: back))
        (.object (front ++ (key, other) :: back))

theorem getField?_append (key : String) (front back : Fields) :
    getField? key (front ++ back) = (getField? key front).or (getField? key back) := by
  induction front with
  | nil => rfl
  | cons first rest inductionHypothesis =>
    rw [List.cons_append, getField?, getField?, inductionHypothesis]
    split <;> rfl

namespace Json.Reordered

variable {key : String} {path : List String} {document other : Json}

/-- The other fields of an object are the same. -/
theorem field?_of_ne (reordered : Reordered (key :: path) document other) (name : String)
    (different : name ≠ key) : document.field? name = other.field? name := by
  cases reordered with
  | same => rfl
  | field front back inner =>
    simp only [Json.field?, getField?_append, getField?, if_neg different]

/-- Below the key the documents differ no more than said. -/
theorem field? (reordered : Reordered (key :: path) document other) :
    document.field? key = other.field? key ∨ ∃ value changed, document.field? key = some value ∧
      other.field? key = some changed ∧ Reordered path value changed := by
  cases reordered with
  | same => exact .inl rfl
  | @field _ _ value changed front back inner =>
    simp only [Json.field?, getField?_append, getField?, if_pos]
    cases getField? key front with
    | some held => exact .inl rfl
    | none => exact .inr ⟨value, changed, rfl, rfl, inner⟩

/-- The array at the end of the path has the same items in both documents. -/
theorem items?_descend (reordered : Reordered path document other) :
    Option.Rel List.Perm ((document.descend? path).bind Json.items?)
      ((other.descend? path).bind Json.items?) := by
  have alike : ∀ items : Option (List Json), Option.Rel List.Perm items items := by
    rintro (_ | items)
    · exact .none
    · exact .some (.refl items)
  induction path generalizing document other with
  | nil =>
    cases reordered with
    | same => exact alike _
    | items permuted => exact .some permuted
  | cons key path inductionHypothesis =>
    rcases reordered.field? with equal | ⟨value, changed, held, holds, inner⟩
    · rw [descend?, descend?, equal]
      exact alike _
    · rw [descend?, descend?, held, holds]
      exact inductionHypothesis inner

end Json.Reordered

/-! ## Sorting -/

namespace Category

theorem before_iff (left right : Category) : left.before right = true ↔
    right.count < left.count ∨ left.count = right.count ∧ left.name ≤ right.name := by
  rw [before, Bool.or_eq_true, Bool.and_eq_true, decide_eq_true_iff, beq_iff_eq,
    Bool.not_eq_true', decide_eq_false_iff_not, String.not_lt]

theorem before_trans (first second third : Category) (earlier : first.before second = true)
    (later : second.before third = true) : first.before third = true := by
  rw [before_iff] at earlier later ⊢
  rcases earlier with more | ⟨equal, named⟩ <;> rcases later with moreLater | ⟨equalLater, namedLater⟩
  · exact .inl (by omega)
  · exact .inl (by omega)
  · exact .inl (by omega)
  · exact .inr ⟨equal.trans equalLater, String.le_trans named namedLater⟩

theorem before_total (left right : Category) :
    (left.before right || right.before left) = true := by
  rw [Bool.or_eq_true, before_iff, before_iff]
  rcases Nat.lt_trichotomy left.count right.count with less | equal | more
  · exact .inr (.inl less)
  · exact (String.le_total left.name right.name).imp (fun named => .inr ⟨equal, named⟩)
      fun named => .inr ⟨equal.symm, named⟩
  · exact .inl (.inl more)

/-- Different categories have different places. -/
theorem before_antisymm (left right : Category) (earlier : left.before right = true)
    (later : right.before left = true) : left = right := by
  rw [before_iff] at earlier later
  rcases earlier with more | ⟨equal, named⟩
  · omega
  · rcases later with more | ⟨_, namedLater⟩
    · omega
    · cases left
      cases right
      exact congr (congrArg Category.mk (String.le_antisymm named namedLater)) equal

/-- What comes first is at least as frequent. -/
theorem count_le_of_before {left right : Category} (earlier : left.before right = true) :
    right.count ≤ left.count := by
  rcases (before_iff left right).mp earlier with more | ⟨equal, _⟩ <;> omega

/-- The same categories are sorted into the same list. -/
theorem mergeSort_eq_of_perm {left right : List Category} (permuted : left.Perm right) :
    left.mergeSort before = right.mergeSort before := by
  have sorted := List.pairwise_mergeSort before_trans before_total
  have same : (left.mergeSort before).Perm (right.mergeSort before) :=
    (List.mergeSort_perm left before).trans (permuted.trans (List.mergeSort_perm right before).symm)
  exact same.eq_of_pairwise (fun first second _ _ => before_antisymm first second)
    (sorted left) (sorted right)

end Category

/-! ## Datasets with categories in another order -/

/-- Where the description of a dataset lists the categories of a field. -/
def categoryPath (field : String) : List String := ["fields", field, "summary", "categories"]

/-- The order of its categories does not make a field the objective. -/
theorem isObjective_reordered {field other : Json}
    (reordered : Json.Reordered ["summary", "categories"] field other) (objective id : String) :
    isObjective objective id field = isObjective objective id other := by
  unfold isObjective
  rw [reordered.field?_of_ne "name" (by decide), reordered.field?_of_ne "column_number" (by decide)]

/-- The same field is found to be the objective. -/
theorem find?_isObjective_reordered (key : String) {field other : Json} (front back : Fields)
    (reordered : Json.Reordered ["summary", "categories"] field other) (objective : String) :
    let find := List.find? fun entry : String × Json => isObjective objective entry.1 entry.2
    find (front ++ (key, field) :: back) = find (front ++ (key, other) :: back) ∨
      find (front ++ (key, field) :: back) = some (key, field) ∧
        find (front ++ (key, other) :: back) = some (key, other) := by
  simp only [List.find?_append, List.find?_cons, isObjective_reordered reordered objective key]
  cases List.find? (fun entry => isObjective objective entry.1 entry.2) front with
  | some entry => exact .inl rfl
  | none =>
    cases isObjective objective key other with
    | true => exact .inr ⟨rfl, rfl⟩
    | false => exact .inl rfl

/-- What a dataset tells about its objective field does not depend on the order in which it
lists the categories of any field. -/
theorem objectiveCategories_reordered {dataset other : Resource} (sameId : other.id = dataset.id)
    {field : String} (reordered : Json.Reordered (categoryPath field) dataset.body other.body)
    (objective : String) :
    objectiveCategories other objective = objectiveCategories dataset objective := by
  unfold objectiveCategories
  rw [sameId]
  rcases reordered.field? with equal | ⟨described, changed, held, holds, inner⟩
  · rw [equal]
  · rw [held, holds]
    cases inner with
    | same => rfl
    | @field _ _ summarized other front back inner =>
      simp only [Option.bind_some, Json.fields?]
      rcases find?_isObjective_reordered field front back inner objective with
        equal | ⟨found, finds⟩
      · rw [equal]
      · rw [found, finds]
        have listed := inner.items?_descend
        dsimp only
        generalize (summarized.descend? ["summary", "categories"]).bind Json.items? = items at listed ⊢
        generalize (other.descend? ["summary", "categories"]).bind Json.items? = others at listed ⊢
        cases listed with
        | none => rfl
        | some permuted =>
          dsimp only
          rw [Category.mergeSort_eq_of_perm (permuted.filterMap Category.ofJson?)]

/-- A run asks the same, whatever the order in which the service lists the categories of a
dataset: the objective field and the filters are the same, and dividing the dataset by them
is the same step, so that in a resumed run too each identifier of the checkpoint stands at
the place of the filter it was created for. -/
theorem categoryRequests_reordered {dataset other : Resource} (sameId : other.id = dataset.id)
    {field : String} (reordered : Json.Reordered (categoryPath field) dataset.body other.body)
    (limit : CategoryLimit) :
    (objectiveCategories other limit.objective).map
        (fun found => (found.1, categoryFilters found.1 found.2 limit.limit)) =
      (objectiveCategories dataset limit.objective).map
        (fun found => (found.1, categoryFilters found.1 found.2 limit.limit)) ∧
    ∀ (run : RunContext) (options : CommonOptions) (more : List Resource)
      (heldOut : Option Resource) (metadata : Option Fields),
      run.divided options (some limit) ⟨other :: more, heldOut, metadata⟩ =
        run.divided options (some limit) ⟨dataset :: more, heldOut, metadata⟩ := by
  have told := objectiveCategories_reordered sameId reordered limit.objective
  refine ⟨by rw [told], fun run options more heldOut metadata => ?_⟩
  have asked : RunContext.filterCreation options other = RunContext.filterCreation options dataset := by
    funext filter
    rw [RunContext.filterCreation, RunContext.filterCreation, sameId]
  unfold RunContext.divided
  dsimp only
  rw [told, asked]

/-- A dataset of flowers, with its species listed in a given order. -/
def flowers (species : List Json) : Resource :=
  .mk ⟨.dataset, "000000000000000000000001"⟩ ⟨ResourceStatus.finishedCode, "", 1.0⟩ <|
    .object [("fields", .object [("000004", .object
      [("name", .text "species"), ("summary", .object [("categories", .array species)])])])]

/-- Two species are equally frequent, and one item is no category. -/
def listedSpecies : List Json :=
  [.array [.text "virginica", .ofNat 40], .array [.text "setosa"], .array [.text "setosa", .ofNat 50],
    .array [.text "versicolor", .ofNat 40]]

theorem categoryRequests_reordered_flowers :
    (flowers listedSpecies.reverse).id = (flowers listedSpecies).id ∧
    Json.Reordered (categoryPath "000004") (flowers listedSpecies).body
      (flowers listedSpecies.reverse).body ∧
    (∃ found, objectiveCategories (flowers listedSpecies) "species" = .ok found) ∧
    (objectiveCategories (flowers listedSpecies.reverse) "species").map
        (fun found => (found.1, categoryFilters found.1 found.2 2)) =
      (objectiveCategories (flowers listedSpecies) "species").map
        (fun found => (found.1, categoryFilters found.1 found.2 2)) := by
  have reordered : Json.Reordered (categoryPath "000004") (flowers listedSpecies).body
      (flowers listedSpecies.reverse).body :=
    .field [] [] (.field [] [] (.field [("name", .text "species")] [] (.field [] []
      (.items (List.reverse_perm listedSpecies).symm))))
  have sameId : (flowers listedSpecies.reverse).id = (flowers listedSpecies).id := rfl
  exact ⟨sameId, reordered, ⟨_, rfl⟩,
    (categoryRequests_reordered sameId reordered ⟨"species", 2⟩).1⟩

end ModelRuns
