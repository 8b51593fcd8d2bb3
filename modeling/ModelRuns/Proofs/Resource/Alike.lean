import Mathlib.Data.List.Forall2
import ModelRuns.Pipeline.Clusters

namespace ModelRuns

/-!
# Resources that a run cannot tell apart

Two looks at the same resource need not give the same answer: the message of its
status may differ, and publishing changes some of its fields.  A run looks at
none of these.  Two answers are alike when they agree on the identifier and on
every other field, and then a run goes on from both in the same way.
-/

/-- The fields that publishing and sharing change. -/
def publishedKeys : List String := ["private", "description", "white_box", "shared"]

/-- The answers agree on all that a run looks at. -/
structure Resource.Alike (left right : Resource) : Prop where
  id : left.id = right.id
  field : ∀ key, key ∉ publishedKeys → left.body.field? key = right.body.field? key

namespace Resource.Alike

variable {first second third : Resource}

theorem refl (resource : Resource) : resource.Alike resource :=
  ⟨rfl, fun _ _ => rfl⟩

theorem symm (alike : first.Alike second) : second.Alike first :=
  ⟨alike.id.symm, fun key free => (alike.field key free).symm⟩

theorem trans (alike : first.Alike second) (other : second.Alike third) : first.Alike third :=
  ⟨alike.id.trans other.id, fun key free => (alike.field key free).trans (other.field key free)⟩

theorem descend (alike : first.Alike second) (key : String) (rest : List String)
    (free : key ∉ publishedKeys) :
    first.body.descend? (key :: rest) = second.body.descend? (key :: rest) := by
  rw [Json.descend?, Json.descend?, alike.field key free]

/-- The categories of an objective field. -/
theorem objectiveCategories (alike : first.Alike second) (objective : String) :
    ModelRuns.objectiveCategories first objective =
      ModelRuns.objectiveCategories second objective := by
  unfold ModelRuns.objectiveCategories
  rw [alike.field "fields" (by decide), alike.id]

/-- The centroids of a cluster. -/
theorem centroids (alike : first.Alike second) :
    ModelRuns.centroids first = ModelRuns.centroids second := by
  have listed : listedDataset first = listedDataset second := by
    funext centroid
    unfold listedDataset
    rw [alike.field "cluster_datasets" (by decide)]
  have read : Centroid.ofJson? first = Centroid.ofJson? second := by
    funext item
    unfold Centroid.ofJson?
    rw [listed]
  unfold ModelRuns.centroids
  rw [alike.descend "clusters" ["clusters"] (by decide), read]

end Resource.Alike

/-! ## Several resources -/

/-- Lists of answers that agree one by one. -/
abbrev Resource.AllAlike : List Resource → List Resource → Prop :=
  List.Forall₂ Resource.Alike

namespace Resource.AllAlike

theorem refl (resources : List Resource) : Resource.AllAlike resources resources :=
  List.forall₂_same.mpr fun resource _ => Alike.refl resource

theorem ids {left right : List Resource} (alike : Resource.AllAlike left right) :
    left.map Resource.id = right.map Resource.id := by
  induction alike with
  | nil => rfl
  | cons first _ inductionHypothesis =>
    rw [List.map_cons, List.map_cons, first.id, inductionHypothesis]

theorem isEmpty {left right : List Resource} (alike : Resource.AllAlike left right) :
    left.isEmpty = right.isEmpty := by
  cases alike <;> rfl

end Resource.AllAlike

/-- Answers that may be missing, and are missing together. -/
abbrev Resource.MaybeAlike : Option Resource → Option Resource → Prop :=
  Option.Rel Resource.Alike

theorem Resource.MaybeAlike.refl (resource : Option Resource) :
    Resource.MaybeAlike resource resource := by
  cases resource with
  | none => exact .none
  | some resource => exact .some (.refl resource)

theorem Resource.MaybeAlike.isSome {left right : Option Resource}
    (alike : Resource.MaybeAlike left right) : left.isSome = right.isSome := by
  cases alike <;> rfl

theorem Resource.AllAlike.head {left right : List Resource} (alike : AllAlike left right) :
    MaybeAlike left.head? right.head? := by
  cases alike with
  | nil => exact .none
  | cons first _ => exact .some first

theorem Resource.MaybeAlike.orElse {left right other another : Option Resource}
    (alike : MaybeAlike left right) (later : MaybeAlike other another) :
    MaybeAlike (left <|> other) (right <|> another) := by
  cases alike with
  | none => simpa using later
  | some alike => exact .some alike

/-! ## What stages hand on -/

/-- Training data that a run cannot tell apart. -/
structure TrainingData.Alike (left right : TrainingData) : Prop where
  datasets : Resource.AllAlike left.datasets right.datasets
  heldOut : Resource.MaybeAlike left.heldOut right.heldOut
  categoryMetadata : left.categoryMetadata = right.categoryMetadata

theorem TrainingData.Alike.refl (training : TrainingData) : training.Alike training :=
  ⟨.refl _, .refl _, rfl⟩

/-- Predictors that a run cannot tell apart. -/
structure Predictor.Alike (left right : Predictor) : Prop where
  ensemble : Resource.MaybeAlike left.ensemble right.ensemble
  models : Resource.AllAlike left.models right.models

namespace Predictor.Alike

theorem refl (predictor : Predictor) : predictor.Alike predictor := ⟨.refl _, .refl _⟩

theorem primary {left right : Predictor} (alike : left.Alike right) :
    Resource.MaybeAlike left.primary? right.primary? :=
  alike.ensemble.orElse alike.models.head

theorem resources {left right : Predictor} (alike : left.Alike right) :
    Resource.AllAlike left.resources right.resources := by
  rcases left with ⟨leftEnsemble, leftModels⟩
  rcases right with ⟨rightEnsemble, rightModels⟩
  rcases alike with ⟨ensemble, models⟩
  cases ensemble with
  | none => exact models
  | some alike => exact .cons alike models

end Predictor.Alike

/-- The same requests are sent for models of training data that is alike. -/
theorem TrainingData.Alike.modelCreations {left right : TrainingData} (alike : left.Alike right)
    (options : MainOptions) : options.modelCreations left = options.modelCreations right := by
  unfold MainOptions.modelCreations
  rw [alike.datasets.ids, alike.categoryMetadata]

end ModelRuns
