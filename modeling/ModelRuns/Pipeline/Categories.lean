import ModelRuns.Json.Printer
import ModelRuns.Resource.Basic

namespace ModelRuns

/-!
# Limiting the categories of an objective field

A dataset can be divided by the categories of its objective field: one filter
keeps each of the most frequent categories, and one gathers all others.  The
categories are ordered by count and name, so that the filters do not depend on
the order in which the service lists them.
-/

/-- The label of the dataset that gathers the rarer categories. -/
def otherLabel : String := "*****other*****"

/-- A category of a field and how often it occurs. -/
structure Category where
  name : String
  count : Nat
deriving DecidableEq, Repr

namespace Category

/-- More frequent categories come first, and among equals the first by name. -/
def before (left right : Category) : Bool :=
  right.count < left.count || (left.count == right.count && !(right.name < left.name))

/-- Read a category: an array that begins with a name and a count. -/
def ofJson? : Json → Option Category
  | .array (.text name :: count :: _) => count.natural?.map (⟨name, ·⟩)
  | _ => none

end Category

/-- Whether a field is the objective: by its identifier, its name or the number
of its column. -/
def isObjective (objective : String) (id : String) (field : Json) : Bool :=
  id == objective || (field.field? "name").bind Json.text? == some objective ||
    ((field.field? "column_number").bind Json.natural?).any (toString · == objective)

/-- Refuse a value that the service's answer shows to be wrong. -/
def invalidValue (text : String) : Except Failure α := .error (.objection (.invalidValue text))

/-- The objective field of a dataset and its categories in order. -/
def objectiveCategories (dataset : Resource) (objective : String) :
    Except Failure (String × List Category) :=
  match (dataset.body.field? "fields").bind Json.fields? with
  | none => invalidValue (dataset.id.text ++ " has no field descriptions")
  | some fields =>
    match fields.find? (fun (id, field) => isObjective objective id field) with
    | none =>
      invalidValue ("objective field " ++ objective ++ " not found in " ++ dataset.id.text)
    | some (id, field) =>
      match (field.descend? ["summary", "categories"]).bind Json.items? with
      | none => invalidValue ("objective field " ++ objective ++ " is not categorical")
      | some items => .ok (id, (items.filterMap Category.ofJson?).mergeSort Category.before)

/-- The filter of the rows in which a field has a value. -/
def equalsFilter (field category : String) : String :=
  "(= (f " ++ String.ofList (quoteText field) ++ ") " ++ String.ofList (quoteText category) ++ ")"

/-- A filter and the label of the dataset it makes. -/
structure CategoryFilter where
  label : String
  filter : String
deriving DecidableEq, Repr

/-- The filters of the kept categories, and one for all others if there are more
categories than the limit.  Others are gathered only beside at least one kept
category, so a limit below two counts as two. -/
def categoryFilters (field : String) (categories : List Category) (limit : Nat) :
    List CategoryFilter :=
  let limit := max limit 2
  let single := fun (category : Category) =>
    (⟨category.name, equalsFilter field category.name⟩ : CategoryFilter)
  if categories.length ≤ limit then categories.map single
  else
    let kept := (categories.take (limit - 1)).map single
    let any := " ".intercalate (kept.map CategoryFilter.filter)
    kept ++ [⟨otherLabel, "(not (or " ++ any ++ "))"⟩]

end ModelRuns
