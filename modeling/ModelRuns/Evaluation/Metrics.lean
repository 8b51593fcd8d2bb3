import ModelRuns.Json.Printer

namespace ModelRuns

/-!
# Results of evaluations

A result is a tree of metrics.  `metricLines` writes one line for every leaf
that is not null, with the keys on the way to it.  `averageWith` puts the mean
in the place of every number that all results have; which mean is a parameter,
so that the shape of the average can be studied apart from the rounding of
doubles.
-/

/-! ## One metric a line -/

/-- The path to a key below a path; at the top it is the key alone. -/
def metricPath (path key : List Char) : List Char :=
  if path.isEmpty then key else path ++ '.' :: key

mutual

/-- The lines of a result below a path.  Arrays are leaves. -/
def metricLines (path : List Char) : Json → List (List Char)
  | .object fields => fieldLines path fields
  | .null => []
  | .text value => [path ++ ':' :: ' ' :: value.toList]
  | .bool value => [path ++ ':' :: ' ' :: compactChars (.bool value)]
  | .number value => [path ++ ':' :: ' ' :: compactChars (.number value)]
  | .array items => [path ++ ':' :: ' ' :: compactChars (.array items)]

/-- The lines of the fields of an object, in the order of the keys. -/
def fieldLines (path : List Char) : List (String × Json) → List (List Char)
  | [] => []
  | (key, value) :: rest =>
    metricLines (metricPath path key.toList) value ++ fieldLines path rest

end

/-- The lines of a result as strings. -/
def metricTexts (path : String) (result : Json) : List String :=
  (metricLines path.toList result).map String.ofList

/-! ## Averages -/

mutual

/-- The average of a result with others: its keys at every depth, and at each
leaf that is a number in all of them, their mean.  Results that lack a key take
no part below it. -/
def averageWith (mean : List Number → Json) (first : Json) (others : List Json) : Json :=
  match first with
  | .object fields => .object (averageFields mean fields others)
  | .number value =>
    match others.mapM (fun other => match other with | .number value => some value | _ => none) with
    | some values => mean (value :: values)
    | none => .number value
  | other => other

/-- The averages of the fields of an object. -/
def averageFields (mean : List Number → Json) (fields : List (String × Json))
    (others : List Json) : List (String × Json) :=
  match fields with
  | [] => []
  | (key, value) :: rest =>
    (key, averageWith mean value (others.filterMap (·.field? key))) ::
      averageFields mean rest others

end

/-- The mean of numbers as doubles: their sum from left to right, divided by
their count.  A mean that is not finite is null. -/
def meanNumber (values : List Number) : Json :=
  let sum := values.foldl (fun sum value => sum + value.toFloat) (-0.0)
  .ofFloat (sum / nearestNatural values.length)

/-- The average of results.  Of no results it is empty. -/
def averageResults : List Json → Json
  | [] => .object []
  | first :: others => averageWith meanNumber first others

end ModelRuns
