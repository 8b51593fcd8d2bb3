namespace ModelRuns

/-!
# Failures

Every operation that can go wrong gives a `Failure`: its kind says which part
failed, and `Failure.message` is the text shown to the user and kept in logs.
Invocations are checked before any request is sent; what these checks find is
an `Objection`.
-/

/-- What is wrong with an invocation that could be read. -/
inductive Objection
  | missingDescription
  | missingObjective
  | missingDatasetForNewFields
  | invalidValue (text : String)
deriving DecidableEq, Repr

/-- The wording of an objection. -/
def Objection.message : Objection → String
  | .missingDescription => "You should provide a description to publish."
  | .missingObjective =>
    "When --max-categories is used, you must also provide the --objective " ++
      "field name or column number"
  | .missingDatasetForNewFields =>
    "To use --new-fields you must also provide a dataset id to generate " ++
      "the new dataset from it."
  | .invalidValue text => text

/-- Why an operation failed. -/
inductive Failure
  | io (text : String)
  | configParse (text : String)
  | invalidConfig (text : String)
  | commandLine (text : String)
  | objection (cause : Objection)
  | corruptLog (text : String)
  | remote (resource : String) (text : String)
  | api (text : String)
  | timeout (resource : String)
deriving DecidableEq, Repr

/-- The wording of a failure. -/
def Failure.message : Failure → String
  | .io text => "io error: " ++ text
  | .configParse text => "config parse error: " ++ text
  | .invalidConfig text => "invalid config: " ++ text
  | .commandLine text => "cli error: " ++ text
  | .objection cause => cause.message
  | .corruptLog text => "corrupt log: " ++ text
  | .remote resource text => "remote error for " ++ resource ++ ": " ++ text
  | .api text => "api error: " ++ text
  | .timeout resource => "timed out waiting for " ++ resource

end ModelRuns
