import ModelRuns.Failure
import ModelRuns.Invocation.Options

namespace ModelRuns

/-!
# Objections to an invocation

These checks need nothing but the options.  They come before any request to the
service, and the first objection decides.
-/

/-- Object unless a condition holds. -/
def require (holds : Bool) (objection : Objection) : Except Objection Unit :=
  if holds then .ok () else .error objection

/-- Whatever is published needs a description. -/
def CommonOptions.checkDescription (options : CommonOptions) (publishing : Bool) :
    Except Objection Unit :=
  require (!publishing || options.descriptionText.isSome) .missingDescription

/-- Whether a rate is at least zero and below one. -/
def isHeldOutRate (rate : Float) : Bool := 0.0 ≤ rate && rate < 1.0

/-- Whether a rate is above zero and at most one. -/
def isSampleRate (rate : Float) : Bool := 0.0 < rate && rate ≤ 1.0

/-- The checks of both pipelines. -/
def CommonOptions.check (options : CommonOptions) : Except Objection Unit := do
  require (options.newFields.isNone || options.dataset.isSome) .missingDatasetForNewFields
  require (isHeldOutRate options.testSplit) (.invalidValue "--test-split must be in [0, 1)")
  require (options.sampleRate.all isSampleRate)
    (.invalidValue "--sample-rate must be in (0, 1]")

/-- The checks of the main pipeline. -/
def MainOptions.check (options : MainOptions) : Except Objection Unit := do
  options.common.checkDescription
    (options.blackBox || options.whiteBox || options.common.publicDataset)
  require (options.maxCategories == 0 || options.common.objective.isSome) .missingObjective
  require (options.maxCategories != 1) (.invalidValue "--max-categories must be at least 2")
  options.common.check
  require (options.numberOfModels != 0) (.invalidValue "--number-of-models must be at least 1")
  require (isHeldOutRate options.crossValidationRate)
    (.invalidValue "--cross-validation-rate must be in [0, 1)")
  require (!(0.0 < options.crossValidationRate) || options.numberOfEvaluations != 0)
    (.invalidValue "--number-of-evaluations must be at least 1")

/-- The checks of the cluster pipeline. -/
def ClusterOptions.check (options : ClusterOptions) : Except Objection Unit := do
  options.common.checkDescription (options.publicCluster || options.common.publicDataset)
  options.common.check
  require (options.k != some 0) (.invalidValue "--k must be at least 1")

/-- The first objection to an invocation, if there is one. -/
def Invocation.check : Invocation → Except Objection Unit
  | .main options => options.check
  | .cluster options => options.check

end ModelRuns
