import ModelRuns.Failure
import ModelRuns.Text.Blank

namespace ModelRuns

/-!
# Identifiers of remote resources

The service names a resource by its kind and a key of twenty-four hexadecimal
digits, as in `model/5143a51a37203f2cf7000972`.  `ResourceId.parse` reads such
a text, with blanks around it, and `ResourceId.text` writes it.
-/

/-- The kinds of resources a run works with. -/
inductive ResourceKind
  | source
  | dataset
  | model
  | ensemble
  | cluster
  | prediction
  | batchPrediction
  | centroid
  | batchCentroid
  | evaluation
deriving DecidableEq, Repr

namespace ResourceKind

/-- Every kind. -/
def all : List ResourceKind :=
  [.source, .dataset, .model, .ensemble, .cluster, .prediction, .batchPrediction, .centroid,
    .batchCentroid, .evaluation]

/-- The name of a kind in identifiers and requests. -/
def text : ResourceKind → String
  | .source => "source"
  | .dataset => "dataset"
  | .model => "model"
  | .ensemble => "ensemble"
  | .cluster => "cluster"
  | .prediction => "prediction"
  | .batchPrediction => "batchprediction"
  | .centroid => "centroid"
  | .batchCentroid => "batchcentroid"
  | .evaluation => "evaluation"

def ofText? (name : String) : Option ResourceKind := all.find? (·.text == name)

end ResourceKind

/-- The name of a remote resource. -/
structure ResourceId where
  kind : ResourceKind
  key : String
deriving DecidableEq, Repr

namespace ResourceId

/-- The number of digits of a key. -/
def keyLength : Nat := 24

/-- A hexadecimal digit in either case. -/
def isHexDigit (c : Char) : Bool :=
  c.isDigit || ('a' ≤ c && c ≤ 'f') || ('A' ≤ c && c ≤ 'F')

/-- The written form of an identifier. -/
def text (id : ResourceId) : String := id.kind.text ++ "/" ++ id.key

/-- Read an identifier.  The part before the first slash must be a kind before
the key is looked at. -/
def parse (value : String) : Except Failure ResourceId :=
  let trimmed := trimBlank value.toList
  let shown := String.ofList trimmed
  let malformed := Failure.api ("malformed resource id `" ++ shown ++ "`")
  match trimmed.dropWhile (· ≠ '/') with
  | [] => .error malformed
  | _ :: key =>
    match ResourceKind.ofText? (String.ofList (trimmed.takeWhile (· ≠ '/'))) with
    | none => .error (.api ("unknown resource kind in `" ++ shown ++ "`"))
    | some kind =>
      if key.length = keyLength ∧ key.all isHexDigit = true then .ok ⟨kind, String.ofList key⟩
      else .error malformed

/-- Read the identifier of a resource of a given kind. -/
def parseKind (value : String) (kind : ResourceKind) : Except Failure ResourceId :=
  match parse value with
  | .error failure => .error failure
  | .ok id =>
    if id.kind = kind then .ok id
    else .error (.api ("expected a " ++ kind.text ++ " id, got `" ++ id.text ++ "`"))

end ResourceId

end ModelRuns
