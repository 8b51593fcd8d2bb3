import ModelRuns.Resource.Basic
import ModelRuns.Path

namespace ModelRuns

/-!
# Requests to the service

A run creates resources, looks at them, changes some of their fields, downloads
results and uploads its report.  A creation names what the new resource is built
from; `Creation.body` writes this origin into the fields the service expects.
-/

/-- What a new resource is built from. -/
inductive Origin
  | localFile (path : Path)
  | resource (id : ResourceId)
  | resources (ids : List ResourceId)
  | pair (first second : ResourceId)
deriving DecidableEq

/-- The request to create a resource. -/
structure Creation where
  kind : ResourceKind
  origin : Origin
  arguments : Json

namespace Creation

/-- The field that names a single origin.  A dataset made from a dataset has a
field of its own. -/
def originField (kind : ResourceKind) (origin : ResourceId) : String :=
  if kind = .dataset ∧ origin.kind = .dataset then "origin_dataset" else origin.kind.text

/-- The field that names several origins. -/
def originsField (kind : ResourceKind) : String :=
  if kind = .dataset then "origin_datasets" else "datasets"

/-- The fields that name the origin.  A local file is sent beside the fields. -/
def originFields (creation : Creation) : Fields :=
  match creation.origin with
  | .localFile _ => []
  | .resource id => [(originField creation.kind id, .text id.text)]
  | .resources ids => [(originsField creation.kind, .ofTexts (ids.map ResourceId.text))]
  | .pair first second =>
    [(first.kind.text, .text first.text), (second.kind.text, .text second.text)]

/-- The fields sent to create a resource.  Arguments that are no object count
as none, and the origin goes before an argument of the same name. -/
def body (creation : Creation) : Fields :=
  mergeFields (creation.arguments.fields?.getD []) creation.originFields

end Creation

/-- A request to the service. -/
inductive ApiRequest
  | create (creation : Creation)
  | get (id : ResourceId) (query : Option String)
  | update (id : ResourceId) (changes : Json)
  | download (id : ResourceId)
  | uploadReport (url : String) (report : Json)

/-- What the service answers to a request. -/
abbrev ApiRequest.Answer : ApiRequest → Type
  | .create _ => Except Failure Resource
  | .get _ _ => Except Failure Resource
  | .update _ _ => Except Failure Resource
  | .download _ => Except Failure String
  | .uploadReport _ _ => Except Failure String

end ModelRuns
