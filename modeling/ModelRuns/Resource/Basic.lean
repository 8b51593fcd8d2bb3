import ModelRuns.Resource.Id
import ModelRuns.Resource.Status

namespace ModelRuns

/-!
# Remote resources

A resource is the answer of the service to a request: its identifier, the
status of its job and the whole answer as a document.
-/

/-- A remote resource as the service described it. -/
structure Resource where
  id : ResourceId
  status : ResourceStatus
  body : Json

namespace Resource

/-- Read a resource from an answer. -/
def parse (body : Json) : Except Failure Resource :=
  match (body.field? "resource").bind Json.text? with
  | none => .error (.api "response carries no `resource` id")
  | some text =>
    match ResourceId.parse text with
    | .error failure => .error failure
    | .ok id =>
      match body.field? "status" with
      | none => .error (.api ("response for " ++ id.text ++ " carries no status"))
      | some status =>
        match ResourceStatus.ofJson status with
        | .error fault =>
          .error (.api ("invalid status for " ++ id.text ++ ": " ++ fault.message))
        | .ok status => .ok ⟨id, status, body⟩

def name? (resource : Resource) : Option String :=
  (resource.body.field? "name").bind Json.text?

/-- A value the user keeps with a resource. -/
def userMetadata? (resource : Resource) (key : String) : Option Json :=
  (resource.body.field? "user_metadata").bind (·.field? key)

end Resource

/-- A resource known by its identifier alone, or with the answer at hand. -/
inductive ResourceReference
  | unresolved (id : ResourceId)
  | resolved (resource : Resource)

/-- The identifier of a reference. -/
def ResourceReference.id : ResourceReference → ResourceId
  | .unresolved id => id
  | .resolved resource => resource.id

end ModelRuns
