import ModelRuns.Invocation.Options
import ModelRuns.Resource.Request

namespace ModelRuns

/-!
# Arguments of requests

Every new resource gets the name, the tags and the description of the run.
Requests add fields of their own, which go before these.  Publishing and sharing
are changes to resources that are there already.
-/

/-- A field that is there only for some value. -/
def optionalField (key : String) (encode : α → Json) : Option α → Fields
  | none => []
  | some value => [(key, encode value)]

namespace CommonOptions

variable (options : CommonOptions)

/-- The arguments of every request. -/
def baseArguments : Fields :=
  orderFields
    (("name", .text options.name) ::
      (if options.tags.isEmpty then [] else [("tags", .ofTexts options.tags)]) ++
      optionalField "description" .text options.descriptionText)

/-- The arguments of a request with fields of its own. -/
def argumentsWith (extra : Fields) : Json := .object (mergeFields options.baseArguments extra)

/-- The changes that publish or share a resource, if any are asked for.  What is
published carries the description. -/
def publishChanges (publishing whiteBox : Bool) : Option Json :=
  let published := publishing || whiteBox
  let changes : Fields :=
    (if published then [("private", .bool false)] else []) ++
    (if published then optionalField "description" .text options.descriptionText else []) ++
    (if whiteBox then [("white_box", .bool true)] else []) ++
    optionalField "shared" .bool options.sharedFlag
  if changes.isEmpty then none else some (.ofFields changes)

end CommonOptions

def datasetOrigin : List ResourceId → Origin
  | [single] => .resource single
  | many => .resources many

end ModelRuns
