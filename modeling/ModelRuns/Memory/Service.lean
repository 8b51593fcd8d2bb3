import ModelRuns.Program.Request

namespace ModelRuns

/-!
# A service in memory

A service answers requests without a network.  It numbers its resources in the
order of their creation, and their jobs are finished unless other codes are
planned.  Every request is kept, also one that fails.
-/

/-- The resources and plans of a service. -/
structure Service where
  /-- How many resources were made. -/
  count : Nat
  resources : List (ResourceId × Resource)
  /-- Codes that a resource passes through, one for each look. -/
  scripts : List (ResourceId × List Int)
  /-- Fields of every new resource of a kind. -/
  templates : List (ResourceKind × Json)
  /-- Codes for the next new resource of a kind. -/
  creationScripts : List (ResourceKind × List Int)
  /-- Messages with which creations of a kind fail. -/
  creationFailures : List (ResourceKind × String)
  downloads : List (ResourceId × String)
  /-- The requests so far, in order. -/
  requests : List ApiRequest

def pairValue? [DecidableEq κ] (key : κ) (pairs : List (κ × α)) : Option α :=
  (pairs.find? fun pair => decide (pair.1 = key)).map (·.2)

/-- A list of pairs without those of a key. -/
def dropPair [DecidableEq κ] (key : κ) (pairs : List (κ × α)) : List (κ × α) :=
  pairs.filter fun pair => decide (pair.1 ≠ key)

def putPair [DecidableEq κ] (key : κ) (value : α) (pairs : List (κ × α)) : List (κ × α) :=
  (key, value) :: dropPair key pairs

/-- The progress of a job with a code. -/
def progressOf (code : Int) : Float := if code = ResourceStatus.finishedCode then 1.0 else 0.0

/-- A number as the key of a resource. -/
def numberedKey (number : Nat) : String :=
  let digits := Nat.toDigits 16 number
  String.ofList (List.replicate (ResourceId.keyLength - digits.length) '0' ++ digits)

/-- A resource with the given fields, whose job has a code. -/
def Resource.withCode (id : ResourceId) (fields : Fields) (code : Int) : Resource :=
  ⟨id, ⟨code, "", progressOf code⟩, .object (setField "resource" (.text id.text) fields)⟩

namespace Service

/-- A service without resources. -/
def empty : Service := ⟨0, [], [], [], [], [], [], []⟩

variable (service : Service)

/-! ## Plans -/

/-- Add a finished resource. -/
def seed (kind : ResourceKind) (body : Json) : ResourceId × Service :=
  let id : ResourceId := ⟨kind, numberedKey (service.count + 1)⟩
  let resource := Resource.withCode id (body.fields?.getD []) ResourceStatus.finishedCode
  (id, { service with
    count := service.count + 1
    resources := putPair id resource service.resources })

/-- Plan the codes of a resource. -/
def script (id : ResourceId) (codes : List Int) : Service :=
  { service with scripts := putPair id codes service.scripts }

/-- Give fields to every new resource of a kind. -/
def setTemplate (kind : ResourceKind) (body : Json) : Service :=
  { service with templates := putPair kind body service.templates }

/-- Plan the codes of the next new resource of a kind. -/
def scriptCreation (kind : ResourceKind) (codes : List Int) : Service :=
  { service with creationScripts := putPair kind codes service.creationScripts }

def failCreations (kind : ResourceKind) (message : String) : Service :=
  { service with creationFailures := putPair kind message service.creationFailures }

/-- Let the creations of a kind succeed again. -/
def allowCreations (kind : ResourceKind) : Service :=
  { service with creationFailures := dropPair kind service.creationFailures }

def setDownload (id : ResourceId) (values : String) : Service :=
  { service with downloads := putPair id values service.downloads }

/-! ## Views -/

def resource? (id : ResourceId) : Option Resource := pairValue? id service.resources

/-- The creations that were asked for, of one kind. -/
def creations (kind : ResourceKind) : List Creation :=
  service.requests.filterMap fun
    | .create creation => if creation.kind = kind then some creation else none
    | _ => none

/-! ## Answers -/

/-- The failure to find a resource. -/
def notFound (id : ResourceId) : Failure := .remote id.text "not found"

/-- Create a resource.  A creation that fails uses no number. -/
def create (creation : Creation) : Except Failure Resource × Service :=
  match pairValue? creation.kind service.creationFailures with
  | some message => (.error (.api message), service)
  | none =>
    let id : ResourceId := ⟨creation.kind, numberedKey (service.count + 1)⟩
    let template := ((pairValue? creation.kind service.templates).bind Json.fields?).getD []
    let fields := mergeFields (orderFields template) creation.body
    let codes := (pairValue? creation.kind service.creationScripts).getD []
    let resource := Resource.withCode id fields (codes.head?.getD ResourceStatus.finishedCode)
    (.ok resource, { service with
      count := service.count + 1
      resources := putPair id resource service.resources
      scripts := if codes.isEmpty then service.scripts else putPair id codes service.scripts
      creationScripts := dropPair creation.kind service.creationScripts })

/-- Look at a resource.  The next planned code is used up even if there is no
such resource. -/
def get (id : ResourceId) : Except Failure Resource × Service :=
  let codes := (pairValue? id service.scripts).getD []
  let code := codes.head?.getD ResourceStatus.finishedCode
  let service := match codes with
    | [] => service
    | _ :: rest => service.script id rest
  match service.resource? id with
  | none => (.error (notFound id), service)
  | some resource =>
    let message := if code < 0 then "job failed" else resource.status.message
    let resource := { resource with status := ⟨code, message, progressOf code⟩ }
    (.ok resource, { service with resources := putPair id resource service.resources })

/-- Change fields of a resource. -/
def update (id : ResourceId) (changes : Json) : Except Failure Resource × Service :=
  match service.resource? id with
  | none => (.error (notFound id), service)
  | some resource =>
    let body := match resource.body with
      | .object fields => .object (mergeFields fields (changes.fields?.getD []))
      | body => body
    let resource := { resource with body }
    (.ok resource, { service with resources := putPair id resource service.resources })

def keep (request : ApiRequest) : Service :=
  { service with requests := service.requests ++ [request] }

def answer : (request : ApiRequest) → Service → request.Answer × Service
  | .create creation, service => (service.keep (.create creation)).create creation
  | .get id query, service => (service.keep (.get id query)).get id
  | .update id changes, service => (service.keep (.update id changes)).update id changes
  | .download id, service =>
    (.ok ((pairValue? id service.downloads).getD ""), service.keep (.download id))
  | .uploadReport url report, service =>
    (.ok (url ++ "/1"), service.keep (.uploadReport url report))

end Service

end ModelRuns
