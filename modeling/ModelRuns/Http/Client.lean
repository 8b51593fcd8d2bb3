import ModelRuns.Http.Message
import ModelRuns.Json.Reader
import ModelRuns.Resource.Request
import ModelRuns.RunLog.Event
import ModelRuns.Settings.Basic

namespace ModelRuns

/-!
# The service behind a connection

`HttpRequest.ofRequest` writes a request to the service as a message, and
`ApiRequest.interpret` reads the response.  Sending the message lies between the
two and is no part of either; a request that could not be sent, or was not
answered, has no response.

Credentials travel in the query of every address but that of a report.
-/

/-- What a request does, in messages. -/
def ApiRequest.activity : ApiRequest → String
  | .create creation => "create " ++ creation.kind.text
  | .get id _ => "get " ++ id.text
  | .update id _ => "update " ++ id.text
  | .download id => "download " ++ id.text
  | .uploadReport _ _ => "upload report"

/-- What is noted before a request is sent: that it creates or changes
something. -/
def ApiRequest.event? : ApiRequest → Option RunEvent
  | .create creation => some ⟨debugLevel, "api.create",
      .ofFields [("kind", .text creation.kind.text), ("body", .object creation.body)]⟩
  | .update id changes => some ⟨debugLevel, "api.update",
      .ofFields [("resource", .text id.text), ("changes", changes)]⟩
  | _ => none

/-! ## Requests -/

namespace ApiSettings

variable (settings : ApiSettings)

/-- The address of a part of the service, with credentials and a further query
that is not empty. -/
def url (path : String) (query : Option String) : Except Failure Url :=
  match Url.read (settings.baseUrl ++ path) with
  | .error fault => .error (.api ("invalid url for " ++ path ++ ": " ++ fault.message))
  | .ok url =>
    let url := (url.withPair "username" settings.username).withPair "api_key" settings.apiKey
    match query with
    | none => .ok url
    | some extra => .ok (if extra = "" then url else url.withExtra extra)

/-- The body of a creation.  Only a source is made from a local file. -/
def creationBody (creation : Creation) : Except Failure HttpBody :=
  match creation.origin with
  | .localFile path =>
    if creation.kind = .source then
      .ok (.form path (creation.body.map fun (key, value) => (key, formText value)))
    else
      .error (.api ("a " ++ creation.kind.text ++ " cannot be created from local file " ++
        path.text))
  | _ => .ok (.document (.object creation.body))

def message : ApiRequest → Except Failure HttpRequest
  | .create creation => do
    let url ← settings.url creation.kind.text none
    let body ← creationBody creation
    return ⟨.post, url.withoutUser, body⟩
  | .get id query => do return ⟨.get, (← settings.url id.text query).withoutUser, .empty⟩
  | .update id changes => do
    return ⟨.put, (← settings.url id.text none).withoutUser, .document changes⟩
  | .download id => do
    return ⟨.get, (← settings.url (id.text ++ "/download") none).withoutUser, .empty⟩
  | .uploadReport url report =>
    match Url.read url with
    | .error _ => .error (.api "upload report: builder error")
    | .ok url => .ok ⟨.post, url.withoutUser, .document report⟩

end ApiSettings

/-! ## Responses -/

/-- The message a service gives with a failure. -/
def failureMessage (body : Json) : String :=
  ((body.descend? ["status", "message"]).bind Json.text?).getD "request failed"

/-- The failure of a request that the service refused. -/
def refused (label : String) (status : Nat) (message : String) : Failure :=
  .remote label ("HTTP " ++ toString status ++ ": " ++ message)

def readResource (label : String) (response : HttpResponse) : Except Failure Resource :=
  let document := (decodeUtf8? response.body).bind fun text => (Json.read text).toOption
  match document with
  | none => .error (.api ("invalid response for " ++ label ++ ": error decoding response body"))
  | some body =>
    if isSuccess response.status then Resource.parse body
    else .error (refused label response.status (failureMessage body))

/-- Read the text of a response. -/
def readDownload (label : String) (response : HttpResponse) : Except Failure String :=
  if isSuccess response.status then .ok (decodeLossy response.body)
  else .error (refused label response.status "download failed")

/-- Where a report is kept: where the response says, else where it was sent. -/
def readLocation (sent : String) (response : HttpResponse) : Except Failure String :=
  if isSuccess response.status then
    let given := (response.header? "location").filter fun location =>
      location.toList.all fun c => c = '\t' || (0x20 ≤ c.toNat && c.toNat < 0x7F)
    .ok (given.getD sent)
  else .error (.api ("upload report: HTTP " ++ toString response.status))

/-- The answer to a request, from the response to its message. -/
def ApiRequest.interpret : (request : ApiRequest) → HttpResponse → request.Answer
  | .create creation, response => readResource creation.kind.text response
  | .get id _, response => readResource id.text response
  | .update id _, response => readResource id.text response
  | .download id, response => readDownload id.text response
  | .uploadReport url _, response => readLocation url response

def ApiRequest.fail (failure : Failure) : (request : ApiRequest) → request.Answer
  | .create _ => .error failure
  | .get _ _ => .error failure
  | .update _ _ => .error failure
  | .download _ => .error failure
  | .uploadReport _ _ => .error failure

/-- The failure of a request before there is a connection. -/
def notConnected : Failure := .api "not connected"

/-- The failure of a message that had no response. -/
def ApiRequest.unanswered (request : ApiRequest) (url : Url) : Failure :=
  let trouble := if url.isReachable then "error sending request" else "builder error"
  .api (request.activity ++ ": " ++ trouble ++ " for url (" ++ url.text ++ ")")

/-- Answer a request over a connection.  `checkFile` says whether a local file
can be opened, and `send` gives the response to a message, if there is one. -/
def ApiSettings.answer {m : Type → Type} [Monad m] (settings : ApiSettings)
    (checkFile : Path → m (Except Failure Unit)) (send : HttpRequest → m (Option HttpResponse))
    (request : ApiRequest) : m request.Answer := do
  match settings.message request with
  | .error failure => return request.fail failure
  | .ok message =>
    let ready ← match message.body with
      | .form file _ => checkFile file
      | _ => pure (.ok ())
    match ready with
    | .error failure => return request.fail failure
    | .ok () =>
      let response ← if message.url.isReachable then send message else pure none
      match response with
      | some response => return request.interpret response
      | none => return request.fail (request.unanswered message.url)

end ModelRuns
